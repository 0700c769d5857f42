import SchemaLink.Class.Definition

/-!
# Built-in classes

The classes that hints may name without a definition of their own, each with the members that it
defines itself: a member of an earlier ancestor meets the requirement of a later one.
-/

namespace SchemaLink.Class.Builtin

def object : Class := ofDefinition
  { id := "object", name := "object", path := "object"
    bases := []
    concrete := ["__class__", "__delattr__", "__dir__", "__eq__", "__format__", "__ge__",
      "__getattribute__", "__getstate__", "__gt__", "__hash__", "__init__", "__init_subclass__",
      "__le__", "__lt__", "__ne__", "__new__", "__reduce__", "__reduce_ex__", "__repr__",
      "__setattr__", "__sizeof__", "__str__", "__subclasshook__"] }

def abstractBase : Class := ofDefinition
  { id := "ABC", name := "ABC", path := "abc.ABC"
    bases := [object]
    accountable := true }

def asyncIterable : Class := ofDefinition
  { id := "AsyncIterable", name := "AsyncIterable", path := "collections.abc.AsyncIterable"
    bases := [object]
    concrete := ["__class_getitem__", "__subclasshook__"]
    required := ["__aiter__"]
    accountable := true }

def awaitable : Class := ofDefinition
  { id := "Awaitable", name := "Awaitable", path := "collections.abc.Awaitable"
    bases := [object]
    concrete := ["__class_getitem__", "__subclasshook__"]
    required := ["__await__"]
    accountable := true }

def baseException : Class := ofDefinition
  { id := "BaseException", name := "BaseException", path := "BaseException"
    bases := [object]
    concrete := ["__cause__", "__context__", "__delattr__", "__getattribute__", "__init__",
      "__new__", "__reduce__", "__repr__", "__setattr__", "__setstate__", "__str__",
      "__suppress_context__", "__traceback__", "add_note", "args", "with_traceback"] }

def callable : Class := ofDefinition
  { id := "Callable", name := "Callable", path := "collections.abc.Callable"
    bases := [object]
    concrete := ["__class_getitem__", "__subclasshook__"]
    required := ["__call__"]
    accountable := true }

def container : Class := ofDefinition
  { id := "Container", name := "Container", path := "collections.abc.Container"
    bases := [object]
    concrete := ["__class_getitem__", "__subclasshook__"]
    required := ["__contains__"]
    accountable := true }

def decimal : Class := ofDefinition
  { id := "Decimal", name := "Decimal", path := "decimal.Decimal"
    bases := [object]
    concrete := ["__abs__", "__add__", "__bool__", "__ceil__", "__complex__", "__copy__",
      "__deepcopy__", "__divmod__", "__eq__", "__float__", "__floor__", "__floordiv__",
      "__format__", "__ge__", "__getattribute__", "__gt__", "__hash__", "__int__", "__le__",
      "__lt__", "__mod__", "__mul__", "__ne__", "__neg__", "__new__", "__pos__", "__pow__",
      "__radd__", "__rdivmod__", "__reduce__", "__repr__", "__rfloordiv__", "__rmod__",
      "__rmul__", "__round__", "__rpow__", "__rsub__", "__rtruediv__", "__sizeof__", "__str__",
      "__sub__", "__truediv__", "__trunc__", "adjusted", "as_integer_ratio", "as_tuple",
      "canonical", "compare", "compare_signal", "compare_total", "compare_total_mag", "conjugate",
      "copy_abs", "copy_negate", "copy_sign", "exp", "fma", "from_float", "imag", "is_canonical",
      "is_finite", "is_infinite", "is_nan", "is_normal", "is_qnan", "is_signed", "is_snan",
      "is_subnormal", "is_zero", "ln", "log10", "logb", "logical_and", "logical_invert",
      "logical_or", "logical_xor", "max", "max_mag", "min", "min_mag", "next_minus", "next_plus",
      "next_toward", "normalize", "number_class", "quantize", "radix", "real", "remainder_near",
      "rotate", "same_quantum", "scaleb", "shift", "sqrt", "to_eng_string", "to_integral",
      "to_integral_exact", "to_integral_value"] }

def enumeration : Class := ofDefinition
  { id := "Enum", name := "Enum", path := "enum.Enum"
    bases := [object]
    concrete := ["__copy__", "__deepcopy__", "__dir__", "__format__", "__hash__", "__init__",
      "__new__", "__reduce_ex__", "__repr__", "__str__", "_generate_next_value_", "_member_map_",
      "_member_names_", "_member_type_", "_missing_", "_new_member_", "_unhashable_values_",
      "_use_args_", "_value2member_map_", "_value_repr_", "name", "value"] }

def genericAlias : Class := ofDefinition
  { id := "GenericAlias", name := "GenericAlias", path := "types.GenericAlias"
    bases := [object]
    concrete := ["__args__", "__call__", "__dir__", "__eq__", "__ge__", "__getattribute__",
      "__getitem__", "__gt__", "__hash__", "__instancecheck__", "__iter__", "__le__", "__lt__",
      "__mro_entries__", "__ne__", "__new__", "__or__", "__origin__", "__parameters__",
      "__reduce__", "__repr__", "__ror__", "__subclasscheck__", "__typing_unpacked_tuple_args__",
      "__unpacked__"] }

def hashable : Class := ofDefinition
  { id := "Hashable", name := "Hashable", path := "collections.abc.Hashable"
    bases := [object]
    concrete := ["__subclasshook__"]
    required := ["__hash__"]
    accountable := true }

def iterable : Class := ofDefinition
  { id := "Iterable", name := "Iterable", path := "collections.abc.Iterable"
    bases := [object]
    concrete := ["__class_getitem__", "__subclasshook__"]
    required := ["__iter__"]
    accountable := true }

def noneType : Class := ofDefinition
  { id := "NoneType", name := "NoneType", path := "NoneType"
    bases := [object]
    concrete := ["__bool__", "__new__", "__repr__"] }

def purePath : Class := ofDefinition
  { id := "PurePath", name := "PurePath", path := "pathlib.PurePath"
    bases := [object]
    concrete := ["__bytes__", "__eq__", "__fspath__", "__ge__", "__gt__", "__hash__", "__le__",
      "__lt__", "__new__", "__reduce__", "__repr__", "__rtruediv__", "__str__", "__truediv__",
      "_cached_cparts", "_cparts", "_drv", "_format_parsed_parts", "_from_parsed_parts",
      "_from_parts", "_hash", "_make_child", "_parse_args", "_parts", "_pparts", "_root", "_str",
      "anchor", "as_posix", "as_uri", "drive", "is_absolute", "is_relative_to", "is_reserved",
      "joinpath", "match", "name", "parent", "parents", "parts", "relative_to", "root", "stem",
      "suffix", "suffixes", "with_name", "with_stem", "with_suffix"] }

def simpleNamespace : Class := ofDefinition
  { id := "SimpleNamespace", name := "SimpleNamespace", path := "types.SimpleNamespace"
    bases := [object]
    concrete := ["__delattr__", "__eq__", "__ge__", "__getattribute__", "__gt__", "__hash__",
      "__init__", "__le__", "__lt__", "__ne__", "__new__", "__reduce__", "__repr__",
      "__setattr__"] }

def sized : Class := ofDefinition
  { id := "Sized", name := "Sized", path := "collections.abc.Sized"
    bases := [object]
    concrete := ["__subclasshook__"]
    required := ["__len__"]
    accountable := true }

def uuid : Class := ofDefinition
  { id := "UUID", name := "UUID", path := "uuid.UUID"
    bases := [object]
    concrete := ["__eq__", "__ge__", "__getstate__", "__gt__", "__hash__", "__init__", "__int__",
      "__le__", "__lt__", "__repr__", "__setattr__", "__setstate__", "__str__", "bytes",
      "bytes_le", "clock_seq", "clock_seq_hi_variant", "clock_seq_low", "fields", "hex", "int",
      "is_safe", "node", "time", "time_hi_version", "time_low", "time_mid", "urn", "variant",
      "version"] }

def unionType : Class := ofDefinition
  { id := "UnionType", name := "UnionType", path := "types.UnionType"
    bases := [object]
    concrete := ["__args__", "__eq__", "__ge__", "__getattribute__", "__getitem__", "__gt__",
      "__hash__", "__le__", "__lt__", "__ne__", "__or__", "__parameters__", "__repr__", "__ror__"] }

def bytearray : Class := ofDefinition
  { id := "bytearray", name := "bytearray", path := "bytearray"
    bases := [object]
    concrete := ["__add__", "__alloc__", "__contains__", "__delitem__", "__eq__", "__ge__",
      "__getattribute__", "__getitem__", "__gt__", "__hash__", "__iadd__", "__imul__", "__init__",
      "__iter__", "__le__", "__len__", "__lt__", "__mod__", "__mul__", "__ne__", "__new__",
      "__reduce__", "__reduce_ex__", "__repr__", "__rmod__", "__rmul__", "__setitem__",
      "__sizeof__", "__str__", "append", "capitalize", "center", "clear", "copy", "count",
      "decode", "endswith", "expandtabs", "extend", "find", "fromhex", "hex", "index", "insert",
      "isalnum", "isalpha", "isascii", "isdigit", "islower", "isspace", "istitle", "isupper",
      "join", "ljust", "lower", "lstrip", "maketrans", "partition", "pop", "remove",
      "removeprefix", "removesuffix", "replace", "reverse", "rfind", "rindex", "rjust",
      "rpartition", "rsplit", "rstrip", "split", "splitlines", "startswith", "strip", "swapcase",
      "title", "translate", "upper", "zfill"] }

def bytes : Class := ofDefinition
  { id := "bytes", name := "bytes", path := "bytes"
    bases := [object]
    concrete := ["__add__", "__bytes__", "__contains__", "__eq__", "__ge__", "__getattribute__",
      "__getitem__", "__getnewargs__", "__gt__", "__hash__", "__iter__", "__le__", "__len__",
      "__lt__", "__mod__", "__mul__", "__ne__", "__new__", "__repr__", "__rmod__", "__rmul__",
      "__str__", "capitalize", "center", "count", "decode", "endswith", "expandtabs", "find",
      "fromhex", "hex", "index", "isalnum", "isalpha", "isascii", "isdigit", "islower", "isspace",
      "istitle", "isupper", "join", "ljust", "lower", "lstrip", "maketrans", "partition",
      "removeprefix", "removesuffix", "replace", "rfind", "rindex", "rjust", "rpartition",
      "rsplit", "rstrip", "split", "splitlines", "startswith", "strip", "swapcase", "title",
      "translate", "upper", "zfill"] }

def complex : Class := ofDefinition
  { id := "complex", name := "complex", path := "complex"
    bases := [object]
    concrete := ["__abs__", "__add__", "__bool__", "__complex__", "__eq__", "__format__",
      "__ge__", "__getattribute__", "__getnewargs__", "__gt__", "__hash__", "__le__", "__lt__",
      "__mul__", "__ne__", "__neg__", "__new__", "__pos__", "__pow__", "__radd__", "__repr__",
      "__rmul__", "__rpow__", "__rsub__", "__rtruediv__", "__sub__", "__truediv__", "conjugate",
      "imag", "real"] }

def date : Class := ofDefinition
  { id := "date", name := "date", path := "datetime.date"
    bases := [object]
    concrete := ["__add__", "__eq__", "__format__", "__ge__", "__getattribute__", "__gt__",
      "__hash__", "__le__", "__lt__", "__ne__", "__new__", "__radd__", "__reduce__", "__repr__",
      "__rsub__", "__str__", "__sub__", "ctime", "day", "fromisocalendar", "fromisoformat",
      "fromordinal", "fromtimestamp", "isocalendar", "isoformat", "isoweekday", "max", "min",
      "month", "replace", "resolution", "strftime", "timetuple", "today", "toordinal", "weekday",
      "year"] }

def deque : Class := ofDefinition
  { id := "deque", name := "deque", path := "collections.deque"
    bases := [object]
    concrete := ["__add__", "__class_getitem__", "__contains__", "__copy__", "__delitem__",
      "__eq__", "__ge__", "__getattribute__", "__getitem__", "__gt__", "__hash__", "__iadd__",
      "__imul__", "__init__", "__iter__", "__le__", "__len__", "__lt__", "__mul__", "__ne__",
      "__new__", "__reduce__", "__repr__", "__reversed__", "__rmul__", "__setitem__",
      "__sizeof__", "append", "appendleft", "clear", "copy", "count", "extend", "extendleft",
      "index", "insert", "maxlen", "pop", "popleft", "remove", "reverse", "rotate"] }

def dict : Class := ofDefinition
  { id := "dict", name := "dict", path := "dict"
    bases := [object]
    concrete := ["__class_getitem__", "__contains__", "__delitem__", "__eq__", "__ge__",
      "__getattribute__", "__getitem__", "__gt__", "__hash__", "__init__", "__ior__", "__iter__",
      "__le__", "__len__", "__lt__", "__ne__", "__new__", "__or__", "__repr__", "__reversed__",
      "__ror__", "__setitem__", "__sizeof__", "clear", "copy", "fromkeys", "get", "items", "keys",
      "pop", "popitem", "setdefault", "update", "values"] }

def float : Class := ofDefinition
  { id := "float", name := "float", path := "float"
    bases := [object]
    concrete := ["__abs__", "__add__", "__bool__", "__ceil__", "__divmod__", "__eq__",
      "__float__", "__floor__", "__floordiv__", "__format__", "__ge__", "__getattribute__",
      "__getformat__", "__getnewargs__", "__gt__", "__hash__", "__int__", "__le__", "__lt__",
      "__mod__", "__mul__", "__ne__", "__neg__", "__new__", "__pos__", "__pow__", "__radd__",
      "__rdivmod__", "__repr__", "__rfloordiv__", "__rmod__", "__rmul__", "__round__", "__rpow__",
      "__rsub__", "__rtruediv__", "__sub__", "__truediv__", "__trunc__", "as_integer_ratio",
      "conjugate", "fromhex", "hex", "imag", "is_integer", "real"] }

def frozenset : Class := ofDefinition
  { id := "frozenset", name := "frozenset", path := "frozenset"
    bases := [object]
    concrete := ["__and__", "__class_getitem__", "__contains__", "__eq__", "__ge__",
      "__getattribute__", "__gt__", "__hash__", "__iter__", "__le__", "__len__", "__lt__",
      "__ne__", "__new__", "__or__", "__rand__", "__reduce__", "__repr__", "__ror__", "__rsub__",
      "__rxor__", "__sizeof__", "__sub__", "__xor__", "copy", "difference", "intersection",
      "isdisjoint", "issubset", "issuperset", "symmetric_difference", "union"] }

def int : Class := ofDefinition
  { id := "int", name := "int", path := "int"
    bases := [object]
    concrete := ["__abs__", "__add__", "__and__", "__bool__", "__ceil__", "__divmod__", "__eq__",
      "__float__", "__floor__", "__floordiv__", "__format__", "__ge__", "__getattribute__",
      "__getnewargs__", "__gt__", "__hash__", "__index__", "__int__", "__invert__", "__le__",
      "__lshift__", "__lt__", "__mod__", "__mul__", "__ne__", "__neg__", "__new__", "__or__",
      "__pos__", "__pow__", "__radd__", "__rand__", "__rdivmod__", "__repr__", "__rfloordiv__",
      "__rlshift__", "__rmod__", "__rmul__", "__ror__", "__round__", "__rpow__", "__rrshift__",
      "__rshift__", "__rsub__", "__rtruediv__", "__rxor__", "__sizeof__", "__sub__",
      "__truediv__", "__trunc__", "__xor__", "as_integer_ratio", "bit_count", "bit_length",
      "conjugate", "denominator", "from_bytes", "imag", "numerator", "real", "to_bytes"] }

def list : Class := ofDefinition
  { id := "list", name := "list", path := "list"
    bases := [object]
    concrete := ["__add__", "__class_getitem__", "__contains__", "__delitem__", "__eq__",
      "__ge__", "__getattribute__", "__getitem__", "__gt__", "__hash__", "__iadd__", "__imul__",
      "__init__", "__iter__", "__le__", "__len__", "__lt__", "__mul__", "__ne__", "__new__",
      "__repr__", "__reversed__", "__rmul__", "__setitem__", "__sizeof__", "append", "clear",
      "copy", "count", "extend", "index", "insert", "pop", "remove", "reverse", "sort"] }

def mappingProxy : Class := ofDefinition
  { id := "mappingproxy", name := "mappingproxy", path := "mappingproxy"
    bases := [object]
    concrete := ["__class_getitem__", "__contains__", "__eq__", "__ge__", "__getattribute__",
      "__getitem__", "__gt__", "__hash__", "__ior__", "__iter__", "__le__", "__len__", "__lt__",
      "__ne__", "__new__", "__or__", "__repr__", "__reversed__", "__ror__", "__str__", "copy",
      "get", "items", "keys", "values"] }

def memoryview : Class := ofDefinition
  { id := "memoryview", name := "memoryview", path := "memoryview"
    bases := [object]
    concrete := ["__delitem__", "__enter__", "__eq__", "__exit__", "__ge__", "__getattribute__",
      "__getitem__", "__gt__", "__hash__", "__iter__", "__le__", "__len__", "__lt__", "__ne__",
      "__new__", "__repr__", "__setitem__", "c_contiguous", "cast", "contiguous", "f_contiguous",
      "format", "hex", "itemsize", "nbytes", "ndim", "obj", "readonly", "release", "shape",
      "strides", "suboffsets", "tobytes", "tolist", "toreadonly"] }

def abstractNumber : Class := ofDefinition
  { id := "numbers.Number", name := "Number", path := "numbers.Number"
    bases := [object]
    concrete := ["__hash__"]
    accountable := true }

def range : Class := ofDefinition
  { id := "range", name := "range", path := "range"
    bases := [object]
    concrete := ["__bool__", "__contains__", "__eq__", "__ge__", "__getattribute__",
      "__getitem__", "__gt__", "__hash__", "__iter__", "__le__", "__len__", "__lt__", "__ne__",
      "__new__", "__reduce__", "__repr__", "__reversed__", "count", "index", "start", "step",
      "stop"] }

def set : Class := ofDefinition
  { id := "set", name := "set", path := "set"
    bases := [object]
    concrete := ["__and__", "__class_getitem__", "__contains__", "__eq__", "__ge__",
      "__getattribute__", "__gt__", "__hash__", "__iand__", "__init__", "__ior__", "__isub__",
      "__iter__", "__ixor__", "__le__", "__len__", "__lt__", "__ne__", "__new__", "__or__",
      "__rand__", "__reduce__", "__repr__", "__ror__", "__rsub__", "__rxor__", "__sizeof__",
      "__sub__", "__xor__", "add", "clear", "copy", "difference", "difference_update", "discard",
      "intersection", "intersection_update", "isdisjoint", "issubset", "issuperset", "pop",
      "remove", "symmetric_difference", "symmetric_difference_update", "union", "update"] }

def slice : Class := ofDefinition
  { id := "slice", name := "slice", path := "slice"
    bases := [object]
    concrete := ["__eq__", "__ge__", "__getattribute__", "__gt__", "__hash__", "__le__", "__lt__",
      "__ne__", "__new__", "__reduce__", "__repr__", "indices", "start", "step", "stop"] }

def str : Class := ofDefinition
  { id := "str", name := "str", path := "str"
    bases := [object]
    concrete := ["__add__", "__contains__", "__eq__", "__format__", "__ge__", "__getattribute__",
      "__getitem__", "__getnewargs__", "__gt__", "__hash__", "__iter__", "__le__", "__len__",
      "__lt__", "__mod__", "__mul__", "__ne__", "__new__", "__repr__", "__rmod__", "__rmul__",
      "__sizeof__", "__str__", "capitalize", "casefold", "center", "count", "encode", "endswith",
      "expandtabs", "find", "format", "format_map", "index", "isalnum", "isalpha", "isascii",
      "isdecimal", "isdigit", "isidentifier", "islower", "isnumeric", "isprintable", "isspace",
      "istitle", "isupper", "join", "ljust", "lower", "lstrip", "maketrans", "partition",
      "removeprefix", "removesuffix", "replace", "rfind", "rindex", "rjust", "rpartition",
      "rsplit", "rstrip", "split", "splitlines", "startswith", "strip", "swapcase", "title",
      "translate", "upper", "zfill"] }

def time : Class := ofDefinition
  { id := "time", name := "time", path := "datetime.time"
    bases := [object]
    concrete := ["__eq__", "__format__", "__ge__", "__getattribute__", "__gt__", "__hash__",
      "__le__", "__lt__", "__ne__", "__new__", "__reduce__", "__reduce_ex__", "__repr__",
      "__str__", "dst", "fold", "fromisoformat", "hour", "isoformat", "max", "microsecond", "min",
      "minute", "replace", "resolution", "second", "strftime", "tzinfo", "tzname", "utcoffset"] }

def timedelta : Class := ofDefinition
  { id := "timedelta", name := "timedelta", path := "datetime.timedelta"
    bases := [object]
    concrete := ["__abs__", "__add__", "__bool__", "__divmod__", "__eq__", "__floordiv__",
      "__ge__", "__getattribute__", "__gt__", "__hash__", "__le__", "__lt__", "__mod__",
      "__mul__", "__ne__", "__neg__", "__new__", "__pos__", "__radd__", "__rdivmod__",
      "__reduce__", "__repr__", "__rfloordiv__", "__rmod__", "__rmul__", "__rsub__",
      "__rtruediv__", "__str__", "__sub__", "__truediv__", "days", "max", "microseconds", "min",
      "resolution", "seconds", "total_seconds"] }

def tuple : Class := ofDefinition
  { id := "tuple", name := "tuple", path := "tuple"
    bases := [object]
    concrete := ["__add__", "__class_getitem__", "__contains__", "__eq__", "__ge__",
      "__getattribute__", "__getitem__", "__getnewargs__", "__gt__", "__hash__", "__iter__",
      "__le__", "__len__", "__lt__", "__mul__", "__ne__", "__new__", "__repr__", "__rmul__",
      "count", "index"] }

def typeClass : Class := ofDefinition
  { id := "type", name := "type", path := "type"
    bases := [object]
    concrete := ["__base__", "__bases__", "__basicsize__", "__call__", "__delattr__",
      "__dictoffset__", "__dir__", "__flags__", "__getattribute__", "__init__",
      "__instancecheck__", "__itemsize__", "__mro__", "__name__", "__new__", "__or__",
      "__prepare__", "__repr__", "__ror__", "__setattr__", "__sizeof__", "__subclasscheck__",
      "__subclasses__", "__text_signature__", "__weakrefoffset__", "mro"] }

def anyType : Class := ofDefinition
  { id := "typing.Any", name := "Any", path := "typing.Any"
    bases := [object]
    concrete := ["__new__"] }

def generic : Class := ofDefinition
  { id := "typing.Generic", name := "Generic", path := "typing.Generic"
    bases := [object]
    concrete := ["__class_getitem__", "__init_subclass__", "_is_protocol"] }

def asyncIterator : Class := ofDefinition
  { id := "AsyncIterator", name := "AsyncIterator", path := "collections.abc.AsyncIterator"
    bases := [asyncIterable]
    concrete := ["__aiter__", "__subclasshook__"]
    required := ["__anext__"] }

def coroutine : Class := ofDefinition
  { id := "Coroutine", name := "Coroutine", path := "collections.abc.Coroutine"
    bases := [awaitable]
    concrete := ["__subclasshook__", "close"]
    required := ["send", "throw"] }

def counter : Class := ofDefinition
  { id := "Counter", name := "Counter", path := "collections.Counter"
    bases := [dict]
    concrete := ["__add__", "__and__", "__delitem__", "__eq__", "__ge__", "__gt__", "__hash__",
      "__iadd__", "__iand__", "__init__", "__ior__", "__isub__", "__le__", "__lt__",
      "__missing__", "__ne__", "__neg__", "__or__", "__pos__", "__reduce__", "__repr__",
      "__sub__", "_keep_positive", "copy", "elements", "fromkeys", "most_common", "subtract",
      "total", "update"] }

def exception : Class := ofDefinition
  { id := "Exception", name := "Exception", path := "Exception"
    bases := [baseException]
    concrete := ["__init__", "__new__"] }

def flag : Class := ofDefinition
  { id := "Flag", name := "Flag", path := "enum.Flag"
    bases := [enumeration]
    concrete := ["__and__", "__bool__", "__contains__", "__invert__", "__iter__", "__len__",
      "__new__", "__or__", "__rand__", "__repr__", "__ror__", "__rxor__", "__str__", "__xor__",
      "_all_bits_", "_boundary_", "_flag_mask_", "_generate_next_value_", "_get_value",
      "_inverted_", "_iter_member_", "_iter_member_by_def_", "_iter_member_by_value_",
      "_member_map_", "_member_names_", "_member_type_", "_missing_", "_new_member_",
      "_numeric_repr_", "_singles_mask_", "_unhashable_values_", "_use_args_",
      "_value2member_map_", "_value_repr_"] }

def iterator : Class := ofDefinition
  { id := "Iterator", name := "Iterator", path := "collections.abc.Iterator"
    bases := [iterable]
    concrete := ["__iter__", "__subclasshook__"]
    required := ["__next__"] }

def mappingView : Class := ofDefinition
  { id := "MappingView", name := "MappingView", path := "collections.abc.MappingView"
    bases := [sized]
    concrete := ["__class_getitem__", "__init__", "__len__", "__repr__", "_mapping"] }

def orderedDict : Class := ofDefinition
  { id := "OrderedDict", name := "OrderedDict", path := "collections.OrderedDict"
    bases := [dict]
    concrete := ["__delitem__", "__eq__", "__ge__", "__gt__", "__hash__", "__init__", "__ior__",
      "__iter__", "__le__", "__lt__", "__ne__", "__or__", "__reduce__", "__repr__",
      "__reversed__", "__ror__", "__setitem__", "__sizeof__", "clear", "copy", "fromkeys",
      "items", "keys", "move_to_end", "pop", "popitem", "setdefault", "update", "values"] }

def path : Class := ofDefinition
  { id := "Path", name := "Path", path := "pathlib.Path"
    bases := [purePath]
    concrete := ["__enter__", "__exit__", "__new__", "_make_child_relpath", "_scandir",
      "absolute", "chmod", "cwd", "exists", "expanduser", "glob", "group", "hardlink_to", "home",
      "is_block_device", "is_char_device", "is_dir", "is_fifo", "is_file", "is_mount",
      "is_socket", "is_symlink", "iterdir", "lchmod", "link_to", "lstat", "mkdir", "open",
      "owner", "read_bytes", "read_text", "readlink", "rename", "replace", "resolve", "rglob",
      "rmdir", "samefile", "stat", "symlink_to", "touch", "unlink", "write_bytes", "write_text"] }

def mixedEnumeration : Class := ofDefinition
  { id := "ReprEnum", name := "ReprEnum", path := "enum.ReprEnum"
    bases := [enumeration]
    concrete := ["__new__", "_generate_next_value_", "_member_map_", "_member_names_",
      "_member_type_", "_new_member_", "_unhashable_values_", "_use_args_", "_value2member_map_",
      "_value_repr_"] }

def reversible : Class := ofDefinition
  { id := "Reversible", name := "Reversible", path := "collections.abc.Reversible"
    bases := [iterable]
    concrete := ["__subclasshook__"]
    required := ["__reversed__"] }

def bool : Class := ofDefinition
  { id := "bool", name := "bool", path := "bool"
    bases := [int]
    concrete := ["__and__", "__new__", "__or__", "__rand__", "__repr__", "__ror__", "__rxor__",
      "__xor__"] }

def datetime : Class := ofDefinition
  { id := "datetime", name := "datetime", path := "datetime.datetime"
    bases := [date]
    concrete := ["__add__", "__eq__", "__ge__", "__getattribute__", "__gt__", "__hash__",
      "__le__", "__lt__", "__ne__", "__new__", "__radd__", "__reduce__", "__reduce_ex__",
      "__repr__", "__rsub__", "__str__", "__sub__", "astimezone", "combine", "ctime", "date",
      "dst", "fold", "fromisoformat", "fromtimestamp", "hour", "isoformat", "max", "microsecond",
      "min", "minute", "now", "replace", "resolution", "second", "strptime", "time", "timestamp",
      "timetuple", "timetz", "tzinfo", "tzname", "utcfromtimestamp", "utcnow", "utcoffset",
      "utctimetuple"] }

def defaultdict : Class := ofDefinition
  { id := "defaultdict", name := "defaultdict", path := "collections.defaultdict"
    bases := [dict]
    concrete := ["__class_getitem__", "__copy__", "__getattribute__", "__init__", "__missing__",
      "__or__", "__reduce__", "__repr__", "__ror__", "copy", "default_factory"] }

def abstractComplex : Class := ofDefinition
  { id := "numbers.Complex", name := "Complex", path := "numbers.Complex"
    bases := [abstractNumber]
    concrete := ["__bool__", "__hash__", "__rsub__", "__sub__"]
    required := ["__abs__", "__add__", "__complex__", "__eq__", "__mul__", "__neg__", "__pos__",
      "__pow__", "__radd__", "__rmul__", "__rpow__", "__rtruediv__", "__truediv__", "conjugate",
      "imag", "real"] }

def protocol : Class := ofDefinition
  { id := "typing.Protocol", name := "Protocol", path := "typing.Protocol"
    bases := [generic]
    concrete := ["__init_subclass__", "__parameters__", "_is_protocol", "_is_runtime_protocol"]
    accountable := true, marked := true }

def generator : Class := ofDefinition
  { id := "Generator", name := "Generator", path := "collections.abc.Generator"
    bases := [iterator]
    concrete := ["__next__", "__subclasshook__", "close"]
    required := ["send", "throw"] }

def abstractReal : Class := ofDefinition
  { id := "numbers.Real", name := "Real", path := "numbers.Real"
    bases := [abstractComplex]
    concrete := ["__complex__", "__divmod__", "__rdivmod__", "conjugate", "imag", "real"]
    required := ["__ceil__", "__float__", "__floor__", "__floordiv__", "__le__", "__lt__",
      "__mod__", "__rfloordiv__", "__rmod__", "__round__", "__trunc__"] }

def supportsAbs : Class := ofDefinition
  { id := "typing.SupportsAbs", name := "SupportsAbs", path := "typing.SupportsAbs"
    bases := [protocol]
    concrete := ["__init__", "__orig_bases__", "__parameters__", "__subclasshook__", "_is_protocol",
      "_is_runtime_protocol"]
    required := ["__abs__"]
    marked := true }

def supportsFloat : Class := ofDefinition
  { id := "typing.SupportsFloat", name := "SupportsFloat", path := "typing.SupportsFloat"
    bases := [protocol]
    concrete := ["__init__", "__parameters__", "__subclasshook__", "_is_protocol",
      "_is_runtime_protocol"]
    required := ["__float__"]
    marked := true }

def supportsInt : Class := ofDefinition
  { id := "typing.SupportsInt", name := "SupportsInt", path := "typing.SupportsInt"
    bases := [protocol]
    concrete := ["__init__", "__parameters__", "__subclasshook__", "_is_protocol",
      "_is_runtime_protocol"]
    required := ["__int__"]
    marked := true }

def collection : Class := ofDefinition
  { id := "Collection", name := "Collection", path := "collections.abc.Collection"
    bases := [sized, iterable, container]
    concrete := ["__subclasshook__"] }

def intEnumeration : Class := ofDefinition
  { id := "IntEnum", name := "IntEnum", path := "enum.IntEnum"
    bases := [int, mixedEnumeration]
    concrete := ["__format__", "__new__", "__repr__", "__str__", "_generate_next_value_",
      "_member_map_", "_member_names_", "_member_type_", "_new_member_", "_unhashable_values_",
      "_use_args_", "_value2member_map_", "_value_repr_"] }

def strEnumeration : Class := ofDefinition
  { id := "StrEnum", name := "StrEnum", path := "enum.StrEnum"
    bases := [str, mixedEnumeration]
    concrete := ["__format__", "__new__", "__new_member__", "__repr__", "__str__",
      "_generate_next_value_", "_member_map_", "_member_names_", "_member_type_", "_new_member_",
      "_unhashable_values_", "_use_args_", "_value2member_map_", "_value_repr_"] }

def abstractRational : Class := ofDefinition
  { id := "numbers.Rational", name := "Rational", path := "numbers.Rational"
    bases := [abstractReal]
    concrete := ["__float__"]
    required := ["denominator", "numerator"] }

def fraction : Class := ofDefinition
  { id := "Fraction", name := "Fraction", path := "fractions.Fraction"
    bases := [abstractRational]
    concrete := ["__abs__", "__add__", "__bool__", "__ceil__", "__copy__", "__deepcopy__",
      "__divmod__", "__eq__", "__floor__", "__floordiv__", "__ge__", "__gt__", "__hash__",
      "__int__", "__le__", "__lt__", "__mod__", "__mul__", "__neg__", "__new__", "__pos__",
      "__pow__", "__radd__", "__rdivmod__", "__reduce__", "__repr__", "__rfloordiv__", "__rmod__",
      "__rmul__", "__round__", "__rpow__", "__rsub__", "__rtruediv__", "__str__", "__sub__",
      "__truediv__", "__trunc__", "_add", "_denominator", "_div", "_divmod", "_floordiv", "_mod",
      "_mul", "_numerator", "_operator_fallbacks", "_richcmp", "_sub", "as_integer_ratio",
      "denominator", "from_decimal", "from_float", "limit_denominator", "numerator"] }

def intFlag : Class := ofDefinition
  { id := "IntFlag", name := "IntFlag", path := "enum.IntFlag"
    bases := [int, mixedEnumeration, flag]
    concrete := ["__and__", "__format__", "__invert__", "__new__", "__or__", "__rand__",
      "__repr__", "__ror__", "__rxor__", "__str__", "__xor__", "_all_bits_", "_boundary_",
      "_flag_mask_", "_generate_next_value_", "_inverted_", "_member_map_", "_member_names_",
      "_member_type_", "_new_member_", "_singles_mask_", "_unhashable_values_", "_use_args_",
      "_value2member_map_", "_value_repr_"] }

def mapping : Class := ofDefinition
  { id := "Mapping", name := "Mapping", path := "collections.abc.Mapping"
    bases := [collection]
    concrete := ["__contains__", "__eq__", "__hash__", "__reversed__", "get", "items", "keys",
      "values"]
    required := ["__getitem__"] }

def abstractSet : Class := ofDefinition
  { id := "Set", name := "Set", path := "collections.abc.Set"
    bases := [collection]
    concrete := ["__and__", "__eq__", "__ge__", "__gt__", "__hash__", "__le__", "__lt__",
      "__or__", "__rand__", "__ror__", "__rsub__", "__rxor__", "__sub__", "__xor__",
      "_from_iterable", "_hash", "isdisjoint"] }

def abstractIntegral : Class := ofDefinition
  { id := "numbers.Integral", name := "Integral", path := "numbers.Integral"
    bases := [abstractRational]
    concrete := ["__float__", "__index__", "denominator", "numerator"]
    required := ["__and__", "__int__", "__invert__", "__lshift__", "__or__", "__pow__",
      "__rand__", "__rlshift__", "__ror__", "__rrshift__", "__rshift__", "__rxor__", "__xor__"] }

def mutableMapping : Class := ofDefinition
  { id := "MutableMapping", name := "MutableMapping", path := "collections.abc.MutableMapping"
    bases := [mapping]
    concrete := ["_MutableMapping__marker", "clear", "pop", "popitem", "setdefault", "update"]
    required := ["__delitem__", "__setitem__"] }

def mutableSet : Class := ofDefinition
  { id := "MutableSet", name := "MutableSet", path := "collections.abc.MutableSet"
    bases := [abstractSet]
    concrete := ["__iand__", "__ior__", "__isub__", "__ixor__", "clear", "pop", "remove"]
    required := ["add", "discard"] }

def sequence : Class := ofDefinition
  { id := "Sequence", name := "Sequence", path := "collections.abc.Sequence"
    bases := [reversible, collection]
    concrete := ["__contains__", "__iter__", "__reversed__", "count", "index"]
    required := ["__getitem__"] }

def valuesView : Class := ofDefinition
  { id := "ValuesView", name := "ValuesView", path := "collections.abc.ValuesView"
    bases := [mappingView, collection]
    concrete := ["__contains__", "__iter__"] }

def byteString : Class := ofDefinition
  { id := "ByteString", name := "ByteString", path := "collections.abc.ByteString"
    bases := [sequence] }

def chainMap : Class := ofDefinition
  { id := "ChainMap", name := "ChainMap", path := "collections.ChainMap"
    bases := [mutableMapping]
    concrete := ["__bool__", "__contains__", "__copy__", "__delitem__", "__getitem__", "__init__",
      "__ior__", "__iter__", "__len__", "__missing__", "__or__", "__repr__", "__ror__",
      "__setitem__", "clear", "copy", "fromkeys", "get", "new_child", "parents", "pop", "popitem"] }

def itemsView : Class := ofDefinition
  { id := "ItemsView", name := "ItemsView", path := "collections.abc.ItemsView"
    bases := [mappingView, abstractSet]
    concrete := ["__contains__", "__iter__", "_from_iterable"] }

def keysView : Class := ofDefinition
  { id := "KeysView", name := "KeysView", path := "collections.abc.KeysView"
    bases := [mappingView, abstractSet]
    concrete := ["__contains__", "__iter__", "_from_iterable"] }

def mutableSequence : Class := ofDefinition
  { id := "MutableSequence", name := "MutableSequence", path := "collections.abc.MutableSequence"
    bases := [sequence]
    concrete := ["__iadd__", "append", "clear", "extend", "pop", "remove", "reverse"]
    required := ["__delitem__", "__setitem__", "insert"] }

def userDict : Class := ofDefinition
  { id := "UserDict", name := "UserDict", path := "collections.UserDict"
    bases := [mutableMapping]
    concrete := ["__contains__", "__copy__", "__delitem__", "__getitem__", "__init__", "__ior__",
      "__iter__", "__len__", "__or__", "__repr__", "__ror__", "__setitem__", "copy", "fromkeys"] }

def userString : Class := ofDefinition
  { id := "UserString", name := "UserString", path := "collections.UserString"
    bases := [sequence]
    concrete := ["__add__", "__complex__", "__contains__", "__eq__", "__float__", "__ge__",
      "__getitem__", "__getnewargs__", "__gt__", "__hash__", "__init__", "__int__", "__le__",
      "__len__", "__lt__", "__mod__", "__mul__", "__radd__", "__repr__", "__rmod__", "__rmul__",
      "__str__", "capitalize", "casefold", "center", "count", "encode", "endswith", "expandtabs",
      "find", "format", "format_map", "index", "isalnum", "isalpha", "isascii", "isdecimal",
      "isdigit", "isidentifier", "islower", "isnumeric", "isprintable", "isspace", "istitle",
      "isupper", "join", "ljust", "lower", "lstrip", "maketrans", "partition", "removeprefix",
      "removesuffix", "replace", "rfind", "rindex", "rjust", "rpartition", "rsplit", "rstrip",
      "split", "splitlines", "startswith", "strip", "swapcase", "title", "translate", "upper",
      "zfill"] }

def userList : Class := ofDefinition
  { id := "UserList", name := "UserList", path := "collections.UserList"
    bases := [mutableSequence]
    concrete := ["_UserList__cast", "__add__", "__contains__", "__copy__", "__delitem__",
      "__eq__", "__ge__", "__getitem__", "__gt__", "__hash__", "__iadd__", "__imul__", "__init__",
      "__le__", "__len__", "__lt__", "__mul__", "__radd__", "__repr__", "__rmul__", "__setitem__",
      "append", "clear", "copy", "count", "extend", "index", "insert", "pop", "remove", "reverse",
      "sort"] }

def dataModel : Class := ofDefinition
  { id := "BaseModel", name := "BaseModel", path := "pydantic.main.BaseModel"
    bases := [object]
    concrete := ["__class_getitem__", "__copy__", "__deepcopy__", "__delattr__", "__eq__",
      "__fields__", "__fields_set__", "__getattr__", "__getstate__", "__hash__", "__init__",
      "__init_subclass__", "__iter__", "__pretty__", "__replace__", "__repr__", "__repr_args__",
      "__repr_name__", "__repr_recursion__", "__repr_str__", "__rich_repr__", "__setattr__",
      "__setstate__", "__signature__", "__str__", "_calculate_keys", "_copy_and_set_values",
      "_get_value", "_iter", "construct", "copy", "dict", "from_orm", "json",
      "model_computed_fields", "model_config", "model_construct", "model_copy", "model_dump",
      "model_dump_json", "model_extra", "model_fields", "model_fields_set", "model_json_schema",
      "model_parametrized_name", "model_post_init", "model_rebuild", "model_validate",
      "model_validate_json", "model_validate_strings", "parse_file", "parse_obj", "parse_raw",
      "schema", "schema_json", "update_forward_refs", "validate"]
    accountable := true }

def reference : Class := ofDefinition
  { id := "Reference", name := "Reference", path := "graphmap.typemap.wrappers.Reference"
    bases := [generic]
    concrete := ["__orig_bases__", "__parameters__"] }

/-- The built-in classes that hints may name. -/
def all : List Class :=
  [
    object, abstractBase, asyncIterable, awaitable, callable, container, decimal, enumeration,
    genericAlias, hashable, iterable, noneType, simpleNamespace, sized, uuid, unionType,
    bytearray, bytes, complex, date, deque, dict, float, frozenset, int, list, mappingProxy,
    memoryview, abstractNumber, range, set, slice, str, time, timedelta, tuple, typeClass,
    anyType, generic, asyncIterator, coroutine, counter, exception, flag, iterator, orderedDict,
    path, reversible, bool, datetime, defaultdict, abstractComplex, protocol, generator,
    abstractReal, supportsAbs, supportsFloat, supportsInt, collection, intEnumeration,
    strEnumeration, abstractRational, fraction, intFlag, mapping, abstractSet, abstractIntegral,
    mutableMapping, mutableSet, sequence, valuesView, byteString, chainMap, itemsView, keysView,
    mutableSequence, userDict, userString, userList, dataModel, reference
  ]

end SchemaLink.Class.Builtin
