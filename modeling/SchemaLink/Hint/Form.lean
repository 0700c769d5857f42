import SchemaLink.Hint.Identity

/-!
# Named forms

The typing module has a name of its own for each generic collection, so that an alias is spelled
by that name and denotes the collection itself. Its other names are special forms, which denote no
class.
-/

namespace SchemaLink.TypeHint

/-- The names of the typing module that denote a class, with that class. -/
def collectionNames : List (String × Class) :=
  [ ("List", Class.Builtin.list), ("Dict", Class.Builtin.dict), ("Set", Class.Builtin.set),
    ("FrozenSet", Class.Builtin.frozenset), ("Tuple", Class.Builtin.tuple),
    ("Type", Class.Builtin.typeClass), ("Deque", Class.Builtin.deque),
    ("DefaultDict", Class.Builtin.defaultdict), ("OrderedDict", Class.Builtin.orderedDict),
    ("Counter", Class.Builtin.counter), ("ChainMap", Class.Builtin.chainMap),
    ("AbstractSet", Class.Builtin.abstractSet), ("MutableSet", Class.Builtin.mutableSet),
    ("Sequence", Class.Builtin.sequence), ("MutableSequence", Class.Builtin.mutableSequence),
    ("Collection", Class.Builtin.collection), ("Iterable", Class.Builtin.iterable),
    ("Iterator", Class.Builtin.iterator), ("Reversible", Class.Builtin.reversible),
    ("Generator", Class.Builtin.generator), ("Container", Class.Builtin.container),
    ("Sized", Class.Builtin.sized), ("Hashable", Class.Builtin.hashable),
    ("Callable", Class.Builtin.callable), ("Mapping", Class.Builtin.mapping),
    ("MutableMapping", Class.Builtin.mutableMapping), ("KeysView", Class.Builtin.keysView),
    ("ValuesView", Class.Builtin.valuesView), ("ItemsView", Class.Builtin.itemsView),
    ("AsyncIterable", Class.Builtin.asyncIterable),
    ("AsyncIterator", Class.Builtin.asyncIterator), ("Awaitable", Class.Builtin.awaitable),
    ("Coroutine", Class.Builtin.coroutine), ("ByteString", Class.Builtin.byteString) ]

/-- The names of the typing module that are classes themselves. -/
def classNames : List (String × Class) :=
  [ ("Any", Class.Builtin.anyType), ("Generic", Class.Builtin.generic),
    ("Protocol", Class.Builtin.protocol), ("SupportsInt", Class.Builtin.supportsInt),
    ("SupportsFloat", Class.Builtin.supportsFloat), ("SupportsAbs", Class.Builtin.supportsAbs),
    ("Text", Class.Builtin.str) ]

/-- The collection that a name of the typing module denotes. -/
def collection? (name : String) : Option Class := collectionNames.lookup name

/-- The name of a collection in the typing module. -/
def collectionName? (origin : Class) : Option String :=
  (collectionNames.find? fun entry => entry.2 = origin).map Prod.fst

/-- Whether a hint, as the only argument of a callable before its result, stands for all of its
parameters. -/
def coversParameters : TypeHint → Bool
  | .value .ellipsis | .list _ _ | .tuple _ => true
  | _ => false

/-- Whether the parameters of a callable are given one by one. -/
def listsParameters (args : List TypeHint) : Bool :=
  match args with
  | [first, _] => !first.coversParameters
  | _ => true

/-- The parts of a callable as they are shown, its parameters and its result, from the texts of its
arguments. -/
def callableParts (args : List TypeHint) (texts : List String) : List String :=
  if listsParameters args then
    ["[" ++ Text.commaList texts.dropLast ++ "]", texts.getLastD ""]
  else texts

/-- The arguments of an alias as they are shown, from their texts. -/
def aliasParts (origin : Class) (args : List TypeHint) (texts : List String) : List String :=
  if origin = Class.Builtin.callable && !args.isEmpty then callableParts args texts else texts

end SchemaLink.TypeHint
