import SchemaLink.Calendar
import SchemaLink.Value

/-!
# Configuration data

A datum is what a configuration document holds: scalars, dates, sequences and mappings. Mappings
keep their keys in the order of first appearance, and two equal keys never stand in one mapping.
-/

namespace SchemaLink

/-- A value of a configuration document; a mapping lists its keys beside its values. -/
inductive Datum where
  | null
  | bool (b : Bool)
  | int (n : Int)
  | float (x : Double)
  | text (s : String)
  | date (d : Date)
  | moment (m : Moment)
  | list (items : List Datum)
  | map (keys : List Datum) (values : List Datum)
  deriving Repr, Inhabited

namespace Datum

/-- The name of the datum's type. -/
def typeName : Datum → String
  | .null => "NoneType"
  | .bool _ => "bool"
  | .int _ => "int"
  | .float _ => "float"
  | .text _ => "str"
  | .date _ => "datetime.date"
  | .moment _ => "datetime.datetime"
  | .list _ => "list"
  | .map _ _ => "dict"

/-- Whether the datum counts as present: everything but null, false, zeros and what is empty. -/
def truthy : Datum → Bool
  | .null => false
  | .bool b => b
  | .int n => n ≠ 0
  | .float x => !x.isZero
  | .text s => s ≠ ""
  | .date _ => true
  | .moment _ => true
  | .list items => !items.isEmpty
  | .map keys _ => !keys.isEmpty

/-- The scalar as a constant, where there is one. -/
def toValue? : Datum → Option Value
  | .null => some .none
  | .bool b => some (.bool b)
  | .int n => some (.int n)
  | .float x => some (.float x)
  | .text s => some (.text s)
  | _ => none

/-- Whether two data are the same mapping key. Only scalars and dates are keys. -/
def sameKey : Datum → Datum → Bool
  | .date d, .date e => d = e
  | .moment m, .moment n => m = n
  | x, y =>
    match x.toValue?, y.toValue? with
    | some v, some w => v.same w
    | _, _ => false

/-- Whether a datum may be a mapping key. -/
def isKey : Datum → Bool
  | .list _ | .map _ _ => false
  | _ => true

/-- The value under a text key, in parallel lists of keys and values. -/
def lookup (key : String) : List Datum → List Datum → Option Datum
  | .text k :: keys, v :: values => if k = key then some v else lookup key keys values
  | _ :: keys, _ :: values => lookup key keys values
  | _, _ => none

/-- The value under a text key of a mapping. -/
def get? (key : String) : Datum → Option Datum
  | .map keys values => lookup key keys values
  | _ => none

/-- A later value of a key replaces the earlier one and leaves the key in its place. -/
def insert (key value : Datum) : List Datum → List Datum → List Datum × List Datum
  | k :: keys, v :: values =>
    if k.sameKey key then (k :: keys, value :: values)
    else
      let (keys, values) := insert key value keys values
      (k :: keys, v :: values)
  | _, _ => ([key], [value])

/-- The mapping of a list of entries. -/
def ofEntries (entries : List (Datum × Datum)) : Datum :=
  let (keys, values) := entries.foldl (fun m e => insert e.1 e.2 m.1 m.2) ([], [])
  .map keys values

/-- The items of a datum that can be iterated: the characters of a text, the keys of a mapping. -/
def items? : Datum → Option (List Datum)
  | .text s => some (s.toList.map fun c => .text (String.singleton c))
  | .list items => some items
  | .map keys _ => some keys
  | _ => none

mutual

/-- The datum as it is written in source text. -/
def written : Datum → String
  | .null => "None"
  | .bool b => if b then "True" else "False"
  | .int n => toString n
  | .float x => x.render Double.plain
  | .text s => Text.quote s
  | .date d => d.written
  | .moment m => m.written
  | .list items => "[" ++ Text.commaList (writtenAll items) ++ "]"
  | .map keys values =>
    "\x7b" ++ Text.commaList (List.zipWith (fun k v => k ++ ": " ++ v)
      (writtenAll keys) (writtenAll values)) ++ "\x7d"

/-- The source texts of a list of data. -/
def writtenAll : List Datum → List String
  | [] => []
  | x :: xs => written x :: writtenAll xs

end

/-- The datum as plain text: a text as it is, a date by its digits, all else as source text. -/
def plainText : Datum → String
  | .text s => s
  | .date d => d.text
  | .moment m => m.text
  | x => x.written

end Datum

end SchemaLink
