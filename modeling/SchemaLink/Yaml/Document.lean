import SchemaLink.Yaml.Node
import SchemaLink.Yaml.Scalar

/-!
# Documents

The datum of a node is found from its leaves up. A mapping may merge others: their entries come
first, so that its own entries override them, and of several merged mappings the earlier one wins.
-/

namespace SchemaLink.Yaml

/-- The type that a tag demands. -/
def tagType (tag : String) : String :=
  match Text.cutLast ':' tag.toList with
  | some (scope, type) =>
    if scope = "tag:yaml.org,2002".toList then String.ofList type else ""
  | none => ""

/-- The value of a scalar with or without a tag. -/
def scalarValue (tag : Option String) (text : String) : ScalarReading :=
  match tag with
  | none => plainValue text.toList
  | some tag => taggedValue (tagType tag) text.toList

/-- Whether the tag of a collection fits its shape. -/
def fitsShape (type : String) (tag : Option String) : Bool :=
  match tag with
  | none => true
  | some tag => tagType tag = type

namespace Node

/-- Whether a key merges other mappings. -/
def isMerge : Node → Bool
  | .scalar none text => text = "<<"
  | .scalar (some tag) _ => tagType tag = "merge"
  | _ => false

/-- Whether a key is the mark of a default value, which is a text as a key. -/
def isDefault : Node → Bool
  | .scalar none text => text = "="
  | .scalar (some tag) _ => tagType tag = "value"
  | _ => false

end Node

/-- The entries of a mapping: those that are merged, and its own. -/
structure MappingParts where
  merged : List (Datum × Datum)
  own : List (Datum × Datum)

/-- All entries of a mapping in order of increasing precedence. -/
def MappingParts.all (m : MappingParts) : List (Datum × Datum) := m.merged ++ m.own

mutual

/-- The datum of a node. -/
def Node.datum : Node → ScalarReading
  | .scalar tag text => scalarValue tag text
  | .sequence tag items =>
    if fitsShape "seq" tag then (Node.data items).map .list else .error .malformed
  | .mapping tag entries =>
    if fitsShape "map" tag then entries.parts.map fun m => Datum.ofEntries m.all
    else .error .malformed

/-- The data of several nodes. -/
def Node.data : List Node → Except ScalarError (List Datum)
  | [] => .ok []
  | n :: ns => do
    let d ← n.datum
    return d :: (← Node.data ns)

/-- The entries that a node gives to a mapping that merges it. -/
def Node.mergeable : Node → Except ScalarError (List (Datum × Datum))
  | .mapping _ entries => entries.parts.map MappingParts.all
  | .sequence _ items => Node.mergeableItems items
  | .scalar _ _ => .error .malformed

/-- The entries that a sequence of mappings gives to a mapping that merges it. -/
def Node.mergeableItems : List Node → Except ScalarError (List (Datum × Datum))
  | [] => .ok []
  | .mapping _ entries :: ns => do
    let m ← entries.parts
    return (← Node.mergeableItems ns) ++ m.all
  | _ => .error .malformed

/-- The entries of a mapping node. -/
def Entries.parts : Entries → Except ScalarError MappingParts
  | .nil => .ok ⟨[], []⟩
  | .cons key value rest =>
    if key.isMerge then do
      let entries ← value.mergeable
      let m ← rest.parts
      return { m with merged := entries ++ m.merged }
    else do
      let k ← if key.isDefault then .ok (.text "=") else key.datum
      if !k.isKey then .error .malformed
      let v ← value.datum
      let m ← rest.parts
      return { m with own := (k, v) :: m.own }

end

/-- Whether a character may stand in a document. -/
def isAllowed (c : Char) : Bool :=
  c = '\t' || c = '\n' || c = '\r' || (' ' ≤ c && c ≤ '~') || c = '\x85'
    || ('\xa0' ≤ c && c ≤ '\ufffd') || 0x10000 ≤ c.toNat

/-- The root node of a text, if it is well-formed and has one. -/
def rootOf? (text : List Char) : Option (Option Node) :=
  if text.all isAllowed then (tokens? text).bind Node.ofTokens? else none

/-- The datum of a text; a text without a document is null. -/
def parse (text : List Char) : ScalarReading :=
  match rootOf? text with
  | none => .error .malformed
  | some none => .ok .null
  | some (some root) => root.datum

end SchemaLink.Yaml
