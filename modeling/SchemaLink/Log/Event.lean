import SchemaLink.Datum

/-!
# Log events

An event is a text with keys, sent to a named logger at one of five levels. While a type is being
resolved, the name of that type, and of the field it belongs to, are in scope and are added to the
keys of every event that does not give them itself.
-/

namespace SchemaLink

/-- The levels of events. -/
inductive Level where
  | debug
  | info
  | warning
  | error
  | critical
  deriving DecidableEq, Repr, Inhabited

namespace Level

/-- The number by which levels are compared. -/
def rank : Level → Nat
  | .debug => 10
  | .info => 20
  | .warning => 30
  | .error => 40
  | .critical => 50

/-- The level as it is written in an event. -/
def name : Level → String
  | .debug => "debug"
  | .info => "info"
  | .warning => "warning"
  | .error => "error"
  | .critical => "critical"

end Level

/-- A logged event. -/
structure Event where
  level : Level
  logger : String
  text : String
  keys : List (String × Datum)
  deriving Repr, Inhabited

/-- The type, and the field, that are being resolved. -/
structure Scope where
  typeName : Option String
  field : Option String
  deriving DecidableEq, Repr, Inhabited

namespace Scope

/-- The scope outside of any resolution. -/
def outside : Scope := ⟨none, none⟩

/-- A key with a text that is known and not empty is added, unless the key is present. -/
def addKey (key : String) (value : Option String) (keys : List (String × Datum)) :
    List (String × Datum) :=
  match value with
  | none => keys
  | some s => if s = "" || (keys.lookup key).isSome then keys else keys ++ [(key, .text s)]

/-- The keys of an event in the scope. -/
def enrich (scope : Scope) (keys : List (String × Datum)) : List (String × Datum) :=
  addKey "type_name" scope.typeName (addKey "field" scope.field keys)

/-- An event in the scope. -/
def mark (scope : Scope) (e : Event) : Event := { e with keys := scope.enrich e.keys }

end Scope

end SchemaLink
