import SchemaLink.Class.Linearization
import SchemaLink.Datum

/-!
# Defining classes

A new class takes its ancestors from its bases. If it keeps account of requirements, it leaves open
its own requirements and those of its bases' open ones whose first definition in the new resolution
order is still a requirement. What the bases leave open is asked of the new class itself, so that
members that its metaclass answers for are no longer open in it.
-/

namespace SchemaLink.Class

/-- The parts of a class definition. -/
structure Definition where
  id : String
  name : String
  path : String
  bases : List Class
  concrete : List String := []
  required : List String := []
  /-- Whether the class starts keeping account of requirements, whatever its bases do. -/
  accountable : Bool := false
  marked : Bool := false

/-- The members of a class that keeps account that are answered with content whatever the bodies in
its order say: the metaclass has them as properties of all its classes, and the record of the
account itself is kept under the last one. -/
def metaclassMembers : List String :=
  ["__abstractmethods__", "__annotations__", "__base__", "__bases__", "__basicsize__", "__class__",
    "__dict__", "__dictoffset__", "__flags__", "__itemsize__", "__mro__", "__name__",
    "__qualname__", "__text_signature__", "__weakrefoffset__", "_abc_impl"]

/-- The requirements that a class leaves open: its own, and those of its bases that asking the class
for the member still meets. -/
def openFrom (body : ClassBody) (bases : List Class) (ancestors : List ClassBody) : List String :=
  body.required ++ (bases.flatMap openRequirements).filter fun name =>
    name ∉ metaclassMembers ∧ firstDefinition? name (body :: ancestors) = some true

/-- The class of a definition, if its bases have a common resolution order. -/
def ofDefinition? (d : Definition) : Option Class :=
  let body : ClassBody := ⟨d.id, d.concrete, d.required⟩
  let accountable := d.accountable || d.bases.any Class.accountable
  (linearize? d.bases).map fun ancestors =>
    { body, name := d.name, path := d.path, ancestors, accountable
      openRequirements := if accountable then openFrom body d.bases ancestors else []
      marked := d.marked }

/-- The class of a definition; one without a resolution order stands alone. -/
def ofDefinition (d : Definition) : Class :=
  match ofDefinition? d with
  | some c => c
  | none =>
    { body := ⟨d.id, d.concrete, d.required⟩, name := d.name, path := d.path, ancestors := []
      accountable := d.accountable, openRequirements := [], marked := d.marked }

end SchemaLink.Class
