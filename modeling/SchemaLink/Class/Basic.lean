/-!
# Classes

A class is known by its own body and by the bodies of its ancestors in resolution order. A body says
which members it defines, and which of those are abstract requirements. Everything asked of a class
later (its ancestry, its members, whether requirements are left open) is read from these lists.
-/

namespace SchemaLink

/-- The members that one class adds to the hierarchy. -/
structure ClassBody where
  id : String
  /-- Members defined with content. -/
  concrete : List String
  /-- Members only required of descendants. -/
  required : List String
  deriving DecidableEq, Repr, Inhabited

/-- What a body says about a member: nothing, or whether it is merely required. -/
def ClassBody.member? (body : ClassBody) (name : String) : Option Bool :=
  if name ∈ body.required then some true
  else if name ∈ body.concrete then some false
  else none

/-- A class of a hierarchy. -/
structure Class where
  body : ClassBody
  /-- The name that the class goes by. -/
  name : String
  /-- The name with its module. -/
  path : String
  /-- The bodies of the ancestors, in resolution order. -/
  ancestors : List ClassBody
  /-- Whether the class keeps account of the requirements left open. -/
  accountable : Bool
  /-- The requirements that the class leaves open. -/
  openRequirements : List String
  /-- Whether the class itself is marked as a protocol. -/
  marked : Bool
  deriving DecidableEq, Repr, Inhabited

namespace Class

/-- The resolution order: the class itself and then its ancestors. -/
def order (c : Class) : List ClassBody := c.body :: c.ancestors

/-- Whether a class is the other one or descends from it. -/
def derives (c d : Class) : Bool := d.body ∈ c.order

/-- What the first definition of a member in a list of bodies says about it. -/
def firstDefinition? (name : String) : List ClassBody → Option Bool
  | [] => none
  | body :: rest =>
    match body.member? name with
    | some isRequired => some isRequired
    | none => firstDefinition? name rest

/-- Whether the class or an ancestor defines a member. -/
def defines (c : Class) (name : String) : Bool := (firstDefinition? name c.order).isSome

/-- Whether the class leaves a requirement open. -/
def isAbstract (c : Class) : Bool := c.accountable && !c.openRequirements.isEmpty

end Class

end SchemaLink
