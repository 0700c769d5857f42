import SchemaLink.Schema.Deferred

/-!
# The registry of links

A registry maps hints to the schema types that represent them. Its keys are compared by identity; a
new key goes to the end, and linking a present key again replaces the type and keeps the key in its
place. A strict registry refuses types that cannot stand inside a non-null layer.
-/

namespace SchemaLink

/-- Links from hints to schema types. -/
structure Registry where
  /-- The links in the order in which their keys were first linked. -/
  entries : List (TypeHint × SchemaType)
  strict : Bool
  deriving Repr, Inhabited

/-- Why a link is refused. -/
inductive LinkError where
  | notAType (typeName : String) (target : SchemaType)
  | notNullable (typeName : String) (target : SchemaType)
  | unhashable (container : Unhashable)
  deriving Repr, Inhabited

/-- The message about a type that would be linked although it cannot stand inside a non-null
layer. -/
def notNullableMessage (typeName : String) (target : SchemaType) : String :=
  "Cannot link " ++ Text.quote typeName ++ " to " ++ target.text
    ++ ": linked GraphQL types must be nullable; nullability is derived from the annotation"

/-- The message about a container that cannot be hashed. -/
def Unhashable.message (container : Unhashable) : String :=
  "unhashable type: '" ++ container.typeName ++ "'"

/-- The message about a refused link. -/
def LinkError.message : LinkError → String
  | .notAType typeName target =>
    "Cannot link " ++ Text.quote typeName ++ " to non-GraphQL type " ++ target.written
  | .notNullable typeName target => notNullableMessage typeName target
  | .unhashable container => container.message

/-- The name of the kind of error. -/
def LinkError.kindName : LinkError → String
  | .notAType _ _ | .unhashable _ => "TypeError"
  | .notNullable _ _ => "LinkError"

namespace Registry

/-- The links that every registry starts with. -/
def primitives : List (TypeHint × SchemaType) :=
  [ (.cls Class.Builtin.int, .named (.scalar "Int")),
    (.cls Class.Builtin.float, .named (.scalar "Float")),
    (.cls Class.Builtin.str, .named (.scalar "String")),
    (.cls Class.Builtin.bool, .named (.scalar "Boolean")) ]

/-- A new registry. -/
def new (strict : Bool) : Registry := ⟨primitives, strict⟩

/-- The type linked to a key in a list of links. -/
def find? (key : TypeHint) : List (TypeHint × SchemaType) → Option SchemaType
  | [] => none
  | (k, t) :: rest => if k.identical key then some t else find? key rest

/-- A key is linked to a type in a list of links. -/
def put (key : TypeHint) (target : SchemaType) :
    List (TypeHint × SchemaType) → List (TypeHint × SchemaType)
  | [] => [(key, target)]
  | (k, t) :: rest =>
    if k.identical key then (k, target) :: rest else (k, t) :: put key target rest

/-- The type linked to a key. -/
def get? (r : Registry) (key : TypeHint) : Option SchemaType := find? key r.entries

/-- The type linked to a hint, which must be hashable to be looked up. -/
def lookup (r : Registry) (t : TypeHint) : Except Unhashable (Option SchemaType) :=
  match t.unhashable? with
  | some container => .error container
  | none => .ok (r.get? t)

/-- Whether a hint is linked. -/
def contains (r : Registry) (t : TypeHint) : Except Unhashable Bool :=
  (r.lookup t).map Option.isSome

/-- The linked hints, in the order in which they were first linked. -/
def types (r : Registry) : List TypeHint := r.entries.map Prod.fst

/-- The number of links. -/
def size (r : Registry) : Nat := r.entries.length

/-- The registry with one more link. Linking the absence of a type does nothing. -/
def link (r : Registry) (t : TypeHint) (target : SchemaType) : Except LinkError Registry :=
  if t.isVoid then .ok r
  else if !target.isType then .error (.notAType t.displayName target)
  else if r.strict && !target.isNullable then .error (.notNullable t.displayName target)
  else
    match t.stripAnnotated.unhashable? with
    | some container => .error (.unhashable container)
    | none => .ok { r with entries := put t.stripAnnotated target r.entries }

end Registry

end SchemaLink
