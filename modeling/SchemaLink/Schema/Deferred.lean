import SchemaLink.Schema.Type

/-!
# Replacing deferred references

Once every named type of a schema exists, the deferred references are replaced by the types they
name. The layers around a reference are rebuilt around the type; a type without a reference is
returned as it is.
-/

namespace SchemaLink

/-- A reference to a name that no type has. -/
structure UnresolvedReference where
  name : String
  deriving DecidableEq, Repr, Inhabited

/-- The message about an unresolved reference. -/
def UnresolvedReference.message (e : UnresolvedReference) : String :=
  "Unknown type \"" ++ e.name ++ "\" referenced in schema."

/-- The name of the kind of error. -/
def UnresolvedReference.kindName (_ : UnresolvedReference) : String := "UnresolvedReferenceError"

namespace SchemaType

/-- The type rebuilt around the types that its reference names, or nothing if it has none. -/
def rebuilt? (types : List (String × SchemaType)) :
    SchemaType → Except UnresolvedReference (Option SchemaType)
  | .nonNull of => (rebuilt? types of).map (Option.map nonNull)
  | .list of => (rebuilt? types of).map (Option.map list)
  | .deferred name =>
    match types.lookup name with
    | some t => .ok (some t)
    | none => .error ⟨name⟩
  | _ => .ok none

/-- The type with its reference replaced. -/
def replaceDeferred (types : List (String × SchemaType)) (t : SchemaType) :
    Except UnresolvedReference SchemaType :=
  (t.rebuilt? types).map fun r => r.getD t

end SchemaType

end SchemaLink
