import SchemaLink.Registry.Capability

/-!
# Resolving type hints

Nullability is inverted between hints and schema types: a hint is required unless it says that it is
optional, while a schema type is nullable unless it stands inside a non-null layer. Every leaf and
every reference is therefore put inside a non-null layer, and an optional hint takes that layer away
from what it encloses. A leaf that is not linked resolves to nothing.
-/

namespace SchemaLink

/-- Why a hint cannot be resolved. -/
inductive ResolveError where
  | unhashable (container : Unhashable)
  /-- The element of a list is linked to a type that cannot stand inside a non-null layer. -/
  | listElement (typeName : String)
  deriving DecidableEq, Repr, Inhabited

/-- The name of the kind of error. -/
def ResolveError.kindName : ResolveError → String
  | .unhashable _ => "TypeError"
  | .listElement _ => "ListElementTypeError"

/-- Whether a wrapper is a reference to a name. -/
def Wrapper.isNamed (w : Wrapper) : Bool := w.modifier = .reference && w.wrapped.isName

namespace TypeHint

/-- The hint below all wrappers, which is a leaf or a name. -/
def target (t : TypeHint) : TypeHint :=
  match _hw : t.classify with
  | some w => if _hname : w.isNamed then w.wrapped else target w.wrapped
  | Option.none => t
termination_by sizeOf t
decreasing_by
  rcases classify_wrapped _hw with hlt | ⟨hn, rfl⟩
  · exact hlt
  · exact absurd (by simp [Wrapper.isNamed, hn]) _hname

/-- The name of the schema type that a reference to the hint points to. -/
def referenceName (t : TypeHint) : String := normalizeName t.target.displayName

end TypeHint

namespace Registry

/-- The type linked to a leaf. -/
def entry (r : Registry) (t : TypeHint) : Except ResolveError (Option SchemaType) :=
  (r.lookup t).mapError .unhashable

/-- The type of a leaf that is required. -/
def required (linked : Option SchemaType) : Option SchemaType :=
  match linked with
  | some t => if t.isNullable then some (.nonNull t) else none
  | none => none

/-- The type of a list of a leaf, for the hint that the list is written as. -/
def listOf (hint : TypeHint) (linked : Option SchemaType) :
    Except ResolveError (Option SchemaType) :=
  match linked with
  | none => .ok none
  | some t =>
    if t.isNullable then .ok (some (.list (.nonNull t)))
    else .error (.listElement hint.displayName)

/-- The schema type of a hint. -/
def resolve (r : Registry) (t : TypeHint) : Except ResolveError (Option SchemaType) :=
  match _hw : t.classify with
  | none => (r.entry t.stripAnnotated).map required
  | some ⟨.optional, wrapped⟩ =>
    match wrapped.classify with
    | none => r.entry wrapped
    | some ⟨.reference, target⟩ => .ok (some (.deferred target.referenceName))
    | some _ => r.resolve wrapped
  | some ⟨.list, wrapped⟩ =>
    match wrapped.classify with
    | none => (r.entry wrapped).bind (listOf t)
    | some _ => (r.resolve wrapped).map (Option.map .list)
  | some ⟨.reference, target⟩ => .ok (some (.nonNull (.deferred target.referenceName)))
termination_by sizeOf t
decreasing_by
  all_goals exact TypeHint.classify_wrapped_lt _hw (by simp)

end Registry

end SchemaLink
