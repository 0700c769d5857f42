import SchemaLink.Class.Declaration

/-!
# Type hints

A type hint is what the author of a class writes beside a field: a class, a constant, a name
declared elsewhere, a generic alias such as `list[int]`, a union, or any of these annotated with
metadata. Raw lists, mappings and tuples, and opaque objects, may stand inside hints as well. A raw
list or mapping carries a token that tells it from every other one.
-/

namespace SchemaLink

/-- The two families of generic aliases: of the built-in and abstract collections themselves, and of
the typing module, user-defined generics among them. -/
inductive AliasFlavour where
  | builtin
  | typing
  deriving DecidableEq, Repr, Inhabited

/-- The two families of unions: of the typing module, and of the `|` operator. -/
inductive UnionFlavour where
  | typing
  | operator
  deriving DecidableEq, Repr, Inhabited

/-- A type hint. -/
inductive TypeHint where
  | value (v : Value)
  | cls (c : Class)
  /-- A reference by name to a type that is declared elsewhere. -/
  | forward (name : String)
  /-- A type variable, told from all others by its label. -/
  | typeVar (label name : String)
  /-- A new type, told from all others by its label. -/
  | newType (label name : String) (underlying : TypeHint)
  /-- An opaque object, told from all others by its label. -/
  | object (label : String) (name : Option String) (written : String)
  /-- A special form without arguments. -/
  | form (name : String)
  /-- A special form with arguments. -/
  | formAlias (name : String) (args : List TypeHint)
  /-- An alias of the typing module without arguments. -/
  | bare (origin : Class)
  /-- A generic alias. The parameters of a callable stand before its result. -/
  | generic (flavour : AliasFlavour) (origin : Class) (args : List TypeHint)
  | literal (items : List Value)
  | union (flavour : UnionFlavour) (members : List TypeHint)
  | annotated (target : TypeHint) (metadata : List TypeHint)
  | list (token : Nat) (items : List TypeHint)
  | tuple (items : List TypeHint)
  /-- A raw mapping, with its text keys in ascending order beside their values. -/
  | dict (token : Nat) (keys : List String) (values : List TypeHint)
  deriving Repr, Inhabited

namespace TypeHint

/-- The constant that stands for the absence of a value. -/
abbrev none : TypeHint := .value .none

/-- The class of the constant `none`. -/
abbrev noneType : TypeHint := .cls Class.Builtin.noneType

/-- A plain text, which names a type like a forward reference. -/
abbrev text (s : String) : TypeHint := .value (.text s)

/-- A target with the marker of a deferred reference around it. -/
def reference (target : TypeHint) : TypeHint := .generic .typing Class.Builtin.reference [target]

/-- Every part of a hint satisfies a property that holds of a hint whenever it holds of the
hint's own parts. -/
theorem ind {motive : TypeHint → Prop}
    (value : ∀ v, motive (.value v))
    (cls : ∀ c, motive (.cls c))
    (forward : ∀ n, motive (.forward n))
    (typeVar : ∀ l n, motive (.typeVar l n))
    (newType : ∀ l n t, motive t → motive (.newType l n t))
    (object : ∀ l n w, motive (.object l n w))
    (form : ∀ n, motive (.form n))
    (formAlias : ∀ n args, (∀ a ∈ args, motive a) → motive (.formAlias n args))
    (bare : ∀ c, motive (.bare c))
    (generic : ∀ f c args, (∀ a ∈ args, motive a) → motive (.generic f c args))
    (literal : ∀ items, motive (.literal items))
    (union : ∀ f members, (∀ m ∈ members, motive m) → motive (.union f members))
    (annotated : ∀ t ms, motive t → (∀ m ∈ ms, motive m) → motive (.annotated t ms))
    (list : ∀ k items, (∀ x ∈ items, motive x) → motive (.list k items))
    (tuple : ∀ items, (∀ x ∈ items, motive x) → motive (.tuple items))
    (dict : ∀ k keys values, (∀ x ∈ values, motive x) → motive (.dict k keys values)) :
    ∀ t, motive t := by
  intro t
  refine @TypeHint.rec motive (fun ts => ∀ t ∈ ts, motive t) value cls forward typeVar newType
    object form formAlias bare generic literal union annotated list tuple dict
    (fun _ h => by cases h) (fun head tail hhead htail t ht => ?_) t
  rcases List.mem_cons.mp ht with rfl | ht
  · exact hhead
  · exact htail t ht

end TypeHint

end SchemaLink
