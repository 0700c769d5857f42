import SchemaLink.Hint.Name

/-!
# Wrapper hints

A wrapper changes how the type inside it appears in a schema: an optional hint makes it nullable, a
list-like hint makes it a list, and a reference defers it to a type that is declared elsewhere.
Every other hint is a leaf. The wrapped hint is always a smaller one, except that a name on its own
wraps itself.
-/

namespace SchemaLink

/-- What a wrapper does to the type inside it. -/
inductive Modifier where
  | optional
  | list
  | reference
  deriving DecidableEq, Repr, Inhabited

/-- A wrapper hint split into its modifier and the hint that it wraps. -/
structure Wrapper where
  modifier : Modifier
  wrapped : TypeHint
  deriving Repr, Inhabited

namespace TypeHint

/-- The collections whose aliases with one argument are lists. -/
def listOrigins : List Class :=
  [ Class.Builtin.list, Class.Builtin.set, Class.Builtin.frozenset, Class.Builtin.sequence,
    Class.Builtin.mutableSequence, Class.Builtin.abstractSet, Class.Builtin.mutableSet,
    Class.Builtin.collection, Class.Builtin.iterable ]

/-- The hint below all annotations. -/
def stripAnnotated : TypeHint → TypeHint
  | .annotated target _ => stripAnnotated target
  | t => t

/-- Whether a hint is the class of absent values. -/
def isNoneType : TypeHint → Bool
  | .cls c => c = Class.Builtin.noneType
  | _ => false

/-- The only member of an optional union that is not the class of absent values. -/
def optionalMember? (members : List TypeHint) : Option TypeHint :=
  match members.filter fun m => !m.isNoneType with
  | [single] => if 1 < members.length then some single else Option.none
  | _ => Option.none

/-- How an alias with this origin and these arguments wraps, if it does. -/
def classifyAlias (origin : Class) (args : List TypeHint) : Option Wrapper :=
  match args with
  | [arg] =>
    if origin = Class.Builtin.reference then some ⟨.reference, arg.stripAnnotated⟩
    else if origin ∈ listOrigins then some ⟨.list, arg.stripAnnotated⟩
    else Option.none
  | [arg, .value .ellipsis] =>
    if origin = Class.Builtin.tuple then some ⟨.list, arg.stripAnnotated⟩ else Option.none
  | _ => Option.none

/-- How a hint without annotations around it wraps, if it does. -/
def classifyBare (t : TypeHint) : Option Wrapper :=
  match t with
  | .value (.text _) | .forward _ => some ⟨.reference, t⟩
  | .union _ members => (optionalMember? members).map fun m => ⟨.optional, m.stripAnnotated⟩
  | .generic _ origin args => classifyAlias origin args
  | _ => Option.none

/-- The hint as a wrapper; a leaf is none. -/
def classify (t : TypeHint) : Option Wrapper := classifyBare t.stripAnnotated

/-- Whether a hint is a wrapper. -/
def isWrapper (t : TypeHint) : Bool := t.classify.isSome

/-- Whether a hint is a name on its own. -/
def isName : TypeHint → Bool
  | .value (.text _) | .forward _ => true
  | _ => false

/-- Whether a hint stands for no type at all. -/
def isVoid : TypeHint → Bool
  | .value .none => true
  | t => t.isNoneType

/-- No annotation is left around the hint below all annotations. -/
@[simp] theorem stripAnnotated_stripAnnotated (t : TypeHint) :
    t.stripAnnotated.stripAnnotated = t.stripAnnotated := by
  fun_induction stripAnnotated t with
  | case1 target metadata ih => exact ih
  | case2 t h =>
    cases t with
    | annotated target metadata => exact absurd rfl (h target metadata)
    | _ => rfl

/-- Annotations do not matter for how a hint wraps. -/
@[simp] theorem classify_stripAnnotated (t : TypeHint) :
    t.stripAnnotated.classify = t.classify := by
  rw [classify, classify, stripAnnotated_stripAnnotated]

theorem sizeOf_stripAnnotated_le (t : TypeHint) : sizeOf t.stripAnnotated ≤ sizeOf t := by
  fun_induction stripAnnotated t with
  | case1 target metadata ih => simp; omega
  | case2 => exact Nat.le_refl _

theorem sizeOf_optionalMember_lt {members : List TypeHint} {m : TypeHint}
    (h : optionalMember? members = some m) : sizeOf m < sizeOf members := by
  unfold optionalMember? at h
  split at h
  · next single heq =>
    split at h
    · obtain rfl := Option.some.inj h
      have : single ∈ members := by
        have : single ∈ members.filter fun m => !m.isNoneType := by simp [heq]
        exact (List.mem_filter.mp this).1
      exact List.sizeOf_lt_of_mem this
    · cases h
  · cases h

/-- A wrapper holds a smaller hint, or is a name and holds itself. -/
theorem classifyBare_wrapped {t : TypeHint} {w : Wrapper} (h : t.classifyBare = some w) :
    sizeOf w.wrapped < sizeOf t ∨ (t.isName = true ∧ w = ⟨.reference, t⟩) := by
  unfold classifyBare at h
  split at h
  · exact .inr ⟨rfl, (Option.some.inj h).symm⟩
  · exact .inr ⟨rfl, (Option.some.inj h).symm⟩
  · next members =>
    left
    obtain ⟨m, hm, rfl⟩ := Option.map_eq_some_iff.mp h
    have := sizeOf_optionalMember_lt hm
    have := sizeOf_stripAnnotated_le m
    simp; omega
  · next flavour origin args =>
    left
    unfold classifyAlias at h
    split at h
    · next arg =>
      have := sizeOf_stripAnnotated_le arg
      split at h
      · obtain rfl := Option.some.inj h
        simp; omega
      · split at h
        · obtain rfl := Option.some.inj h
          simp; omega
        · cases h
    · next arg =>
      have := sizeOf_stripAnnotated_le arg
      split at h
      · obtain rfl := Option.some.inj h
        simp; omega
      · cases h
    · cases h
  · cases h

theorem classify_wrapped {t : TypeHint} {w : Wrapper} (h : t.classify = some w) :
    sizeOf w.wrapped < sizeOf t ∨
      (t.stripAnnotated.isName = true ∧ w = ⟨.reference, t.stripAnnotated⟩) := by
  rcases classifyBare_wrapped h with hlt | hname
  · exact .inl (Nat.lt_of_lt_of_le hlt (sizeOf_stripAnnotated_le t))
  · exact .inr hname

theorem classify_wrapped_lt {t : TypeHint} {w : Wrapper} (h : t.classify = some w)
    (hm : w.modifier ≠ .reference) : sizeOf w.wrapped < sizeOf t := by
  rcases classify_wrapped h with hlt | ⟨_, rfl⟩
  · exact hlt
  · exact absurd rfl hm

end TypeHint

end SchemaLink
