import SchemaLink.Registry.Resolution

/-!
# The spine of a hint

Going down from a hint through annotations, optional hints and lists ends at a core, which is a leaf
or a reference. The steps on the way and the core decide what the hint resolves to, however the
wrappers are mixed. Every induction over wrappers follows these steps.
-/

namespace SchemaLink

namespace TypeHint

/-- Only the class of absent values is recognised as that class. -/
@[simp] theorem isNoneType_iff {t : TypeHint} : t.isNoneType = true ↔ t = noneType := by
  cases t <;> simp [isNoneType]

/-- The absence of a type is the constant or its class. -/
theorem isVoid_iff {t : TypeHint} : t.isVoid = true ↔ t = TypeHint.none ∨ t = noneType := by
  cases t with
  | value v => cases v <;> simp [isVoid, isNoneType]
  | _ => simp [isVoid, isNoneType]

/-- What is not the absence of a type is neither the constant nor its class. -/
theorem isVoid_eq_false_iff {t : TypeHint} :
    t.isVoid = false ↔ t ≠ TypeHint.none ∧ t.isNoneType = false := by
  rw [← Bool.not_eq_true, ← Bool.not_eq_true, isVoid_iff, isNoneType_iff, not_or]

/-- The optional hints and lists that are passed on the way to the core, the outermost first. -/
def steps (t : TypeHint) : List Modifier :=
  match _hw : t.classify with
  | some ⟨.optional, wrapped⟩ => .optional :: steps wrapped
  | some ⟨.list, wrapped⟩ => .list :: steps wrapped
  | _ => []
termination_by sizeOf t
decreasing_by all_goals exact classify_wrapped_lt _hw (by simp)

/-- The leaf or reference below all annotations, optional hints and lists. -/
def core (t : TypeHint) : TypeHint :=
  match _hw : t.classify with
  | some ⟨.optional, wrapped⟩ => core wrapped
  | some ⟨.list, wrapped⟩ => core wrapped
  | _ => t.stripAnnotated
termination_by sizeOf t
decreasing_by all_goals exact classify_wrapped_lt _hw (by simp)

/-- The wrapper directly around the core: the last hint on the way down that takes a step. A hint
without steps has none around its core, and stands for itself. -/
def innermostWrapper (t : TypeHint) : TypeHint :=
  match _hw : t.classify with
  | some ⟨.optional, wrapped⟩ => if wrapped.steps = [] then t else innermostWrapper wrapped
  | some ⟨.list, wrapped⟩ => if wrapped.steps = [] then t else innermostWrapper wrapped
  | _ => t
termination_by sizeOf t
decreasing_by all_goals exact classify_wrapped_lt _hw (by simp)

/-- The number of lists on the way to the core. -/
def listDepth (t : TypeHint) : Nat := t.steps.count .list

/-- Whether the core stands directly inside an optional hint. -/
def endsOptional (t : TypeHint) : Bool := t.steps.getLast? = some .optional

/-- What holds of leaves and references, and of an optional hint or a list whenever it holds of the
hint inside, holds of every hint. -/
theorem spine_induction {motive : TypeHint → Prop}
    (leaf : ∀ t, t.classify = Option.none → motive t)
    (reference : ∀ t target, t.classify = some ⟨.reference, target⟩ → motive t)
    (optional : ∀ t wrapped, t.classify = some ⟨.optional, wrapped⟩ → motive wrapped → motive t)
    (list : ∀ t wrapped, t.classify = some ⟨.list, wrapped⟩ → motive wrapped → motive t)
    (t : TypeHint) : motive t := by
  match hw : t.classify with
  | Option.none => exact leaf t hw
  | some ⟨.reference, target⟩ => exact reference t target hw
  | some ⟨.optional, wrapped⟩ =>
    have := classify_wrapped_lt hw (by simp)
    exact optional t wrapped hw (spine_induction leaf reference optional list wrapped)
  | some ⟨.list, wrapped⟩ =>
    have := classify_wrapped_lt hw (by simp)
    exact list t wrapped hw (spine_induction leaf reference optional list wrapped)
termination_by sizeOf t

section Shapes

variable {t wrapped target : TypeHint}

/-- A leaf has no steps. -/
theorem steps_of_leaf (h : t.classify = Option.none) : t.steps = [] := by
  rw [steps]
  split <;> simp_all

/-- A reference has no steps. -/
theorem steps_of_reference (h : t.classify = some ⟨.reference, target⟩) : t.steps = [] := by
  rw [steps]
  split <;> simp_all

/-- An optional hint has one step more than the hint inside. -/
theorem steps_of_optional (h : t.classify = some ⟨.optional, wrapped⟩) :
    t.steps = .optional :: wrapped.steps := by
  rw [steps]
  split <;> simp_all

/-- A list has one step more than the hint inside. -/
theorem steps_of_list (h : t.classify = some ⟨.list, wrapped⟩) :
    t.steps = .list :: wrapped.steps := by
  rw [steps]
  split <;> simp_all

/-- Neither a leaf nor a reference stands directly inside an optional hint on the way down. -/
theorem endsOptional_of_steps_eq_nil (h : t.steps = []) : t.endsOptional = false := by
  simp [endsOptional, h]

/-- No list is passed on the way to a leaf or a reference itself. -/
theorem listDepth_of_steps_eq_nil (h : t.steps = []) : t.listDepth = 0 := by
  simp [listDepth, h]

/-- An optional hint around a core ends the way down. -/
theorem endsOptional_of_optional (h : t.classify = some ⟨.optional, wrapped⟩)
    (hw : wrapped.steps = []) : t.endsOptional = true := by
  simp [endsOptional, steps_of_optional h, hw]

/-- An optional hint around another step does not change how the way down ends. -/
theorem endsOptional_of_optional_wrapper (h : t.classify = some ⟨.optional, wrapped⟩)
    (hw : wrapped.steps ≠ []) : t.endsOptional = wrapped.endsOptional := by
  obtain ⟨first, rest, hsteps⟩ := List.exists_cons_of_ne_nil hw
  simp [endsOptional, steps_of_optional h, hsteps]

/-- An optional hint adds no list to the way down. -/
theorem listDepth_of_optional (h : t.classify = some ⟨.optional, wrapped⟩) :
    t.listDepth = wrapped.listDepth := by
  simp [listDepth, steps_of_optional h]

/-- A list never makes the way down end in an optional hint. -/
theorem endsOptional_of_list (h : t.classify = some ⟨.list, wrapped⟩) :
    t.endsOptional = wrapped.endsOptional := by
  rw [endsOptional, endsOptional, steps_of_list h]
  cases hsteps : wrapped.steps <;> simp

/-- A list is passed on the way down. -/
theorem listDepth_of_list (h : t.classify = some ⟨.list, wrapped⟩) :
    t.listDepth = wrapped.listDepth + 1 := by
  simp [listDepth, steps_of_list h]

/-- A leaf is its own core, but for annotations. -/
theorem core_of_leaf (h : t.classify = Option.none) : t.core = t.stripAnnotated := by
  rw [core]
  split <;> simp_all

/-- A reference is its own core, but for annotations. -/
theorem core_of_reference (h : t.classify = some ⟨.reference, target⟩) :
    t.core = t.stripAnnotated := by
  rw [core]
  split <;> simp_all

/-- An optional hint has the core of the hint inside. -/
theorem core_of_optional (h : t.classify = some ⟨.optional, wrapped⟩) :
    t.core = wrapped.core := by
  rw [core]
  split <;> simp_all

/-- A list has the core of the hint inside. -/
theorem core_of_list (h : t.classify = some ⟨.list, wrapped⟩) : t.core = wrapped.core := by
  rw [core]
  split <;> simp_all

/-- The wrapper directly around the core is the hint itself, or is found in the hint inside if that
takes a step. -/
theorem innermostWrapper_of_step {w : Wrapper} (h : t.classify = some w)
    (hm : w.modifier ≠ .reference) : t.innermostWrapper =
      if w.wrapped.steps = [] then t else w.wrapped.innermostWrapper := by
  obtain ⟨modifier, inner⟩ := w
  rw [innermostWrapper]
  cases modifier with
  | reference => exact absurd rfl hm
  | _ => split <;> simp_all

end Shapes

/-- An alias wraps only with one argument, or with one and an ellipsis. -/
theorem classifyAlias_eq_none {origin : Class} {args : List TypeHint} (hsingle : ∀ x, args ≠ [x])
    (htuple : ∀ x, args ≠ [x, .value .ellipsis]) : classifyAlias origin args = Option.none := by
  unfold classifyAlias
  split
  · exact absurd rfl (hsingle _)
  · exact absurd rfl (htuple _)
  · rfl

/-- The core of a hint is a leaf or a reference. -/
theorem core_classify (t : TypeHint) : t.core.classify = Option.none ∨
    ∃ target, t.core.classify = some ⟨.reference, target⟩ := by
  induction t using spine_induction with
  | leaf t h =>
    left
    rw [core_of_leaf h, classify_stripAnnotated, h]
  | reference t target h =>
    right
    exact ⟨target, by rw [core_of_reference h, classify_stripAnnotated, h]⟩
  | optional t wrapped h ih => rwa [core_of_optional h]
  | list t wrapped h ih => rwa [core_of_list h]

/-- A wrapper stands around a hint without annotations, unless it is a reference. -/
theorem stripAnnotated_wrapped {t : TypeHint} {w : Wrapper} (h : t.classify = some w) :
    w.wrapped.stripAnnotated = w.wrapped := by
  unfold classify classifyBare at h
  split at h
  · next s heq =>
    obtain rfl := Option.some.inj h
    rw [heq]
    rfl
  · next name heq =>
    obtain rfl := Option.some.inj h
    rw [heq]
    rfl
  · obtain ⟨m, -, rfl⟩ := Option.map_eq_some_iff.mp h
    exact stripAnnotated_stripAnnotated m
  · next flavour origin args heq =>
    unfold classifyAlias at h
    split at h
    · split at h
      · obtain rfl := Option.some.inj h
        exact stripAnnotated_stripAnnotated _
      · split at h
        · obtain rfl := Option.some.inj h
          exact stripAnnotated_stripAnnotated _
        · cases h
    · split at h
      · obtain rfl := Option.some.inj h
        exact stripAnnotated_stripAnnotated _
      · cases h
    · cases h
  · cases h

/-- Annotations take no step. -/
theorem steps_stripAnnotated (t : TypeHint) : t.stripAnnotated.steps = t.steps := by
  rw [steps, steps, classify_stripAnnotated]

/-- Annotations do not change the core. -/
theorem core_stripAnnotated (t : TypeHint) : t.stripAnnotated.core = t.core := by
  rw [core, core, classify_stripAnnotated, stripAnnotated_stripAnnotated]

end TypeHint

end SchemaLink
