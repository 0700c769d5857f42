import SchemaLink.Proofs.ResolutionTower

/-!
# The outline of a hint

All that resolving a hint and judging its capabilities ever ask of it are the steps on the way to
its core, whether that core is a reference, and the destination: the leaf or the name that is
reached if references are passed as well. Hints of one outline are therefore told apart by nothing
but the names that errors show.
-/

namespace SchemaLink

namespace TypeHint

/-- A text as the forward reference that it stands for. -/
def asForward : TypeHint → TypeHint
  | .value (.text s) => .forward s
  | t => t

/-- The leaf below all wrappers and annotations, or the forward reference that is found there. -/
def destination (t : TypeHint) : TypeHint := t.target.stripAnnotated.asForward

/-- Whether the core of a hint is a reference. -/
def isDeferred (t : TypeHint) : Bool := t.core.isWrapper

/-- What is left of a hint when its spelling is forgotten. -/
structure Outline where
  steps : List Modifier
  isDeferred : Bool
  destination : TypeHint

/-- The outline with one more step around it. -/
def Outline.after (modifier : Modifier) (o : Outline) : Outline :=
  { o with steps := modifier :: o.steps }

/-- The outline of a hint. -/
def outline (t : TypeHint) : Outline := ⟨t.steps, t.isDeferred, t.destination⟩

/-- A leaf is not deferred. -/
theorem isDeferred_of_leaf {t : TypeHint} (h : t.classify = Option.none) :
    t.isDeferred = false := by
  simp [isDeferred, isWrapper, core_of_leaf h, h]

/-- A reference is deferred. -/
theorem isDeferred_of_reference {t target : TypeHint}
    (h : t.classify = some ⟨.reference, target⟩) : t.isDeferred = true := by
  simp [isDeferred, isWrapper, core_of_reference h, h]

/-- A hint is deferred unless its core is a leaf. -/
theorem isDeferred_eq_false_iff {t : TypeHint} :
    t.isDeferred = false ↔ t.core.classify = Option.none := by
  simp [isDeferred, isWrapper]

/-- A name is a text or a forward reference. -/
theorem isName_cases {t : TypeHint} (h : t.isName = true) :
    (∃ s, t = text s) ∨ ∃ s, t = .forward s := by
  unfold isName at h
  split at h
  · exact .inl ⟨_, rfl⟩
  · exact .inr ⟨_, rfl⟩
  · cases h

/-- A name refers to itself. -/
theorem classify_of_isName {t : TypeHint} (h : t.isName = true) :
    t.classify = some ⟨.reference, t⟩ := by
  obtain ⟨s, rfl⟩ | ⟨s, rfl⟩ := isName_cases h <;> rfl

section Target

variable {t : TypeHint} {w : Wrapper}

/-- A leaf is its own target. -/
theorem target_of_leaf (h : t.classify = Option.none) : t.target = t := by
  rw [target]
  split <;> simp_all

/-- A name is its own target. -/
theorem target_of_isName (h : t.isName = true) : t.target = t := by
  have hclassify := classify_of_isName h
  rw [target]
  split <;> simp_all [Wrapper.isNamed]

/-- A wrapper has the target of the hint inside. -/
theorem target_of_wrapper (h : t.classify = some w) : t.target = w.wrapped.target := by
  cases hname : w.isNamed with
  | true =>
    have hinner : w.wrapped.isName = true := by
      simp only [Wrapper.isNamed, Bool.and_eq_true] at hname
      exact hname.2
    rw [target_of_isName hinner, target]
    split <;> simp_all
  | false =>
    rw [target]
    split <;> simp_all

/-- What holds of leaves and names, and of a wrapper whenever it holds of the hint inside, holds of
every hint. -/
theorem target_induction {motive : TypeHint → Prop}
    (leaf : ∀ t, t.classify = Option.none → motive t)
    (name : ∀ t, t.stripAnnotated.isName = true → motive t)
    (wrapper : ∀ t w, t.classify = some w → motive w.wrapped → motive t) (t : TypeHint) :
    motive t := by
  match hw : t.classify with
  | Option.none => exact leaf t hw
  | some w =>
    rcases classify_wrapped hw with hlt | ⟨hname, -⟩
    · exact wrapper t w hw (target_induction leaf name wrapper w.wrapped)
    · exact name t hname
termination_by sizeOf t

/-- A wrapper has the destination of the hint inside. -/
theorem destination_of_wrapper (h : t.classify = some w) :
    t.destination = w.wrapped.destination := by
  rw [destination, destination, target_of_wrapper h]

/-- A leaf is its own destination, but for annotations. -/
theorem destination_of_leaf (h : t.classify = Option.none) :
    t.destination = t.stripAnnotated := by
  rw [destination, target_of_leaf h]
  unfold asForward
  split
  case h_1 s hs => rw [← classify_stripAnnotated, hs] at h; cases h
  case h_2 => rfl

/-- A name leads to the forward reference that it stands for. -/
theorem destination_of_isName (h : t.isName = true) : t.destination = t.asForward := by
  rw [destination, target_of_isName h]
  obtain ⟨s, rfl⟩ | ⟨s, rfl⟩ := isName_cases h <;> rfl

/-- A name as a forward reference is a name. -/
theorem isName_asForward (h : t.isName = true) : t.asForward.isName = true := by
  obtain ⟨s, rfl⟩ | ⟨s, rfl⟩ := isName_cases h <;> rfl

/-- Annotations do not change the destination. -/
@[simp] theorem destination_stripAnnotated (t : TypeHint) :
    t.stripAnnotated.destination = t.destination := by
  cases h : t.classify with
  | none =>
    have hstrip : t.stripAnnotated.classify = Option.none := by rw [classify_stripAnnotated, h]
    rw [destination_of_leaf h, destination_of_leaf hstrip, stripAnnotated_stripAnnotated]
  | some w =>
    have hstrip : t.stripAnnotated.classify = some w := by rw [classify_stripAnnotated, h]
    rw [destination_of_wrapper h, destination_of_wrapper hstrip]

/-- The core has the destination of the whole hint. -/
theorem destination_core (t : TypeHint) : t.core.destination = t.destination := by
  induction t using spine_induction with
  | leaf t h => rw [core_of_leaf h, destination_stripAnnotated]
  | reference t target h => rw [core_of_reference h, destination_stripAnnotated]
  | optional t wrapped h ih => rw [core_of_optional h, ih, destination_of_wrapper h]
  | list t wrapped h ih => rw [core_of_list h, ih, destination_of_wrapper h]

/-- No annotation stands around a core. -/
theorem stripAnnotated_core (t : TypeHint) : t.core.stripAnnotated = t.core := by
  induction t using spine_induction with
  | leaf t h => rw [core_of_leaf h, stripAnnotated_stripAnnotated]
  | reference t target h => rw [core_of_reference h, stripAnnotated_stripAnnotated]
  | optional t wrapped h ih => rw [core_of_optional h, ih]
  | list t wrapped h ih => rw [core_of_list h, ih]

/-- A core that is a leaf is the destination. -/
theorem core_eq_destination (h : t.core.classify = Option.none) : t.core = t.destination := by
  rw [← destination_core, destination_of_leaf h, stripAnnotated_core]

/-- A hint is called what it is called without its annotations. -/
@[simp] theorem displayName_stripAnnotated (t : TypeHint) :
    t.stripAnnotated.displayName = t.displayName := by
  fun_induction stripAnnotated t with
  | case1 target metadata ih => rw [ih, displayName]
  | case2 => rfl

/-- A text is called what the forward reference is called that it stands for. -/
@[simp] theorem displayName_asForward (t : TypeHint) : t.asForward.displayName = t.displayName := by
  unfold asForward
  split
  · rw [displayName, displayName, Value.displayName]
  · rfl

/-- A reference points to the name of its destination. -/
theorem referenceName_eq (t : TypeHint) :
    t.referenceName = normalizeName t.destination.displayName := by
  rw [referenceName, destination, displayName_asForward, displayName_stripAnnotated]

/-- The core of a hint is its destination, unless the hint is deferred: then the core is a reference
to the name of the destination. -/
theorem core_cases (t : TypeHint) :
    (t.isDeferred = false ∧ t.core.classify = Option.none ∧ t.core = t.destination) ∨
    t.isDeferred = true ∧ ∃ target, t.core.classify = some ⟨.reference, target⟩ ∧
      target.referenceName = normalizeName t.destination.displayName := by
  rcases core_classify t with h | ⟨target, h⟩
  · exact .inl ⟨isDeferred_eq_false_iff.mpr h, h, core_eq_destination h⟩
  · have hname : target.referenceName = normalizeName t.destination.displayName := by
      rw [referenceName_eq, ← destination_core t, destination_of_wrapper h]
    exact .inr ⟨by simp [isDeferred, isWrapper, h], target, h, hname⟩

end Target

section Capability

variable {t : TypeHint} {w : Wrapper}

/-- A wrapper is no protocol. -/
theorem isProtocol_of_wrapper (h : t.classify = some w) : t.isProtocol = false := by
  unfold isProtocol
  split
  case h_1 c hc => rw [← classify_stripAnnotated, hc] at h; cases h
  case h_2 => rfl

/-- Annotations do not make a protocol. -/
theorem isProtocol_stripAnnotated (t : TypeHint) : t.stripAnnotated.isProtocol = t.isProtocol := by
  rw [isProtocol, isProtocol, stripAnnotated_stripAnnotated]

/-- A name is taken to be representable. -/
theorem isRepresentable_of_isName (registry : Option Registry) (h : t.isName = true) :
    t.isRepresentable registry = .ok true := by
  have hclassify := classify_of_isName h
  rw [isRepresentable, isProtocol_of_wrapper hclassify, if_neg Bool.false_ne_true]
  split <;> simp_all

/-- A wrapper is representable if the hint inside is. -/
theorem isRepresentable_of_wrapper (registry : Option Registry) (h : t.classify = some w) :
    t.isRepresentable registry = w.wrapped.isRepresentable registry := by
  rw [isRepresentable, isProtocol_of_wrapper h, if_neg Bool.false_ne_true]
  by_cases hname : w.modifier = .reference ∧ w.wrapped.isName = true
  · rw [isRepresentable_of_isName registry hname.2]
    split <;> simp_all
  · split <;> simp_all

/-- A leaf is representable if it is a protocol, is linked, or is of a representable kind. -/
theorem isRepresentable_of_leaf (registry : Option Registry) (h : t.classify = Option.none) :
    t.isRepresentable registry =
      if t.isProtocol then .ok true
      else (t.stripAnnotated.isLinked registry).map
        (· || t.stripAnnotated.isRepresentableLeaf) := by
  rw [isRepresentable]
  split
  · rfl
  · split
    · simp_all
    · dsimp only
      cases t.stripAnnotated.isLinked registry with
      | error container => rfl
      | ok linked => cases linked <;> rfl

/-- Annotations do not make a leaf representable. -/
theorem isRepresentable_stripAnnotated (registry : Option Registry)
    (h : t.classify = Option.none) :
    t.stripAnnotated.isRepresentable registry = t.isRepresentable registry := by
  have hstrip : t.stripAnnotated.classify = Option.none := by rw [classify_stripAnnotated, h]
  rw [isRepresentable_of_leaf registry h, isRepresentable_of_leaf registry hstrip,
    isProtocol_stripAnnotated, stripAnnotated_stripAnnotated]

/-- A hint is representable if its destination is. -/
theorem isRepresentable_destination (registry : Option Registry) (t : TypeHint) :
    t.isRepresentable registry = t.destination.isRepresentable registry := by
  induction t using target_induction with
  | leaf t h => rw [destination_of_leaf h, isRepresentable_stripAnnotated registry h]
  | name t h =>
    have hclassify : t.classify = some ⟨.reference, t.stripAnnotated⟩ := by
      rw [← classify_stripAnnotated, classify_of_isName h]
    rw [isRepresentable_of_wrapper registry hclassify, isRepresentable_of_isName registry h,
      ← destination_stripAnnotated, destination_of_isName h,
      isRepresentable_of_isName registry (isName_asForward h)]
  | wrapper t w h ih =>
    rw [isRepresentable_of_wrapper registry h, destination_of_wrapper h, ih]

/-- A protocol is a class, which can be hashed. -/
theorem unhashable?_of_isProtocol (h : t.isProtocol = true) :
    t.stripAnnotated.unhashable? = Option.none := by
  unfold isProtocol at h
  split at h
  case h_1 c hc => rw [hc]; rfl
  case h_2 => cases h

/-- A name can be hashed. -/
theorem unhashable?_of_isName (h : t.isName = true) : t.unhashable? = Option.none := by
  obtain ⟨s, rfl⟩ | ⟨s, rfl⟩ := isName_cases h <;> rfl

/-- A leaf is no name. -/
theorem isName_of_leaf (h : t.classify = Option.none) : t.isName = false := by
  cases hname : t.isName with
  | false => rfl
  | true => rw [classify_of_isName hname] at h; cases h

/-- A hint is representable if its destination is a name, a protocol, linked, or of a representable
kind. The question fails if the destination cannot be hashed. -/
theorem isRepresentable_eq (r : Registry) (t : TypeHint) :
    t.isRepresentable (some r) =
      match t.destination.unhashable? with
      | some container => .error container
      | Option.none => .ok (t.destination.isName || t.destination.isProtocol ||
          (r.get? t.destination).isSome || t.destination.isRepresentableLeaf) := by
  induction t using target_induction with
  | leaf t h =>
    have hname : t.stripAnnotated.isName = false :=
      isName_of_leaf (by rw [classify_stripAnnotated, h])
    rw [isRepresentable_of_leaf _ h, destination_of_leaf h, isProtocol_stripAnnotated, hname]
    cases hprotocol : t.isProtocol with
    | true => simp [unhashable?_of_isProtocol hprotocol]
    | false =>
      rw [isLinked, Registry.contains, Registry.lookup]
      cases t.stripAnnotated.unhashable? with
      | some container => rfl
      | none => simp [Except.map]
  | name t h =>
    have hdestination : t.destination = t.stripAnnotated.asForward := by
      rw [← destination_stripAnnotated, destination_of_isName h]
    have hforward := isName_asForward h
    rw [isRepresentable_destination, isRepresentable_of_isName _ (hdestination ▸ hforward),
      hdestination, hforward, unhashable?_of_isName hforward]
    rfl
  | wrapper t w h ih => rw [isRepresentable_of_wrapper _ h, ih, destination_of_wrapper h]

/-- A hint is a protocol if it leads to one without a step or a reference. -/
theorem isProtocol_eq (t : TypeHint) :
    t.isProtocol = (t.steps.isEmpty && !t.isDeferred && t.destination.isProtocol) := by
  induction t using spine_induction with
  | leaf t h =>
    rw [steps_of_leaf h, isDeferred_of_leaf h, destination_of_leaf h, isProtocol_stripAnnotated]
    rfl
  | reference t target h =>
    simp [isProtocol_of_wrapper h, isDeferred_of_reference h]
  | optional t wrapped h => simp [isProtocol_of_wrapper h, steps_of_optional h]
  | list t wrapped h => simp [isProtocol_of_wrapper h, steps_of_list h]

end Capability

end TypeHint

open TypeHint hiding none

namespace Registry

/-- What a registry answers about the core of a hint depends on the outline of the hint: a deferred
hint stands for a type of the name of its destination, and any other one for the entry of its
destination. -/
theorem coreEntry_core (r : Registry) (t : TypeHint) :
    r.coreEntry t.core =
      if t.isDeferred then .ok (some (.deferred (normalizeName t.destination.displayName)))
      else r.entry t.destination := by
  rcases core_cases t with ⟨hdeferred, hleaf, hcore⟩ | ⟨hdeferred, target, href, hname⟩
  · rw [r.coreEntry_of_leaf hleaf, hdeferred, if_neg Bool.false_ne_true, hcore]
  · rw [r.coreEntry_of_reference href, hdeferred, if_pos rfl, hname]

/-- The type of the core of a hint depends on the outline of the hint. -/
theorem coreType_core (r : Registry) (t : TypeHint) : r.coreType t.core =
    if t.isDeferred then some (.deferred (normalizeName t.destination.displayName))
    else r.get? t.destination := by
  rcases core_cases t with ⟨hdeferred, hleaf, hcore⟩ | ⟨hdeferred, target, href, hname⟩
  · rw [r.coreType_of_leaf hleaf, hdeferred, if_neg Bool.false_ne_true, hcore]
  · rw [r.coreType_of_reference href, hdeferred, if_pos rfl, hname]

/-- Wrappers that take the same steps settle a type in the same way, but for the list that is named
if they refuse it. -/
theorem settle_congr {t u : TypeHint} (h : t.steps = u.steps) (linked : Option SchemaType) :
    (settle t linked).mapError ResolveError.kindName =
      (settle u linked).mapError ResolveError.kindName := by
  cases linked with
  | none => rfl
  | some g =>
    rw [settle, settle, listDepth, listDepth, endsOptional, endsOptional, h]
    by_cases hkept : g.isNullable || decide (u.steps.getLast? = some .optional)
    · rw [if_pos hkept, if_pos hkept]
    · rw [if_neg hkept, if_neg hkept]
      split <;> rfl

/-- Hints of one outline resolve alike. -/
theorem resolve_congr (r : Registry) {t u : TypeHint} (h : t.outline = u.outline) :
    (r.resolve t).mapError ResolveError.kindName =
      (r.resolve u).mapError ResolveError.kindName := by
  obtain ⟨hsteps, hdeferred, hdestination⟩ := Outline.mk.inj h
  rw [resolve_eq_settle, resolve_eq_settle, coreEntry_core, coreEntry_core, hdeferred,
    hdestination]
  cases (if u.isDeferred then _ else _ : Except ResolveError (Option SchemaType)) with
  | error e => rfl
  | ok linked => exact settle_congr hsteps linked

end Registry

namespace TypeHint

variable {t u : TypeHint}

/-- Hints of one outline are equally representable. -/
theorem isRepresentable_congr (registry : Option Registry) (h : t.outline = u.outline) :
    t.isRepresentable registry = u.isRepresentable registry := by
  obtain ⟨-, -, hdestination⟩ := Outline.mk.inj h
  rw [isRepresentable_destination, hdestination, ← isRepresentable_destination]

/-- Of hints of one outline, all or none are protocols. -/
theorem isProtocol_congr (h : t.outline = u.outline) : t.isProtocol = u.isProtocol := by
  obtain ⟨hsteps, hdeferred, hdestination⟩ := Outline.mk.inj h
  rw [isProtocol_eq t, isProtocol_eq u, hsteps, hdeferred, hdestination]

end TypeHint

end SchemaLink
