import SchemaLink.Proofs.HintSpine
import SchemaLink.Proofs.LinkRun

/-!
# The closed form of resolution

A hint resolves to a tower: one list layer for each list on its spine, around the type of its core,
which stands inside a non-null layer unless the last step before the core is optional. The branches
for leaves, references and wrappers inside optional hints and lists all agree with this form. A type
that cannot stand inside a non-null layer makes a tower only under an optional hint; without one, it
comes to nothing on its own, and is refused as the element of a list. A strict registry holds no
such type.
-/

namespace SchemaLink

namespace SchemaType

/-- A type inside a number of list layers. -/
def listLayers : Nat → SchemaType → SchemaType
  | 0, g => g
  | n + 1, g => .list (listLayers n g)

/-- A type inside a number of list layers, and inside a non-null layer unless it is optional. -/
def tower (lists : Nat) (optional : Bool) (g : SchemaType) : SchemaType :=
  listLayers lists (if optional then g else .nonNull g)

end SchemaType

open TypeHint hiding none

namespace Registry

variable {t wrapped target : TypeHint}

/-- The type of a core: a reference stands for a deferred type, a leaf for the type it is linked
to. -/
def coreType (r : Registry) (core : TypeHint) : Option SchemaType :=
  match core.classify with
  | some w => some (.deferred w.wrapped.referenceName)
  | none => r.get? core

/-- The core is a leaf that is not linked. -/
def Unlinked (r : Registry) (core : TypeHint) : Prop :=
  core.classify = none ∧ r.lookup core = .ok none

/-- Looking up a hint that can be hashed gives the type it is linked to. -/
theorem lookup_of_hashable (r : Registry) (h : t.unhashable? = none) :
    r.lookup t = .ok (r.get? t) := by
  rw [lookup, h]

/-- A hint can be hashed if looking it up succeeds. -/
theorem unhashable?_of_lookup {r : Registry} {linked : Option SchemaType}
    (h : r.lookup t = .ok linked) : t.unhashable? = none := by
  rw [lookup] at h
  split at h
  · cases h
  · assumption

/-- The entry of a hint that can be hashed is the type it is linked to. -/
theorem entry_of_hashable (r : Registry) (h : t.unhashable? = none) :
    r.entry t = .ok (r.get? t) := by
  rw [entry, r.lookup_of_hashable h]
  rfl

section Shapes

variable (r : Registry)

/-- A leaf resolves to its entry, made required. -/
theorem resolve_of_leaf (h : t.classify = none) :
    r.resolve t = (r.entry t.stripAnnotated).map required := by
  rw [resolve]
  split <;> simp_all

/-- A reference resolves to a deferred type inside a non-null layer. -/
theorem resolve_of_reference (h : t.classify = some ⟨.reference, target⟩) :
    r.resolve t = .ok (some (.nonNull (.deferred target.referenceName))) := by
  rw [resolve]
  split <;> simp_all

/-- An optional leaf resolves to its entry. -/
theorem resolve_of_optional_leaf (h : t.classify = some ⟨.optional, wrapped⟩)
    (hw : wrapped.classify = none) : r.resolve t = r.entry wrapped := by
  rw [resolve]
  split <;> simp_all

/-- An optional reference resolves to a deferred type. -/
theorem resolve_of_optional_reference (h : t.classify = some ⟨.optional, wrapped⟩)
    (hw : wrapped.classify = some ⟨.reference, target⟩) :
    r.resolve t = .ok (some (.deferred target.referenceName)) := by
  rw [resolve]
  split <;> simp_all

/-- An optional hint around any other wrapper resolves as that wrapper does. -/
theorem resolve_of_optional_wrapper {w : Wrapper} (h : t.classify = some ⟨.optional, wrapped⟩)
    (hw : wrapped.classify = some w) (hm : w.modifier ≠ .reference) :
    r.resolve t = r.resolve wrapped := by
  obtain ⟨modifier, inner⟩ := w
  cases modifier with
  | reference => exact absurd rfl hm
  | optional =>
    rw [resolve]
    split <;> simp_all
  | list =>
    rw [resolve]
    split <;> simp_all

/-- A list of a leaf resolves to a list of its entry, made required. -/
theorem resolve_of_list_leaf (h : t.classify = some ⟨.list, wrapped⟩)
    (hw : wrapped.classify = none) : r.resolve t = (r.entry wrapped).bind (listOf t) := by
  rw [resolve]
  split <;> simp_all

/-- A list of a wrapper resolves to a list of what the wrapper resolves to. -/
theorem resolve_of_list_wrapper {w : Wrapper} (h : t.classify = some ⟨.list, wrapped⟩)
    (hw : wrapped.classify = some w) :
    r.resolve t = (r.resolve wrapped).map (Option.map .list) := by
  rw [resolve]
  split <;> simp_all

end Shapes

/-- What a registry answers about a core: a reference stands for a deferred type, and a leaf is
looked up. -/
def coreEntry (r : Registry) (core : TypeHint) : Except ResolveError (Option SchemaType) :=
  match core.classify with
  | some w => .ok (some (.deferred w.wrapped.referenceName))
  | none => r.entry core

/-- What the wrappers of a hint make of the answer about its core. -/
def settle (t : TypeHint) : Option SchemaType → Except ResolveError (Option SchemaType)
  | none => .ok none
  | some g =>
    if g.isNullable || t.endsOptional then .ok (some (.tower t.listDepth t.endsOptional g))
    else if t.steps = [] then .ok none
    else .error (.listElement t.innermostWrapper.displayName)

section Settle

/-- Without wrappers, the type of a core is made required. -/
theorem settle_of_steps_eq_nil (h : t.steps = []) (linked : Option SchemaType) :
    settle t linked = .ok (required linked) := by
  have hends := endsOptional_of_steps_eq_nil h
  have hdepth := listDepth_of_steps_eq_nil h
  cases linked with
  | none => rfl
  | some g => cases hg : g.isNullable <;> simp [settle, required, hends, hdepth, h, hg]; rfl

/-- An optional hint around a core keeps the type of the core as it is. -/
theorem settle_of_optional_core (h : t.classify = some ⟨.optional, wrapped⟩)
    (hw : wrapped.steps = []) (linked : Option SchemaType) : settle t linked = .ok linked := by
  have hdepth := (listDepth_of_optional h).trans (listDepth_of_steps_eq_nil hw)
  cases linked with
  | none => rfl
  | some g => simp [settle, endsOptional_of_optional h hw, hdepth]; rfl

/-- An optional hint around another wrapper makes of a type what that wrapper does. -/
theorem settle_of_optional (h : t.classify = some ⟨.optional, wrapped⟩)
    (hw : wrapped.steps ≠ []) : settle t = settle wrapped := by
  funext linked
  have hinner := innermostWrapper_of_step h nofun
  rw [if_neg hw] at hinner
  cases linked with
  | none => rfl
  | some g =>
    simp only [settle, endsOptional_of_optional_wrapper h hw, listDepth_of_optional h, hinner, hw,
      steps_of_optional h, if_false, reduceCtorEq]

/-- A list around a core makes a list of the required type of the core. -/
theorem settle_of_list_core (h : t.classify = some ⟨.list, wrapped⟩) (hw : wrapped.steps = [])
    (linked : Option SchemaType) : settle t linked = listOf t linked := by
  have hends := (endsOptional_of_list h).trans (endsOptional_of_steps_eq_nil hw)
  have hdepth : t.listDepth = 1 := by rw [listDepth_of_list h, listDepth_of_steps_eq_nil hw]
  have hinner := innermostWrapper_of_step h nofun
  rw [if_pos hw] at hinner
  cases linked with
  | none => rfl
  | some g =>
    cases hg : g.isNullable <;>
      simp [settle, listOf, hends, hdepth, hg, hinner, steps_of_list h]
    rfl

/-- A list around another wrapper makes a list of what that wrapper makes of a type. -/
theorem settle_of_list (h : t.classify = some ⟨.list, wrapped⟩) (hw : wrapped.steps ≠ [])
    (linked : Option SchemaType) :
    settle t linked = (settle wrapped linked).map (Option.map .list) := by
  have hinner := innermostWrapper_of_step h nofun
  rw [if_neg hw] at hinner
  cases linked with
  | none => rfl
  | some g =>
    simp only [settle, endsOptional_of_list h, listDepth_of_list h, hinner, steps_of_list h, hw,
      reduceCtorEq, if_false]
    split <;> rfl

/-- Wrappers are settled without a lookup. -/
theorem settle_ne_unhashable (linked : Option SchemaType) (container : Unhashable) :
    settle t linked ≠ .error (.unhashable container) := by
  intro h
  cases linked with
  | none => cases h
  | some g =>
    rw [settle] at h
    split at h
    · cases h
    · split at h
      · cases h
      · cases h

/-- Wrappers that make a type of another one make the tower around it, which has to be taken as it
is or stand inside a non-null layer. -/
theorem settle_eq_some_iff {g u : SchemaType} : settle t (some g) = .ok (some u) ↔
    (g.isNullable || t.endsOptional) = true ∧ u = .tower t.listDepth t.endsOptional g := by
  rw [settle]
  split
  case isTrue hkept => simp [hkept, eq_comm]
  case isFalse hrefused => split <;> simp [hrefused]

end Settle

/-- A core that is a leaf is looked up. -/
theorem coreEntry_of_leaf (r : Registry) {core : TypeHint} (h : core.classify = none) :
    r.coreEntry core = r.entry core := by
  simp [coreEntry, h]

/-- A core that is a reference stands for a deferred type. -/
theorem coreEntry_of_reference (r : Registry) {core : TypeHint}
    (h : core.classify = some ⟨.reference, target⟩) :
    r.coreEntry core = .ok (some (.deferred target.referenceName)) := by
  simp [coreEntry, h]

/-- What holds of the stored types and of deferred types holds of a type that is answered about a
core. -/
theorem stored_of_coreEntry {p : SchemaType → Prop} {r : Registry}
    (hstored : ∀ entry ∈ r.entries, p entry.2) (hdeferred : ∀ name, p (.deferred name))
    {core : TypeHint} {g : SchemaType} (h : r.coreEntry core = .ok (some g)) : p g := by
  rw [coreEntry] at h
  split at h
  · obtain rfl := Option.some.inj (Except.ok.inj h)
    exact hdeferred _
  · rw [entry, lookup] at h
    split at h
    · cases h
    · exact stored_of_get? hstored (Except.ok.inj h)

/-- Resolution looks at the registry once, for the core, and the wrappers settle the rest. -/
theorem resolve_eq_settle (r : Registry) (t : TypeHint) :
    r.resolve t = (r.coreEntry t.core).bind (settle t) := by
  induction t using spine_induction with
  | leaf t h =>
    have hcore : t.stripAnnotated.classify = none := by rw [classify_stripAnnotated, h]
    rw [r.resolve_of_leaf h, core_of_leaf h, r.coreEntry_of_leaf hcore,
      funext (settle_of_steps_eq_nil (steps_of_leaf h))]
    cases r.entry t.stripAnnotated <;> rfl
  | reference t target h =>
    have hcore : t.stripAnnotated.classify = some ⟨.reference, target⟩ := by
      rw [classify_stripAnnotated, h]
    rw [r.resolve_of_reference h, core_of_reference h, r.coreEntry_of_reference hcore]
    exact (settle_of_steps_eq_nil (steps_of_reference h) (some (.deferred _))).symm
  | optional t wrapped h ih =>
    rw [core_of_optional h]
    match hw : wrapped.classify with
    | none =>
      rw [r.resolve_of_optional_leaf h hw, core_of_leaf hw, stripAnnotated_wrapped h,
        r.coreEntry_of_leaf hw, funext (settle_of_optional_core h (steps_of_leaf hw))]
      cases r.entry wrapped <;> rfl
    | some ⟨.reference, target⟩ =>
      rw [r.resolve_of_optional_reference h hw, core_of_reference hw, stripAnnotated_wrapped h,
        r.coreEntry_of_reference hw]
      exact (settle_of_optional_core h (steps_of_reference hw) (some (.deferred _))).symm
    | some ⟨.optional, inner⟩ =>
      rw [r.resolve_of_optional_wrapper h hw nofun, ih,
        settle_of_optional h (by simp [steps_of_optional hw])]
    | some ⟨.list, inner⟩ =>
      rw [r.resolve_of_optional_wrapper h hw nofun, ih,
        settle_of_optional h (by simp [steps_of_list hw])]
  | list t wrapped h ih =>
    rw [core_of_list h]
    match hw : wrapped.classify with
    | none =>
      rw [r.resolve_of_list_leaf h hw, core_of_leaf hw, stripAnnotated_wrapped h,
        r.coreEntry_of_leaf hw, funext (settle_of_list_core h (steps_of_leaf hw))]
    | some ⟨.reference, target⟩ =>
      rw [r.resolve_of_list_wrapper h hw, r.resolve_of_reference hw, core_of_reference hw,
        stripAnnotated_wrapped h, r.coreEntry_of_reference hw]
      exact (settle_of_list_core h (steps_of_reference hw) (some (.deferred _))).symm
    | some ⟨.optional, inner⟩ =>
      rw [r.resolve_of_list_wrapper h hw, ih,
        funext (settle_of_list h (by simp [steps_of_optional hw]))]
      cases r.coreEntry wrapped.core <;> rfl
    | some ⟨.list, inner⟩ =>
      rw [r.resolve_of_list_wrapper h hw, ih,
        funext (settle_of_list h (by simp [steps_of_list hw]))]
      cases r.coreEntry wrapped.core <;> rfl

/-- What a hint resolves to is a tower around what the registry answers about its core. -/
theorem exists_tower_of_resolve (r : Registry) {g : SchemaType} (h : r.resolve t = .ok (some g)) :
    ∃ linked, r.coreEntry t.core = .ok (some linked) ∧
      g = .tower t.listDepth t.endsOptional linked := by
  rw [r.resolve_eq_settle] at h
  cases hentry : r.coreEntry t.core with
  | error e => rw [hentry] at h; cases h
  | ok answer =>
    rw [hentry] at h
    cases answer with
    | none => cases h
    | some linked => exact ⟨linked, rfl, (settle_eq_some_iff.mp h).2⟩

/-- The type of a core that is a leaf is the type it is linked to. -/
theorem coreType_of_leaf (r : Registry) {core : TypeHint} (h : core.classify = none) :
    r.coreType core = r.get? core := by
  simp [coreType, h]

/-- The type of a core that is a reference is deferred. -/
theorem coreType_of_reference (r : Registry) {core : TypeHint}
    (h : core.classify = some ⟨.reference, target⟩) :
    r.coreType core = some (.deferred target.referenceName) := by
  simp [coreType, h]

/-- What holds of the stored types and of deferred types holds of the type of a core. -/
theorem stored_of_coreType {p : SchemaType → Prop} {r : Registry}
    (hstored : ∀ entry ∈ r.entries, p entry.2) (hdeferred : ∀ name, p (.deferred name))
    {core : TypeHint} {g : SchemaType} (h : r.coreType core = some g) : p g := by
  rw [coreType] at h
  split at h
  · obtain rfl := Option.some.inj h
    exact hdeferred _
  · exact stored_of_get? hstored h

/-- What a registry answers about a core that is a reference, or a leaf that can be hashed, is the
type of the core. -/
theorem coreEntry_eq_coreType (r : Registry) {core : TypeHint}
    (hleaf : core.classify = none → core.unhashable? = none) :
    r.coreEntry core = .ok (r.coreType core) := by
  cases h : core.classify with
  | none => rw [r.coreEntry_of_leaf h, r.coreType_of_leaf h, r.entry_of_hashable (hleaf h)]
  | some w => simp [coreEntry, coreType, h]

/-- The core of a hint is a leaf that is not linked exactly if no type is there for it. -/
theorem unlinked_core_iff (r : Registry) (hleaf : t.core.classify = none →
    t.core.unhashable? = none) : r.Unlinked t.core ↔ r.coreType t.core = none := by
  rcases core_classify t with h | ⟨target, h⟩
  · simp [Unlinked, r.coreType_of_leaf h, r.lookup_of_hashable (hleaf h), h]
  · simp [Unlinked, r.coreType_of_reference h, h]

/-- A hint resolves to what its wrappers make of the type of its core, if its core is a reference,
or a leaf that can be hashed. -/
theorem resolve_eq_settle_coreType (r : Registry) (hleaf : t.core.classify = none →
    t.core.unhashable? = none) : r.resolve t = settle t (r.coreType t.core) := by
  rw [r.resolve_eq_settle, r.coreEntry_eq_coreType hleaf]
  rfl

/-- A hint resolves to the tower around the type of its core, if its core is a reference, or a leaf
that can be hashed and is not linked to a type that cannot stand inside a non-null layer. -/
theorem resolve_eq_tower (r : Registry) {t : TypeHint}
    (hleaf : t.core.classify = none →
      t.core.unhashable? = none ∧ ∀ g, r.get? t.core = some g → g.isNullable = true) :
    r.resolve t = .ok ((r.coreType t.core).map (.tower t.listDepth t.endsOptional)) := by
  have hnull : ∀ g, r.coreType t.core = some g → g.isNullable = true := by
    intro g hg
    rcases core_classify t with h | ⟨target, h⟩
    · rw [r.coreType_of_leaf h] at hg
      exact (hleaf h).2 g hg
    · rw [r.coreType_of_reference h] at hg
      obtain rfl := Option.some.inj hg
      rfl
  rw [r.resolve_eq_settle_coreType fun h => (hleaf h).1]
  cases hcore : r.coreType t.core with
  | none => rfl
  | some g => simp [settle, hnull g hcore]

/-- **Closed form of resolution.** On a strict registry that was reached by a run, a hint whose core
can be hashed resolves to the tower around the type of its core. It resolves to nothing exactly if
the core is a leaf without an entry, and never fails on the element of a list. -/
theorem Reached.resolve_closedForm {r : Registry} (hr : Reached true r) (d : TypeHint)
    (hhash : d.core.unhashable? = none) :
    (d.core.classify = none ∨ ∃ target, d.core.classify = some ⟨.reference, target⟩) ∧
    (∀ typeName, r.resolve d ≠ .error (.listElement typeName)) ∧
    (r.resolve d = .ok none ↔ d.core.classify = none ∧ r.lookup d.core = .ok none) ∧
    (∀ g, d.core.classify = none → r.lookup d.core = .ok (some g) →
      r.resolve d = .ok (some (.tower d.listDepth d.endsOptional g))) ∧
    ∀ target, d.core.classify = some ⟨.reference, target⟩ →
      r.resolve d =
        .ok (some (.tower d.listDepth d.endsOptional (.deferred target.referenceName))) := by
  have htower := r.resolve_eq_tower fun _ => ⟨hhash, fun g => hr.safe.isNullable_of_get?⟩
  have hlookup : r.lookup d.core = .ok (r.get? d.core) := by rw [lookup, hhash]
  rw [htower, hlookup]
  refine ⟨core_classify d, fun _ => nofun, ?_, fun g hleaf hg => ?_, fun target href => ?_⟩
  · rcases core_classify d with hleaf | ⟨target, href⟩
    · simp [r.coreType_of_leaf hleaf, hleaf]
    · simp [r.coreType_of_reference href, href]
  · rw [r.coreType_of_leaf hleaf, Except.ok.inj hg]
    rfl
  · rw [r.coreType_of_reference href]
    rfl

/-- An optional list of annotated optional integers, on a registry that refused one link of integers
and took another. -/
theorem resolve_closedForm_nested :
    let hint : TypeHint := .union .operator [.generic .builtin Class.Builtin.list
      [.annotated (.union .typing [.cls Class.Builtin.int, .noneType]) [.text "m"]], .noneType]
    let r := (new true).run [⟨.cls Class.Builtin.int, .nonNull (.named (.scalar "Int"))⟩,
      ⟨.cls Class.Builtin.int, .named (.scalar "ID")⟩]
    Reached true r ∧ hint.core.unhashable? = none ∧
      r.resolve hint = .ok (some (.list (.named (.scalar "ID")))) := by
  intro hint r
  have hreached : Reached true r := ⟨_, rfl⟩
  have hint_optional : hint.classify = some ⟨.optional, .generic .builtin Class.Builtin.list
      [.annotated (.union .typing [.cls Class.Builtin.int, .noneType]) [.text "m"]]⟩ := rfl
  have list_element : (TypeHint.generic .builtin Class.Builtin.list
      [.annotated (.union .typing [.cls Class.Builtin.int, .noneType]) [.text "m"]]).classify =
      some ⟨.list, .union .typing [.cls Class.Builtin.int, .noneType]⟩ := rfl
  have element_optional : (TypeHint.union .typing [.cls Class.Builtin.int, .noneType]).classify =
      some ⟨.optional, .cls Class.Builtin.int⟩ := rfl
  have int_leaf : (TypeHint.cls Class.Builtin.int).classify = none := rfl
  have hcore : hint.core = .cls Class.Builtin.int := by
    rw [core_of_optional hint_optional, core_of_list list_element,
      core_of_optional element_optional, core_of_leaf int_leaf]
    rfl
  have hsteps : hint.steps = [.optional, .list, .optional] := by
    rw [steps_of_optional hint_optional, steps_of_list list_element,
      steps_of_optional element_optional, steps_of_leaf int_leaf]
  have hhash : hint.core.unhashable? = none := by rw [hcore]; rfl
  have hlookup : r.lookup hint.core = .ok (some (.named (.scalar "ID"))) := by
    have hentries :
        r.entries = put (.cls Class.Builtin.int) (.named (.scalar "ID")) primitives := by
      rw [run_entries, linksMade_eq]
      rfl
    rw [hcore, lookup, get?, hentries]
    simp [unhashable?, isHashable, firstUnhashable, primitives, put, find?, identical, same]
  obtain ⟨-, -, -, hleaf, -⟩ := Reached.resolve_closedForm hreached hint hhash
  rw [hleaf _ (by rw [hcore, int_leaf]) hlookup, listDepth, endsOptional, hsteps]
  exact ⟨hreached, hhash, rfl⟩

end Registry

end SchemaLink
