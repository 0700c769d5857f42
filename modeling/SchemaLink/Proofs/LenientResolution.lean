import SchemaLink.Proofs.LinkMap
import SchemaLink.Proofs.SchemaLayers

/-!
# Resolution with lenient registries

A lenient registry may hold types that cannot stand inside a non-null layer: non-null types, and
types of no known category. What resolution makes of one depends on the wrapper directly around the
leaf: without a wrapper it comes to nothing, under an optional hint it is taken as it is, and as the
element of a list it is refused, under the name of that list. However these answers travel through
the wrappers further out, a type that is already inside a non-null layer is never put into another
one.
-/

namespace SchemaLink

namespace SchemaType

/-- No non-null layer stands directly inside another one. -/
def WellLayered : SchemaType → Prop
  | .list of => of.WellLayered
  | .nonNull of => of.isNonNull = false ∧ of.WellLayered
  | _ => True

/-- A type that may stand inside a non-null layer is none itself. -/
theorem isNonNull_of_isNullable {t : SchemaType} (h : t.isNullable = true) :
    t.isNonNull = false := by
  cases t with
  | nonNull of => cases h
  | _ => rfl

/-- A schema type may stand inside a non-null layer unless it is such a layer itself, or of no known
category. -/
theorem isNullable_eq_false_iff {t : SchemaType} (h : t.isType = true) :
    t.isNullable = false ↔ t.isNonNull = true ∨ ∃ label, t = .other label := by
  cases t with
  | foreign value => cases h
  | _ => simp [isNullable, isNonNull]

/-- List layers around a type keep it well layered. -/
theorem WellLayered.listLayers {t : SchemaType} (h : t.WellLayered) (lists : Nat) :
    (listLayers lists t).WellLayered := by
  induction lists with
  | zero => exact h
  | succ n ih => exact ih

/-- A tower is well layered around a type that is, if the type is taken as it is or may stand inside
a non-null layer. -/
theorem WellLayered.tower {t : SchemaType} (h : t.WellLayered) (lists : Nat) {optional : Bool}
    (hkept : t.isNullable = true ∨ optional = true) : (tower lists optional t).WellLayered := by
  cases optional with
  | true => exact h.listLayers lists
  | false =>
    have hnullable : t.isNullable = true := hkept.resolve_right nofun
    have hnonNull : (nonNull t).WellLayered := ⟨isNonNull_of_isNullable hnullable, h⟩
    exact hnonNull.listLayers lists

end SchemaType

namespace TypeHint

/-- The last step before the core is optional or a list, if there is one. -/
theorem getLast?_steps_cases (t : TypeHint) : t.steps = [] ∨
    t.steps.getLast? = some .optional ∨ t.steps.getLast? = some .list := by
  induction t using spine_induction with
  | leaf t h => exact .inl (steps_of_leaf h)
  | reference t target h => exact .inl (steps_of_reference h)
  | optional t wrapped h ih =>
    rw [steps_of_optional h]
    rcases ih with ih | ih | ih <;> simp [ih, List.getLast?_cons]
  | list t wrapped h ih =>
    rw [steps_of_list h]
    rcases ih with ih | ih | ih <;> simp [ih, List.getLast?_cons]

/-- A leaf is what has no steps and a leaf for its core. -/
theorem classify_eq_none_iff {t : TypeHint} :
    t.classify = Option.none ↔ t.steps = [] ∧ t.core.classify = Option.none := by
  induction t using spine_induction with
  | leaf t h => simp [h, steps_of_leaf h, core_of_leaf h]
  | reference t target h => simp [h, core_of_reference h]
  | optional t wrapped h => simp [h, steps_of_optional h]
  | list t wrapped h => simp [h, steps_of_list h]

/-- A hint without annotations and steps is its own core. -/
theorem core_of_steps_eq_nil {t : TypeHint} (h : t.steps = []) : t.core = t.stripAnnotated := by
  induction t using spine_induction with
  | leaf t hclassify => exact core_of_leaf hclassify
  | reference t target hclassify => exact core_of_reference hclassify
  | optional t wrapped hclassify => rw [steps_of_optional hclassify] at h; cases h
  | list t wrapped hclassify => rw [steps_of_list hclassify] at h; cases h

/-- The innermost wrapper takes the last step, and the core stands directly inside it. -/
theorem classify_innermostWrapper {t : TypeHint} {modifier : Modifier}
    (h : t.steps.getLast? = some modifier) :
    t.innermostWrapper.classify = some ⟨modifier, t.core⟩ := by
  -- The step of `t` itself is the last one if the hint inside has none.
  have hstep {t wrapped : TypeHint} {m : Modifier} (hclassify : t.classify = some ⟨m, wrapped⟩)
      (hm : m ≠ .reference) (hsteps : t.steps = m :: wrapped.steps)
      (hcore : t.core = wrapped.core)
      (ih : wrapped.steps.getLast? = some modifier →
        wrapped.innermostWrapper.classify = some ⟨modifier, wrapped.core⟩)
      (h : t.steps.getLast? = some modifier) :
      t.innermostWrapper.classify = some ⟨modifier, t.core⟩ := by
    rw [innermostWrapper_of_step hclassify hm, hcore]
    rw [hsteps] at h
    split
    case isTrue hnil =>
      rw [hnil] at h
      obtain rfl : m = modifier := Option.some.inj h
      rw [hclassify, core_of_steps_eq_nil hnil, stripAnnotated_wrapped hclassify]
    case isFalse hother =>
      obtain ⟨first, rest, hrest⟩ := List.exists_cons_of_ne_nil hother
      rw [hrest, List.getLast?_cons_cons, ← hrest] at h
      exact ih h
  induction t using spine_induction with
  | leaf t hclassify => rw [steps_of_leaf hclassify] at h; cases h
  | reference t target hclassify => rw [steps_of_reference hclassify] at h; cases h
  | optional t wrapped hclassify ih =>
    exact hstep hclassify nofun (steps_of_optional hclassify) (core_of_optional hclassify) ih h
  | list t wrapped hclassify ih =>
    exact hstep hclassify nofun (steps_of_list hclassify) (core_of_list hclassify) ih h

end TypeHint

open TypeHint hiding none

namespace Registry

section Settle

variable {t : TypeHint} {g u : SchemaType}

/-- Directly inside an optional hint, a type is taken as it is. -/
theorem settle_of_last_optional (h : t.steps.getLast? = some .optional) :
    settle t (some g) = .ok (some (.tower t.listDepth true g)) := by
  simp [settle, endsOptional, h]

/-- As the element of a list, a type is made required or refused. -/
theorem settle_of_last_list (h : t.steps.getLast? = some .list) :
    settle t (some g) =
      if g.isNullable then .ok (some (.tower t.listDepth false g))
      else .error (.listElement t.innermostWrapper.displayName) := by
  have hsteps : t.steps ≠ [] := List.ne_nil_of_mem (List.mem_of_getLast? h)
  simp [settle, endsOptional, h, hsteps]

/-- A type is refused exactly if it may not stand inside a non-null layer and the last step before
the core is a list, which the refusal names. -/
theorem settle_listElement_iff {name : String} :
    settle t (some g) = .error (.listElement name) ↔
      g.isNullable = false ∧ t.steps.getLast? = some .list ∧
        name = t.innermostWrapper.displayName := by
  rcases t.getLast?_steps_cases with h | h | h
  · simp [settle_of_steps_eq_nil h, h]
  · simp [settle_of_last_optional h, h]
  · rw [settle_of_last_list h]
    cases hg : g.isNullable <;> simp [h, eq_comm]

/-- A type comes to nothing exactly if it may not stand inside a non-null layer and no wrapper
stands around the core. -/
theorem settle_none_iff :
    settle t (some g) = .ok none ↔ g.isNullable = false ∧ t.steps = [] := by
  rcases t.getLast?_steps_cases with h | h | h
  · cases hg : g.isNullable <;> simp [settle_of_steps_eq_nil h, required, h, hg]
  · have hsteps : t.steps ≠ [] := List.ne_nil_of_mem (List.mem_of_getLast? h)
    simp [settle_of_last_optional h, hsteps]
  · have hsteps : t.steps ≠ [] := List.ne_nil_of_mem (List.mem_of_getLast? h)
    rw [settle_of_last_list h]
    cases hg : g.isNullable <;> simp [hsteps]

/-- What wrappers make of a well-layered type is well layered. -/
theorem wellLayered_of_settle (hg : g.WellLayered) (h : settle t (some g) = .ok (some u)) :
    u.WellLayered := by
  obtain ⟨hkept, rfl⟩ := settle_eq_some_iff.mp h
  exact hg.tower t.listDepth (by simpa using hkept)

end Settle

/-- The core is a leaf that is linked to a type that cannot stand inside a non-null layer: to a
non-null type, or to a type of no known category. -/
def LinkedNotNullable (r : Registry) (core : TypeHint) : Prop :=
  core.classify = none ∧
    ∃ g, r.lookup core = .ok (some g) ∧ (g.isNonNull = true ∨ ∃ label, g = .other label)

/-- A run that links well-layered types stores well-layered types. -/
theorem wellLayered_of_mem_run (strict : Bool) {calls : List LinkCall}
    (hcalls : ∀ call ∈ calls, call.target.WellLayered) :
    ∀ entry ∈ ((new strict).run calls).entries, entry.2.WellLayered :=
  forall_stored_run (forall_stored_new (fun _ => trivial) strict) fun call hcall _ =>
    hcalls call hcall

section CoreType

variable {r : Registry} {d : TypeHint}

/-- In a registry of schema types, the core of a hint is linked to a type that cannot stand inside a
non-null layer exactly if that is so of the type of the core. -/
theorem linkedNotNullable_core_iff (hstored : ∀ entry ∈ r.entries, entry.2.isType = true)
    (hleaf : d.core.classify = none → d.core.unhashable? = none) :
    r.LinkedNotNullable d.core ↔ ∃ g, r.coreType d.core = some g ∧ g.isNullable = false := by
  rcases core_classify d with h | ⟨target, h⟩
  · rw [LinkedNotNullable, r.coreType_of_leaf h, r.lookup_of_hashable (hleaf h), and_iff_right h]
    refine exists_congr fun g => ?_
    rw [Except.ok.injEq]
    refine and_congr_right fun hget => ?_
    have htype : g.isType = true := stored_of_get? (p := (·.isType = true)) hstored hget
    rw [SchemaType.isNullable_eq_false_iff htype]
  · simp [LinkedNotNullable, r.coreType_of_reference h, h, SchemaType.isNullable]

/-- A hint is a leaf that is linked to a type that cannot stand inside a non-null layer if its core
is and no step leads there. -/
theorem leaf_linkedNotNullable_iff (r : Registry) (d : TypeHint) :
    d.classify = none ∧ r.LinkedNotNullable d.core ↔ d.steps = [] ∧ r.LinkedNotNullable d.core := by
  rw [classify_eq_none_iff, and_assoc]
  exact and_congr_right fun _ => and_iff_right_of_imp And.left

end CoreType

/-- **Lenient registries resolve safely.** On a lenient registry that was reached by linking
well-layered types, a hint whose core can be hashed is refused exactly if its core is linked to a
non-null type, or a type of no known category, and stands directly inside a list, and the refusal
names that list. There is no other failure. The hint resolves to nothing exactly if its core is a
leaf without a link, or it is itself a leaf that is linked to such a type. What it resolves to
otherwise has no non-null layer directly inside another one. -/
theorem resolve_lenient_safe {calls : List LinkCall}
    (hcalls : ∀ call ∈ calls, call.target.WellLayered) {d : TypeHint}
    (hhash : d.core.unhashable? = none) :
    let r := (new false).run calls
    (∀ typeName, r.resolve d = .error (.listElement typeName) ↔
      r.LinkedNotNullable d.core ∧ d.steps.getLast? = some .list ∧
        typeName = d.innermostWrapper.displayName) ∧
    (∀ container, r.resolve d ≠ .error (.unhashable container)) ∧
    (d.steps.getLast? = some .list → d.innermostWrapper.classify = some ⟨.list, d.core⟩) ∧
    (r.resolve d = .ok none ↔
      r.Unlinked d.core ∨ d.classify = none ∧ r.LinkedNotNullable d.core) ∧
    ∀ g, r.resolve d = .ok (some g) → g.WellLayered := by
  intro r
  have hstored : ∀ entry ∈ r.entries, entry.2.isType = true := Reached.isType ⟨calls, rfl⟩
  rw [r.leaf_linkedNotNullable_iff, r.resolve_eq_settle_coreType fun _ => hhash,
    r.unlinked_core_iff fun _ => hhash, linkedNotNullable_core_iff hstored fun _ => hhash]
  refine ⟨fun typeName => ?_, settle_ne_unhashable _, classify_innermostWrapper, ?_,
    fun u hu => ?_⟩
  · cases r.coreType d.core with
    | none => simp [settle]
    | some g => simp [settle_listElement_iff]
  · cases r.coreType d.core with
    | none => simp [settle]
    | some g => simp [settle_none_iff, and_comm]
  · cases hlinked : r.coreType d.core with
    | none => rw [hlinked] at hu; cases hu
    | some g =>
      rw [hlinked] at hu
      have hg : g.WellLayered :=
        stored_of_coreType (wellLayered_of_mem_run false hcalls) (fun _ => trivial) hlinked
      exact wellLayered_of_settle hg hu

/-- The inner one of two lists of a date that is linked to a non-null type is refused, and named as
it is written. -/
theorem resolve_lenient_safe_date :
    let calls : List LinkCall := [⟨.cls Class.Builtin.date, .nonNull (.named (.scalar "Date"))⟩]
    let inner : TypeHint := .generic .builtin Class.Builtin.list [.cls Class.Builtin.date]
    let hint : TypeHint := .generic .typing Class.Builtin.sequence
      [.annotated (.union .operator [inner, .noneType]) [.text "m"]]
    (∀ call ∈ calls, call.target.WellLayered) ∧ hint.core.unhashable? = none ∧
      ((new false).run calls).resolve hint = .error (.listElement "list[date]") := by
  intro calls inner hint
  have hcalls : ∀ call ∈ calls, call.target.WellLayered := by
    intro call hcall
    obtain rfl := List.mem_singleton.mp hcall
    exact ⟨rfl, trivial⟩
  have hint_list : hint.classify = some ⟨.list, .union .operator [inner, .noneType]⟩ := rfl
  have list_optional : (TypeHint.union .operator [inner, .noneType]).classify =
      some ⟨.optional, inner⟩ := rfl
  have inner_list : inner.classify = some ⟨.list, .cls Class.Builtin.date⟩ := rfl
  have date_leaf : (TypeHint.cls Class.Builtin.date).classify = none := rfl
  have hcore : hint.core = .cls Class.Builtin.date := by
    rw [core_of_list hint_list, core_of_optional list_optional, core_of_list inner_list,
      core_of_leaf date_leaf]
    rfl
  have hsteps : hint.steps = [.list, .optional, .list] := by
    rw [steps_of_list hint_list, steps_of_optional list_optional, steps_of_list inner_list,
      steps_of_leaf date_leaf]
  have hinner : hint.innermostWrapper = inner := by
    rw [innermostWrapper_of_step hint_list nofun, innermostWrapper_of_step list_optional nofun,
      innermostWrapper_of_step inner_list nofun]
    simp [steps_of_optional list_optional, steps_of_list inner_list, steps_of_leaf date_leaf]
  have hname : inner.displayName = "list[date]" := rfl
  have hhash : hint.core.unhashable? = none := by
    rw [hcore]
    rfl
  have hlinked : ((new false).run calls).LinkedNotNullable hint.core := by
    refine ⟨by rw [hcore, date_leaf], .nonNull (.named (.scalar "Date")), ?_, .inl rfl⟩
    rw [hcore]
    exact (new false).lookup_key_after
      ⟨.cls Class.Builtin.date, .nonNull (.named (.scalar "Date"))⟩ rfl
  refine ⟨hcalls, hhash, ((resolve_lenient_safe hcalls hhash).1 _).mpr ⟨hlinked, ?_, ?_⟩⟩
  · rw [hsteps]
    rfl
  · rw [hinner, hname]

/-- A date that is linked to a type of no known category is refused as the element of a list and
comes to nothing on its own, although no non-null type is linked. -/
theorem unknown_category_refused_in_list :
    let date : TypeHint := .cls Class.Builtin.date
    let dates : TypeHint := .generic .builtin Class.Builtin.list [date]
    let r := (new false).run [⟨date, .other "X"⟩]
    (SchemaType.other "X").WellLayered ∧ (SchemaType.other "X").isNonNull = false ∧
      r.lookup date = .ok (some (.other "X")) ∧
      dates.core = date ∧ date.classify = none ∧ date.unhashable? = none ∧
      r.resolve dates = .error (.listElement "list[date]") ∧ r.resolve date = .ok none := by
  intro date dates r
  have date_leaf : date.classify = none := rfl
  have dates_list : dates.classify = some ⟨.list, date⟩ := rfl
  have hlookup : r.lookup date = .ok (some (.other "X")) :=
    (new false).lookup_key_after ⟨date, .other "X"⟩ rfl
  have hget : r.get? date = some (.other "X") := by
    rw [r.lookup_of_hashable rfl] at hlookup
    exact Except.ok.inj hlookup
  have hcore : dates.core = date := by
    rw [core_of_list dates_list, core_of_leaf date_leaf]
    rfl
  have hdate : r.coreType date = some (.other "X") := by rw [r.coreType_of_leaf date_leaf, hget]
  have hsteps : dates.steps = [.list] := by rw [steps_of_list dates_list, steps_of_leaf date_leaf]
  have hinner : dates.innermostWrapper = dates := by
    rw [innermostWrapper_of_step dates_list nofun, if_pos (steps_of_leaf date_leaf)]
  refine ⟨trivial, rfl, hlookup, hcore, date_leaf, rfl, ?_, ?_⟩
  · rw [r.resolve_eq_settle_coreType fun _ => by rw [hcore]; rfl, hcore, hdate,
      settle_listElement_iff, hsteps, hinner]
    exact ⟨rfl, rfl, rfl⟩
  · have hself : date.core = date := core_of_leaf date_leaf
    rw [r.resolve_eq_settle_coreType fun _ => by rw [hself]; rfl, hself, hdate, settle_none_iff]
    exact ⟨rfl, steps_of_leaf date_leaf⟩

end Registry

end SchemaLink
