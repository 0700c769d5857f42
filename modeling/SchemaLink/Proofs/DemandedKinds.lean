import SchemaLink.Proofs.FieldTypes
import SchemaLink.Proofs.LenientResolution

/-!
# Object types and interfaces

A demand for an object type, and one for an interface, takes what stands inside the non-null layer
of a resolved type, if that is of the demanded kind. Only a leaf can meet such a demand: a deferred
reference is of no kind yet, and on a strict registry an optional hint or a list never resolves to a
non-null type, however the wrappers are nested. An interface is demanded of protocols only, which
are leaves, and a leaf resolves to a non-null type or to nothing at all.
-/

namespace SchemaLink

/-- Steps without a list lead to the core through an optional hint. -/
theorem TypeHint.endsOptional_of_listDepth_eq_zero {t : TypeHint} (hsteps : t.steps ≠ [])
    (hlists : t.listDepth = 0) : t.endsOptional = true := by
  rcases t.getLast?_steps_cases with h | h | h
  · exact absurd h hsteps
  · simp [endsOptional, h]
  · have hpassed : .list ∈ t.steps := List.mem_of_getLast? h
    exact absurd hlists (List.count_pos_iff.mpr hpassed).ne'

/-- A hint without steps is a leaf or a reference. -/
theorem TypeHint.classify_of_steps_eq_nil {t : TypeHint} (h : t.steps = []) :
    t.classify = Option.none ∨ t.IsReference := by
  match hw : t.classify with
  | Option.none => exact .inl rfl
  | some ⟨.reference, target⟩ => exact .inr ⟨target, hw⟩
  | some ⟨.optional, wrapped⟩ => rw [steps_of_optional hw] at h; cases h
  | some ⟨.list, wrapped⟩ => rw [steps_of_list hw] at h; cases h

/-- A type of a certain kind may stand inside a non-null layer. -/
theorem SchemaType.isNullable_of_hasKind {kind : NamedKind} {g : SchemaType}
    (h : g.hasKind kind = true) : g.isNullable = true := by
  cases g with
  | named t => rfl
  | _ => cases h

open TypeHint hiding none

namespace Registry

/-- In a safe registry, a hint that takes a step resolves to no non-null type. -/
theorem Safe.isNonNull_of_resolve {r : Registry} (hr : r.Safe) {t : TypeHint}
    (hsteps : t.steps ≠ []) {g : SchemaType} (h : r.resolve t = .ok (some g)) :
    g.isNonNull = false := by
  obtain ⟨linked, hentry, rfl⟩ := r.exists_tower_of_resolve h
  have hlinked : linked.isNullable = true :=
    stored_of_coreEntry (p := (·.isNullable = true)) hr (fun _ => rfl) hentry
  cases hlists : t.listDepth with
  | succ n => rfl
  | zero =>
    rw [endsOptional_of_listDepth_eq_zero hsteps hlists]
    exact SchemaType.isNonNull_of_isNullable hlinked

/-- A leaf that can be hashed resolves to the type it is linked to, made required. -/
theorem resolve_of_hashable_leaf (r : Registry) {t : TypeHint} (h : t.classify = none)
    (hhash : t.stripAnnotated.unhashable? = none) :
    r.resolve t = .ok (required (r.get? t.stripAnnotated)) := by
  rw [r.resolve_of_leaf h, r.entry_of_hashable hhash]
  rfl

end Registry

namespace Demand

section Layered

variable (demand : Demand) (kind : NamedKind) (otherwise : Refusal) (typeName : String)

/-- The type inside a non-null layer is taken if it is of the demanded kind. -/
theorem layered_nonNull (g : SchemaType) :
    demand.layered kind otherwise typeName (.nonNull g) =
      if g.hasKind kind then .ok g else demand.refused otherwise typeName := by
  rw [layered, requires]
  split <;> rfl

/-- A type that is no non-null layer is refused as nullable. -/
theorem layered_of_isNonNull_eq_false {g : SchemaType} (h : g.isNonNull = false) :
    demand.layered kind otherwise typeName g = demand.refused .nullable typeName := by
  cases g with
  | nonNull of => cases h
  | _ => rfl

/-- What the type that a leaf is linked to decides about a demand for types of a kind. -/
def leafVerdict : Option SchemaType → Except AccessError SchemaType
  | none => demand.refused .unmapped typeName
  | some g =>
    if g.isNullable then
      if g.hasKind kind then .ok g else demand.refused otherwise typeName
    else demand.refused .unmapped typeName

/-- A leaf that is made required comes to the verdict about its type. -/
theorem found_required (linked : Option SchemaType) :
    (demand.found typeName (.ok (Registry.required linked))).bind
        (demand.layered kind otherwise typeName) =
      demand.leafVerdict kind otherwise typeName linked := by
  cases linked with
  | none => rfl
  | some g =>
    cases hg : g.isNullable with
    | false => simp [Registry.required, leafVerdict, hg, found, refused, Except.bind]
    | true =>
      rw [Registry.required, if_pos hg, leafVerdict, if_pos hg]
      exact demand.layered_nonNull kind otherwise typeName g

/-- The verdict is a type, that there is none, or that it is of another kind. -/
theorem leafVerdict_cases (linked : Option SchemaType) :
    (∃ g, demand.leafVerdict kind otherwise typeName linked = .ok g) ∨
      demand.leafVerdict kind otherwise typeName linked = demand.refused .unmapped typeName ∨
      demand.leafVerdict kind otherwise typeName linked = demand.refused otherwise typeName := by
  cases linked with
  | none => exact .inr (.inl rfl)
  | some g =>
    cases hg : g.isNullable <;> cases hkind : g.hasKind kind <;> simp [leafVerdict, hg, hkind]

variable {demand kind otherwise typeName}
variable {linked : Option SchemaType} {g : SchemaType}

/-- The verdict grants the type of the leaf if it is of the demanded kind. -/
theorem leafVerdict_eq_ok_iff : demand.leafVerdict kind otherwise typeName linked = .ok g ↔
    linked = some g ∧ g.hasKind kind = true := by
  cases linked with
  | none => simp [leafVerdict, refused]
  | some linked =>
    rw [leafVerdict, Option.some.injEq]
    constructor
    · intro h
      split at h
      · split at h
        · next hkind =>
          obtain rfl := Except.ok.inj h
          exact ⟨rfl, hkind⟩
        · cases h
      · cases h
    · rintro ⟨rfl, hkind⟩
      rw [if_pos (SchemaType.isNullable_of_hasKind hkind), if_pos hkind]

/-- The verdict is that no type is there if the leaf is not linked, or is linked to a type that
cannot stand inside a non-null layer. -/
theorem leafVerdict_unmapped_iff (hother : otherwise ≠ .unmapped) :
    demand.leafVerdict kind otherwise typeName linked = demand.refused .unmapped typeName ↔
      linked = none ∨ ∃ g, linked = some g ∧ g.isNullable = false := by
  cases linked with
  | none => simp [leafVerdict]
  | some g =>
    cases hg : g.isNullable <;> cases hkind : g.hasKind kind <;>
      simp [leafVerdict, refused, hg, hkind, hother]

/-- The verdict is that the type is of another kind if the leaf is linked to such a type, which may
stand inside a non-null layer. -/
theorem leafVerdict_otherwise_iff (hother : otherwise ≠ .unmapped) :
    demand.leafVerdict kind otherwise typeName linked = demand.refused otherwise typeName ↔
      ∃ g, linked = some g ∧ g.isNullable = true ∧ g.hasKind kind = false := by
  cases linked with
  | none => simp [leafVerdict, refused, hother.symm]
  | some g =>
    cases hg : g.isNullable <;> cases hkind : g.hasKind kind <;>
      simp [leafVerdict, refused, hg, hkind, hother.symm]

end Layered

end Demand

namespace Registry

variable {r : Registry} {d : TypeHint}

/-- How a hint decides what a demand for an object type comes to. -/
structure ObjectDecided (r : Registry) (d : TypeHint)
    (outcome : Except AccessError SchemaType) : Prop where
  returns_iff : ∀ o, outcome = .ok o ↔
    d.classify = none ∧ r.lookup d.stripAnnotated = .ok (some o) ∧ o.hasKind .object = true
  unmapped_iff : outcome = Demand.object.refused .unmapped d.displayName ↔ r.resolve d = .ok none
  nullable_iff : outcome = Demand.object.refused .nullable d.displayName ↔
    (∃ w, d.classify = some w ∧ w.modifier ≠ .reference) ∧ ∃ g, r.resolve d = .ok (some g)
  notObject_iff : outcome = Demand.object.refused .notObject d.displayName ↔
    d.IsReference ∨ d.classify = none ∧
      ∃ g, r.lookup d.stripAnnotated = .ok (some g) ∧ g.hasKind .object = false
  /-- There is no other outcome. -/
  decided : (∃ o, outcome = .ok o) ∨
    ∃ refusal ∈ [Refusal.unmapped, .nullable, .notObject],
      outcome = Demand.object.refused refusal d.displayName

/-- A leaf is decided by the type it is linked to. -/
theorem Safe.objectDecided_of_leaf (hr : r.Safe) (h : d.classify = none)
    (hhash : d.stripAnnotated.unhashable? = none) :
    ObjectDecided r d (Demand.object.outcome r d) := by
  have hresolve := r.resolve_of_hashable_leaf h hhash
  have hverdict : Demand.object.outcome r d =
      Demand.object.leafVerdict .object .notObject d.displayName (r.get? d.stripAnnotated) := by
    rw [Demand.outcome, hresolve]
    exact Demand.object.found_required .object .notObject d.displayName _
  have hcases := Demand.object.leafVerdict_cases .object .notObject d.displayName
    (r.get? d.stripAnnotated)
  have hnullable (g : SchemaType) (hg : r.get? d.stripAnnotated = some g) :
      g.isNullable = true := hr.isNullable_of_get? hg
  rw [hverdict]
  refine ⟨fun o => ?_, ?_, ?_, ?_, ?_⟩
  · rw [Demand.leafVerdict_eq_ok_iff, r.lookup_of_hashable hhash, Except.ok.injEq,
      and_iff_right h]
  · rw [Demand.leafVerdict_unmapped_iff (by decide), hresolve]
    cases hg : r.get? d.stripAnnotated with
    | none => simp [required]
    | some g => simp [required, hnullable g hg]
  · rcases hcases with ⟨g, hg⟩ | hg | hg <;> simp [hg, h, Demand.refused]
  · rw [Demand.leafVerdict_otherwise_iff (by decide), r.lookup_of_hashable hhash]
    have href : ¬ d.IsReference := by simp [IsReference, h]
    rw [or_iff_right href, and_iff_right h]
    refine exists_congr fun g => ?_
    rw [Except.ok.injEq]
    exact and_congr_right fun hg => and_iff_right (hnullable g hg)
  · rcases hcases with ⟨g, hg⟩ | hg | hg <;> simp [hg]

/-- A reference is refused, since a deferred type is no object type. -/
theorem objectDecided_of_reference (h : d.IsReference) :
    ObjectDecided r d (Demand.object.outcome r d) := by
  obtain ⟨target, href⟩ := h
  have hresolve := r.resolve_of_reference href
  have houtcome : Demand.object.outcome r d =
      Demand.object.refused .notObject d.displayName := by
    rw [Demand.outcome, hresolve]
    rfl
  rw [houtcome]
  refine ⟨fun o => ?_, ?_, ?_, ?_, ?_⟩
  · simp [Demand.refused, href]
  · simp [Demand.refused, hresolve]
  · simp [Demand.refused, href]
  · simp [IsReference, href]
  · simp

/-- An optional hint or a list is refused: as nullable if it resolves, and else as not mapped. -/
theorem Safe.objectDecided_of_step (hr : r.Safe) (hhash : d.core.unhashable? = none) {w : Wrapper}
    (h : d.classify = some w) (hm : w.modifier ≠ .reference) :
    ObjectDecided r d (Demand.object.outcome r d) := by
  have href : ¬ d.IsReference := by
    rintro ⟨target, href⟩
    exact hm (by rw [Option.some.inj (h.symm.trans href)])
  have hsteps : d.steps ≠ [] := fun hnil => by
    rcases classify_of_steps_eq_nil hnil with hleaf | hother
    · cases h.symm.trans hleaf
    · exact href hother
  have hresolve := r.resolve_eq_tower (t := d) fun _ => ⟨hhash, fun g => hr.isNullable_of_get?⟩
  cases hcore : r.coreType d.core with
  | none =>
    rw [hcore, Option.map_none] at hresolve
    have houtcome : Demand.object.outcome r d =
        Demand.object.refused .unmapped d.displayName := by
      rw [Demand.outcome, hresolve]
      rfl
    rw [houtcome]
    refine ⟨fun o => ?_, ?_, ?_, ?_, ?_⟩ <;> simp [Demand.refused, h, hresolve, href]
  | some g =>
    rw [hcore, Option.map_some] at hresolve
    have houtcome : Demand.object.outcome r d =
        Demand.object.refused .nullable d.displayName := by
      rw [Demand.outcome, hresolve]
      exact Demand.object.layered_of_isNonNull_eq_false .object .notObject d.displayName
        (hr.isNonNull_of_resolve hsteps hresolve)
    rw [houtcome]
    refine ⟨fun o => ?_, ?_, ?_, ?_, ?_⟩ <;> simp [Demand.refused, h, hm, hresolve, href]

/-- How a hint decides what a demand for an interface comes to. -/
structure InterfaceDecided (r : Registry) (d : TypeHint)
    (outcome : Except AccessError SchemaType) : Prop where
  returns_iff : ∀ i, outcome = .ok i ↔ ∃ c, d.stripAnnotated = .cls c ∧ c.isProtocol = true ∧
    r.lookup (.cls c) = .ok (some i) ∧ i.hasKind .interface = true
  not_nullable : ∀ demand typeName,
    outcome ≠ .error (.mapping (.refused demand .nullable typeName))
  not_listElement : ∀ typeName, outcome ≠ .error (.mapping (.listElement typeName))
  /-- The registry does not matter for a hint that is no protocol. -/
  notProtocol_iff : outcome = Demand.interface.refused .notProtocol d.displayName ↔
    d.isProtocol = false
  unmapped_iff : outcome = Demand.interface.refused .unmapped d.displayName ↔
    d.isProtocol = true ∧ (r.lookup d.stripAnnotated = .ok none ∨
      ∃ g, r.lookup d.stripAnnotated = .ok (some g) ∧ g.isNullable = false)
  notInterface_iff : outcome = Demand.interface.refused .notInterface d.displayName ↔
    d.isProtocol = true ∧ ∃ g, r.lookup d.stripAnnotated = .ok (some g) ∧
      g.isNullable = true ∧ g.hasKind .interface = false
  /-- There is no other outcome. -/
  decided : (∃ i, outcome = .ok i) ∨
    ∃ refusal ∈ [Refusal.notProtocol, .unmapped, .notInterface],
      outcome = Demand.interface.refused refusal d.displayName

/-- A protocol is a class under annotations. -/
theorem exists_cls_of_isProtocol (h : d.isProtocol = true) :
    ∃ c, d.stripAnnotated = .cls c ∧ c.isProtocol = true := by
  rw [isProtocol] at h
  split at h
  case h_1 c hc => exact ⟨c, hc, h⟩
  case h_2 => cases h

/-- A class is a leaf under annotations. -/
theorem classify_of_stripAnnotated_eq_cls {c : Class} (h : d.stripAnnotated = .cls c) :
    d.classify = none := by
  rw [classify, h]
  rfl

/-- A protocol is decided by the type it is linked to. -/
theorem interfaceDecided_of_isProtocol (r : Registry) (h : d.isProtocol = true) :
    InterfaceDecided r d (Demand.interface.outcome r d) := by
  obtain ⟨c, hc, hprotocol⟩ := exists_cls_of_isProtocol h
  have hhash := unhashable?_of_isProtocol h
  have hverdict : Demand.interface.outcome r d = Demand.interface.leafVerdict .interface
      .notInterface d.displayName (r.get? d.stripAnnotated) := by
    rw [Demand.outcome, Demand.admission, h,
      r.resolve_of_hashable_leaf (classify_of_stripAnnotated_eq_cls hc) hhash]
    exact Demand.interface.found_required .interface .notInterface d.displayName _
  have hcases := Demand.interface.leafVerdict_cases .interface .notInterface d.displayName
    (r.get? d.stripAnnotated)
  have hlookup := r.lookup_of_hashable hhash
  rw [hverdict]
  refine ⟨fun i => ?_, fun demand typeName => ?_, fun typeName => ?_, ?_, ?_, ?_, ?_⟩
  · rw [Demand.leafVerdict_eq_ok_iff, ← Except.ok.injEq, ← hlookup, hc]
    simp [hprotocol]
  · rcases hcases with ⟨g, hg⟩ | hg | hg <;> simp [hg, Demand.refused]
  · rcases hcases with ⟨g, hg⟩ | hg | hg <;> simp [hg, Demand.refused]
  · rcases hcases with ⟨g, hg⟩ | hg | hg <;> simp [hg, Demand.refused, h]
  · rw [Demand.leafVerdict_unmapped_iff (by decide), hlookup, and_iff_right h]
    simp
  · rw [Demand.leafVerdict_otherwise_iff (by decide), hlookup, and_iff_right h]
    simp
  · rcases hcases with ⟨g, hg⟩ | hg | hg <;> simp [hg]

/-- A hint that is no protocol is refused as that. -/
theorem interfaceDecided_of_not_isProtocol (r : Registry) (h : d.isProtocol = false) :
    InterfaceDecided r d (Demand.interface.outcome r d) := by
  have houtcome : Demand.interface.outcome r d =
      Demand.interface.refused .notProtocol d.displayName := by
    rw [Demand.outcome, Demand.admission, h]
    rfl
  have hclass (c : Class) (hc : d.stripAnnotated = .cls c) : c.isProtocol = false := by
    rwa [isProtocol, hc] at h
  rw [houtcome]
  refine ⟨fun i => ?_, fun demand typeName => ?_, fun typeName => ?_, ?_, ?_, ?_, ?_⟩
  · refine iff_of_false (by simp [Demand.refused]) ?_
    rintro ⟨c, hc, hprotocol, -⟩
    cases (hclass c hc).symm.trans hprotocol
  all_goals simp [Demand.refused, h]

/-- What a demand for an interface comes to is decided with the links of any registry. -/
theorem interfaceDecided (r : Registry) (d : TypeHint) :
    InterfaceDecided r d (Demand.interface.outcome r d) := by
  cases h : d.isProtocol with
  | true => exact interfaceDecided_of_isProtocol r h
  | false => exact interfaceDecided_of_not_isProtocol r h

end Registry

namespace Session

/-- **A demand for an object type is met for linked leaves only.** On a strict registry that was
reached by a run, a hint whose core can be hashed gives an object type exactly if it is a leaf that
is linked to it. Otherwise the hint is not mapped if it resolves to nothing, is nullable if it is an
optional hint or a list that resolves, and is no object if it is a reference, or a leaf that is
linked to a type of another kind. -/
theorem object_type_decided {s : Session} (hs : Registry.Reached true s.registry) {d : TypeHint}
    (hhash : d.core.unhashable? = none) :
    Registry.ObjectDecided s.registry d (objectType d s).1 := by
  rw [objectType, access_eq_outcome]
  match hw : d.classify with
  | none =>
    rw [core_of_leaf hw] at hhash
    exact hs.safe.objectDecided_of_leaf hw hhash
  | some ⟨.reference, target⟩ => exact Registry.objectDecided_of_reference ⟨target, hw⟩
  | some ⟨.optional, wrapped⟩ => exact hs.safe.objectDecided_of_step hhash hw nofun
  | some ⟨.list, wrapped⟩ => exact hs.safe.objectDecided_of_step hhash hw nofun

/-- A date that is linked to an object type gives that type, under an annotation as well, while a
list of such dates is nullable. -/
theorem object_type_decided_date :
    let date : TypeHint := .annotated (.cls Class.Builtin.date) [.text "m"]
    let dates : TypeHint := .generic .builtin Class.Builtin.list [date]
    let day : SchemaType := .named ⟨"Day", "Day", .object⟩
    let s : Session := { Session.new true 0 with
      registry := (Registry.new true).run [⟨.cls Class.Builtin.date, day⟩] }
    Registry.Reached true s.registry ∧ date.core.unhashable? = none ∧
      dates.core.unhashable? = none ∧ (objectType date s).1 = .ok day ∧
      (objectType dates s).1 = Demand.object.refused .nullable dates.displayName := by
  intro date dates day s
  have hreached : Registry.Reached true s.registry := ⟨_, rfl⟩
  have date_leaf : date.classify = none := rfl
  have dates_list : dates.classify = some ⟨.list, .cls Class.Builtin.date⟩ := rfl
  have element_leaf : (TypeHint.cls Class.Builtin.date).classify = none := rfl
  have hdate : date.core.unhashable? = none := by
    rw [core_of_leaf date_leaf]
    rfl
  have hdates : dates.core.unhashable? = none := by
    rw [core_of_list dates_list, core_of_leaf element_leaf]
    rfl
  have hlookup : s.registry.lookup (.cls Class.Builtin.date) = .ok (some day) :=
    (Registry.new true).lookup_key_after ⟨.cls Class.Builtin.date, day⟩ rfl
  have hresolve : s.registry.resolve dates = .ok (some (.list (.nonNull day))) := by
    rw [s.registry.resolve_of_list_leaf dates_list element_leaf, Registry.entry, hlookup]
    rfl
  refine ⟨hreached, hdate, hdates, ?_, ?_⟩
  · exact ((object_type_decided hreached hdate).returns_iff day).mpr ⟨date_leaf, hlookup, rfl⟩
  · exact (object_type_decided hreached hdates).nullable_iff.mpr
      ⟨⟨_, dates_list, by decide⟩, _, hresolve⟩

/-- **A demand for an interface is met for linked protocols only.** With the links of any registry,
a hint gives an interface exactly if it is a protocol, under annotations perhaps, that is linked to
it. It is never refused as nullable or as the element of a list. A hint that is no protocol is
refused as that whatever is linked; a protocol is not mapped if it is not linked, or is linked to a
type that cannot stand inside a non-null layer, and is no interface otherwise. -/
theorem interface_type_decided (s : Session) (d : TypeHint) :
    Registry.InterfaceDecided s.registry d (interfaceType d s).1 := by
  rw [interfaceType, access_eq_outcome]
  exact Registry.interfaceDecided s.registry d

/-- A protocol that a lenient registry links to a type of no known category is not mapped, although
that is no non-null type. -/
theorem unknown_category_unmapped :
    let sized : TypeHint := .cls Class.Builtin.sized
    let s : Session := { Session.new false 0 with
      registry := (Registry.new false).run [⟨sized, .other "X"⟩] }
    Registry.Reached false s.registry ∧ sized.isProtocol = true ∧
      s.registry.lookup sized = .ok (some (.other "X")) ∧
      (SchemaType.other "X").isNonNull = false ∧
      (interfaceType sized s).1 = Demand.interface.refused .unmapped sized.displayName ∧
      (interfaceType sized s).1 ≠ Demand.interface.refused .notInterface sized.displayName := by
  intro sized s
  have hprotocol : sized.isProtocol = true := rfl
  have hlookup : s.registry.lookup sized = .ok (some (.other "X")) :=
    (Registry.new false).lookup_key_after ⟨sized, .other "X"⟩ rfl
  have hunmapped : (interfaceType sized s).1 =
      Demand.interface.refused .unmapped sized.displayName := by
    rw [interfaceType, access_eq_outcome]
    exact (Registry.interfaceDecided s.registry sized).unmapped_iff.mpr
      ⟨hprotocol, .inr ⟨_, hlookup, rfl⟩⟩
  refine ⟨⟨_, rfl⟩, hprotocol, hlookup, rfl, hunmapped, ?_⟩
  rw [hunmapped]
  nofun

end Session

end SchemaLink
