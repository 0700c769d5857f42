import SchemaLink.Proofs.FieldTypes
import SchemaLink.Proofs.LenientResolution

/-!
# Records of refusals

A demand that is refused sends one record, which its scope marks with the hint and the field, and a
demand that is met sends none. One way out of a demand sends no record although it is a refusal: the
element of a list is refused by the resolution, before the demand can refuse anything. It takes a
lenient registry, in which the core of the hint is linked to a type that cannot stand inside a
non-null layer.
-/

namespace SchemaLink

open TypeHint hiding none

namespace Registry

variable {r : Registry} {t : TypeHint}

/-- The core of the hint is a leaf that stands directly inside a list, and is linked to a type that
cannot stand inside a non-null layer. -/
structure RefusesElement (r : Registry) (t : TypeHint) : Prop where
  leaf : t.core.classify = none
  list : t.steps.getLast? = some .list
  linked : ∃ g, r.lookup t.core = .ok (some g) ∧ g.isNullable = false

/-- A registry that was reached by strict links refuses no element. -/
theorem Reached.not_refusesElement (hr : Reached true r) (t : TypeHint) :
    ¬ r.RefusesElement t := by
  rintro ⟨-, -, g, hlookup, hg⟩
  rw [r.lookup_of_hashable (unhashable?_of_lookup hlookup)] at hlookup
  cases (hr.safe.isNullable_of_get? (Except.ok.inj hlookup)).symm.trans hg

/-- The answer about a core that is a type which cannot stand inside a non-null layer is a link. -/
theorem coreEntry_eq_some_iff {g : SchemaType} (hg : g.isNullable = false) :
    r.coreEntry t.core = .ok (some g) ↔
      t.core.classify = none ∧ r.lookup t.core = .ok (some g) := by
  rcases core_classify t with h | ⟨target, h⟩
  · rw [r.coreEntry_of_leaf h, entry, and_iff_right h]
    cases r.lookup t.core <;> simp [Except.mapError]
  · rw [r.coreEntry_of_reference h, h]
    refine iff_of_false ?_ fun hleaf => ?_
    · rintro ⟨⟩
      cases hg
    · cases hleaf.1

/-- A resolution refuses the element of a list exactly if the core of the hint is linked to a type
that cannot be one, and the refusal names the list around the core. -/
theorem resolve_listElement_iff {name : String} : r.resolve t = .error (.listElement name) ↔
    r.RefusesElement t ∧ name = t.innermostWrapper.displayName := by
  have hcore : r.coreEntry t.core ≠ .error (.listElement name) := by
    rw [coreEntry]
    split
    · simp
    · rw [entry]
      cases r.lookup t.core <;> simp [Except.mapError]
  rw [r.resolve_eq_settle, Demand.bind_eq_error_iff, or_iff_right hcore]
  constructor
  · rintro ⟨linked, hentry, hsettle⟩
    cases linked with
    | none => cases hsettle
    | some g =>
      obtain ⟨hg, hlist, rfl⟩ := settle_listElement_iff.mp hsettle
      obtain ⟨hleaf, hlookup⟩ := (coreEntry_eq_some_iff hg).mp hentry
      exact ⟨⟨hleaf, hlist, g, hlookup, hg⟩, rfl⟩
  · rintro ⟨⟨hleaf, hlist, g, hlookup, hg⟩, rfl⟩
    exact ⟨some g, (coreEntry_eq_some_iff hg).mpr ⟨hleaf, hlookup⟩,
      settle_listElement_iff.mpr ⟨hg, hlist, rfl⟩⟩

end Registry

namespace Demand

variable {demand : Demand} {r : Registry} {t : TypeHint}

/-- No hint is refused as the element of a list before it is resolved. -/
theorem admission_ne_listElement (name : String) :
    demand.admission r t ≠ .error (.mapping (.listElement name)) := by
  intro h
  cases demand with
  | output field =>
    rcases bind_eq_error_iff.mp h with h | ⟨representable, -, h⟩
    · cases hrepresentable : t.isRepresentable (some r) with
      | error container => rw [hrepresentable] at h; cases h
      | ok b => rw [hrepresentable] at h; cases h
    · cases eq_refused_of_requires h
  | interface => cases eq_refused_of_requires h
  | _ => cases h

/-- A hint whose element is refused is admitted to every demand but the one for an interface. -/
theorem admission_of_refusesElement (hdemand : demand ≠ .interface) (h : r.RefusesElement t) :
    demand.admission r t = .ok () := by
  cases demand with
  | interface => exact absurd rfl hdemand
  | output field =>
    obtain ⟨g, hlookup, -⟩ := h.linked
    have hhash : t.destination.unhashable? = none := by
      rw [← core_eq_destination h.leaf]
      exact Registry.unhashable?_of_lookup hlookup
    have hrepresentable : t.isRepresentable (some r) = .ok true := by
      rw [← Registry.isRepresentable_core]
      exact Registry.isRepresentable_of_linked hhash h.leaf hlookup
    rw [admission, hrepresentable]
    rfl
  | _ => rfl

/-- A demand is refused for the element of a list exactly if it is not one for an interface and the
registry refuses the element. -/
theorem outcome_listElement_iff {name : String} :
    demand.outcome r t = .error (.mapping (.listElement name)) ↔
      demand ≠ .interface ∧ r.RefusesElement t ∧ name = t.innermostWrapper.displayName := by
  refine (outcome_eq_ofResolve_iff (e := .listElement name)).trans ?_
  rw [AccessError.ofResolve, or_iff_right (admission_ne_listElement name),
    Registry.resolve_listElement_iff]
  constructor
  · rintro ⟨hadmitted, h, rfl⟩
    refine ⟨?_, h, rfl⟩
    -- A list is no protocol, so that a demand for an interface does not admit it.
    rintro rfl
    cases hwrapper : t.classify with
    | none => simpa [(classify_eq_none_iff.mp hwrapper).1] using h.list
    | some w =>
      rw [admission, isProtocol_of_wrapper hwrapper] at hadmitted
      cases hadmitted
  · rintro ⟨hdemand, h, rfl⟩
    exact ⟨admission_of_refusesElement hdemand h, h, rfl⟩

/-- Only a refusal is recorded, and it is recorded for debugging. -/
theorem level_of_mem_records {α : Type} {result : Except AccessError α} {e : Event}
    (h : e ∈ records result) : e.level = .debug := by
  obtain ⟨error, rfl⟩ := eq_record_of_mem_records h
  rfl

/-- The records of what a demand comes to, marked with the scope of the demand. -/
def markedRecords (demand : Demand) (t : TypeHint) (result : Except AccessError SchemaType) :
    List Event :=
  (records result).map (Scope.mark ⟨some t.displayName, demand.field⟩)

end Demand

namespace Session

variable {s : Session} {demand : Demand} {t : TypeHint}

/-- The one record that a demand should keep of an error: the kind and the message of the error, the
field if there is one, and the hint. -/
def failureRecord (demand : Demand) (t : TypeHint) (e : MappingError) : Event :=
  { level := .debug, logger := accessLogger, text := "Type mapping failed"
    keys :=
      [("error", .text e.kindName), ("message", .text e.message)]
        ++ (demand.field.map fun field => ("field", .text field)).toList
        ++ [("type_name", .text t.displayName)] }

/-- The demand keeps the record of the error if it is refused, and nothing if it is met. -/
structure FailuresRecorded (demand : Demand) (t : TypeHint) (s : Session) : Prop where
  returned : ∀ g, (access demand t s).1 = .ok g → (access demand t s).2.journal = s.journal
  refused : ∀ e, (access demand t s).1 = .error (.mapping e) →
    (access demand t s).2.journal = s.journal ++ [failureRecord demand t e]

/-- The scope of a demand adds the field and the hint to the record of an error. -/
theorem mark_record (hname : t.displayName ≠ "") (hfield : demand.field ≠ some "")
    (e : MappingError) :
    Scope.mark ⟨some t.displayName, demand.field⟩ e.record = failureRecord demand t e := by
  cases hf : demand.field with
  | none =>
    simp [Scope.mark, Scope.enrich, Scope.addKey, MappingError.record, failureRecord, hname, hf,
      List.lookup_cons]
  | some field =>
    have hsome : field ≠ "" := fun h => hfield (by rw [hf, h])
    simp [Scope.mark, Scope.enrich, Scope.addKey, MappingError.record, failureRecord, hname, hf,
      hsome, List.lookup_cons]

/-- A session that keeps records for debugging keeps those of what a demand comes to, and is left as
it is otherwise. -/
theorem access_apply (hdebug : s.threshold ≤ Level.debug.rank) (demand : Demand) (t : TypeHint) :
    access demand t s =
      (demand.outcome s.registry t,
        { s with
          journal := s.journal ++ demand.markedRecords t (demand.outcome s.registry t) }) := by
  have hkept : (Demand.records (demand.outcome s.registry t)).filter
      (fun e => s.threshold ≤ e.level.rank) = Demand.records (demand.outcome s.registry t) := by
    rw [List.filter_eq_self]
    intro e he
    simpa [Demand.level_of_mem_records he] using hdebug
  have hmeet := meet_records demand s.registry t
    { s with scope := ⟨some t.displayName, demand.field⟩ } rfl
  rw [access, Action.within, hmeet]
  simp only [advance, kept, hkept]
  rfl

/-- The errors of a demand are recorded exactly if it is not refused for the element of a list. -/
theorem failuresRecorded_iff_outcome (hdebug : s.threshold ≤ Level.debug.rank)
    (hname : t.displayName ≠ "") (hfield : demand.field ≠ some "") :
    FailuresRecorded demand t s ↔
      ∀ name, demand.outcome s.registry t ≠ .error (.mapping (.listElement name)) := by
  have hresult : (access demand t s).1 = demand.outcome s.registry t := by
    rw [access_apply hdebug]
  have hjournal : (access demand t s).2.journal =
      s.journal ++ demand.markedRecords t (demand.outcome s.registry t) := by
    rw [access_apply hdebug]
  constructor
  · intro h name houtcome
    have hrecord := h.refused (.listElement name) (hresult.trans houtcome)
    rw [hjournal, houtcome] at hrecord
    simp [Demand.markedRecords, Demand.records, AccessError.records] at hrecord
  · intro hother
    refine ⟨fun g hg => ?_, fun e he => ?_⟩
    · rw [hjournal, ← hresult, hg]
      exact List.append_nil _
    · rw [hjournal, ← hresult, he]
      cases e with
      | listElement name => exact absurd (hresult.symm.trans he) (hother name)
      | refused demand' refusal typeName =>
        exact congrArg (s.journal ++ [·]) (mark_record hname hfield _)

/-- **Errors are recorded once and in scope, except for elements of lists.** In a session that keeps
records for debugging, a demand that is met keeps no record, and one that is refused keeps exactly
the record of its error with the hint and the field, unless the registry refuses the element of a
list in the hint. In that case every demand but the one for an interface fails without a trace. With
strict registries it never happens. -/
theorem failures_recorded_iff (hdebug : s.threshold ≤ Level.debug.rank)
    (hname : t.displayName ≠ "") (hfield : demand.field ≠ some "") :
    (FailuresRecorded demand t s ↔ demand = .interface ∨ ¬ s.registry.RefusesElement t) ∧
    (Registry.Reached true s.registry → FailuresRecorded demand t s) ∧
    (demand ≠ .interface → s.registry.RefusesElement t → access demand t s =
      (.error (.mapping (.listElement t.innermostWrapper.displayName)), s)) := by
  have hiff : FailuresRecorded demand t s ↔
      demand = .interface ∨ ¬ s.registry.RefusesElement t := by
    rw [failuresRecorded_iff_outcome hdebug hname hfield]
    simp only [ne_eq, Demand.outcome_listElement_iff, not_and]
    constructor
    · intro h
      by_cases hdemand : demand = .interface
      · exact .inl hdemand
      · exact .inr fun href => h _ hdemand href rfl
    · rintro (rfl | href) name hdemand
      · exact absurd rfl hdemand
      · exact fun h => absurd h href
  refine ⟨hiff, fun hs => hiff.mpr (.inr (hs.not_refusesElement t)), fun hdemand href => ?_⟩
  rw [access_apply hdebug, Demand.outcome_listElement_iff.mpr ⟨hdemand, href, rfl⟩]
  simp [Demand.markedRecords, Demand.records, AccessError.records]

/-- A field of dates that are not linked is refused with one record. -/
theorem failures_recorded_iff_date :
    let date : TypeHint := .cls Class.Builtin.date
    let demand : Demand := .input (some "f")
    let s := new true Level.debug.rank
    s.threshold ≤ Level.debug.rank ∧ date.displayName ≠ "" ∧ demand.field ≠ some "" ∧
      (access demand date s).2.journal =
        [failureRecord demand date (.refused demand .unmapped "date")] := by
  intro date demand s
  have hdebug : s.threshold ≤ Level.debug.rank := Nat.le_refl _
  have hname : date.displayName ≠ "" := by decide
  have hfield : demand.field ≠ some "" := by decide
  have hrecorded : FailuresRecorded demand date s :=
    (failures_recorded_iff hdebug hname hfield).2.1 ⟨[], rfl⟩
  have hrefused :
      (access demand date s).1 = .error (.mapping (.refused demand .unmapped "date")) := by
    have hunlinked : s.registry.get? date = none :=
      Option.isNone_iff_eq_none.mp (by decide +kernel)
    have hentry : s.registry.entry date.stripAnnotated = .ok none :=
      (s.registry.entry_of_hashable rfl).trans (congrArg Except.ok hunlinked)
    rw [(access_reads demand s.registry date s rfl).1, Demand.outcome,
      s.registry.resolve_of_leaf rfl, hentry]
    rfl
  exact ⟨hdebug, hname, hfield, hrecorded.refused _ hrefused⟩

/-- A field of lists of dates that are linked to a non-null type is refused without a record. -/
theorem list_element_not_recorded :
    let date : TypeHint := .cls Class.Builtin.date
    let hint : TypeHint := .generic .builtin Class.Builtin.list [date]
    let demand : Demand := .input (some "f")
    let s : Session := { new false Level.debug.rank with
      registry := (Registry.new false).run [⟨date, .nonNull (.named (.scalar "Date"))⟩] }
    access demand hint s = (.error (.mapping (.listElement "list[date]")), s) ∧
      ¬ FailuresRecorded demand hint s := by
  intro date hint demand s
  have hlist : hint.classify = some ⟨.list, date⟩ := rfl
  have hleaf : date.classify = none := rfl
  have hcore : hint.core = date := (core_of_list hlist).trans (core_of_leaf hleaf)
  have hsteps : hint.steps = [.list] := by rw [steps_of_list hlist, steps_of_leaf hleaf]
  have hinner : hint.innermostWrapper = hint := by
    rw [innermostWrapper_of_step hlist nofun, steps_of_leaf hleaf, if_pos rfl]
  have hlookup : s.registry.lookup date = .ok (some (.nonNull (.named (.scalar "Date")))) :=
    (Registry.new false).lookup_key_after ⟨date, .nonNull (.named (.scalar "Date"))⟩ rfl
  have hrefuses : s.registry.RefusesElement hint :=
    { leaf := by rw [hcore, hleaf]
      list := by rw [hsteps]; rfl
      linked := ⟨_, by rw [hcore, hlookup], rfl⟩ }
  have houtcome : demand.outcome s.registry hint = .error (.mapping (.listElement "list[date]")) :=
    Demand.outcome_listElement_iff.mpr ⟨nofun, hrefuses, by rw [hinner]; rfl⟩
  have hdebug : s.threshold ≤ Level.debug.rank := Nat.le_refl _
  refine ⟨?_, fun h => ?_⟩
  · rw [access_apply hdebug, houtcome]
    rfl
  · exact (failuresRecorded_iff_outcome hdebug (by decide) (by decide)).mp h _ houtcome

end Session

end SchemaLink
