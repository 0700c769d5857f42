import SchemaLink.Proofs.RefusalRecords
import SchemaLink.Proofs.WrapperNames

/-!
# What errors are about

Whoever makes a demand is told by an error which hint and which field it was made for, since every
refusal takes both from the demand. An element that a list refuses is another matter: the resolution
refuses it, knows neither the field nor the whole hint, and names the list around the element.
-/

namespace SchemaLink

open TypeHint hiding none

namespace Demand

variable {demand : Demand} {r : Registry} {t : TypeHint}

/-- A demand fails as a resolution does, or is refused by the name of the hint. -/
theorem outcome_error_cases {e : AccessError} (h : demand.outcome r t = .error e) :
    (∃ cause, e = .ofResolve cause) ∨
      ∃ refusal, e = .mapping (.refused demand refusal t.displayName) := by
  rcases bind_eq_error_iff.mp h with hadmission | ⟨-, -, h⟩
  · cases demand with
    | output field =>
      rcases bind_eq_error_iff.mp hadmission with hrepresentable | ⟨representable, -, hrefused⟩
      · cases hresult : t.isRepresentable (some r) with
        | error container =>
          rw [hresult] at hrepresentable
          exact .inl ⟨.unhashable container, (Except.error.inj hrepresentable).symm⟩
        | ok representable => rw [hresult] at hrepresentable; cases hrepresentable
      · exact .inr ⟨_, eq_refused_of_requires hrefused⟩
    | interface => exact .inr ⟨_, eq_refused_of_requires hadmission⟩
    | _ => cases hadmission
  · rcases bind_eq_error_iff.mp h with hfound | ⟨g, -, hselection⟩
    · match hresolve : r.resolve t with
      | .error cause =>
        have hcause : demand.found t.displayName (r.resolve t) = .error (.ofResolve cause) :=
          found_eq_ofResolve_iff.mpr hresolve
        exact .inl ⟨cause, Except.error.inj (hfound.symm.trans hcause)⟩
      | .ok none =>
        rw [hresolve] at hfound
        exact .inr ⟨.unmapped, (Except.error.inj hfound).symm⟩
      | .ok (some g) => rw [hresolve] at hfound; cases hfound
    · exact .inr (exists_refused_of_selection hselection)

end Demand

namespace Session

variable {s : Session} {demand : Demand} {t : TypeHint}

/-- Every error of the demand names the hint, and the field that the demand was made for. -/
def ErrorsIdentify (demand : Demand) (t : TypeHint) (s : Session) : Prop :=
  ∀ e, (access demand t s).1 = .error (.mapping e) →
    e.typeName = t.displayName ∧ e.fieldName = demand.field

/-- A demand whose element a list refuses names the hint and the field exactly if the hint is the
list and there is no field. -/
theorem errorsIdentify_iff_of_refusesElement (hdemand : demand ≠ .interface)
    (h : s.registry.RefusesElement t) :
    ErrorsIdentify demand t s ↔ t.steps = [.list] ∧ demand.field = none := by
  have houtcome := Demand.outcome_listElement_iff.mpr ⟨hdemand, h, rfl⟩
  have hname : t.innermostWrapper.displayName = t.displayName ↔ t.steps = [.list] := by
    obtain ⟨before, hsteps⟩ := List.getLast?_eq_some_iff.mp h.list
    rw [displayName_innermostWrapper_eq_iff, hsteps]
    simp
  rw [ErrorsIdentify, access_eq_outcome, houtcome, ← hname, eq_comm (a := demand.field)]
  constructor
  · exact fun hall => hall _ rfl
  · rintro hnamed _ ⟨⟩
    exact hnamed

/-- A demand names the hint and the field in all errors if no list refuses its element. -/
theorem errorsIdentify_of_other
    (h : demand = .interface ∨ ¬ s.registry.RefusesElement t) : ErrorsIdentify demand t s := by
  intro e he
  rw [access_eq_outcome] at he
  rcases Demand.outcome_error_cases he with ⟨cause, hcause⟩ | ⟨refusal, hrefused⟩
  · cases cause with
    | unhashable container => cases hcause
    | listElement name =>
      obtain ⟨hdemand, href, -⟩ := Demand.outcome_listElement_iff.mp (hcause ▸ he)
      exact (h.elim hdemand (· href)).elim
  · cases hrefused
    exact ⟨rfl, rfl⟩

/-- **Errors are about the hint and the field of the demand, except for elements of lists.** The
errors of a demand name the hint and the field that it was made for exactly if the demand is one for
an interface, or the registry refuses no element in the hint, or the hint is itself the list of the
refused element and the demand is made for no field. With strict registries the errors always do.
Where an element is refused, the error names the list around it, and no field. -/
theorem errors_identify_iff (demand : Demand) (t : TypeHint) (s : Session) :
    (ErrorsIdentify demand t s ↔ demand = .interface ∨ ¬ s.registry.RefusesElement t ∨
      t.steps = [.list] ∧ demand.field = none) ∧
    (Registry.Reached true s.registry → ErrorsIdentify demand t s) ∧
    (demand ≠ .interface → s.registry.RefusesElement t → (access demand t s).1 =
      .error (.mapping (.listElement t.innermostWrapper.displayName))) := by
  refine ⟨?_, fun hs => ?_, fun hdemand href => ?_⟩
  · by_cases hother : demand = .interface ∨ ¬ s.registry.RefusesElement t
    · exact iff_of_true (errorsIdentify_of_other hother) (hother.imp_right .inl)
    · obtain ⟨hdemand, href⟩ := not_or.mp hother
      rw [errorsIdentify_iff_of_refusesElement hdemand (not_not.mp href), or_iff_right hdemand,
        or_iff_right href]
  · exact errorsIdentify_of_other (.inr (hs.not_refusesElement t))
  · rw [(access_reads demand s.registry t s rfl).1]
    exact Demand.outcome_listElement_iff.mpr ⟨hdemand, href, rfl⟩

/-- Lists of lists of dates lead over two lists to dates. -/
private theorem spine_of_nested_dates :
    let date : TypeHint := .cls Class.Builtin.date
    let dates : TypeHint := .generic .builtin Class.Builtin.list [date]
    let hint : TypeHint := .generic .builtin Class.Builtin.list [dates]
    hint.core = date ∧ hint.steps = [.list, .list] ∧ hint.innermostWrapper = dates := by
  intro date dates hint
  have hhint : hint.classify = some ⟨.list, dates⟩ := rfl
  have hdates : dates.classify = some ⟨.list, date⟩ := rfl
  have hdate : date.classify = none := rfl
  have hsteps : dates.steps = [.list] := by rw [steps_of_list hdates, steps_of_leaf hdate]
  refine ⟨?_, by rw [steps_of_list hhint, hsteps], ?_⟩
  · rw [core_of_list hhint, core_of_list hdates, core_of_leaf hdate]
    rfl
  · rw [innermostWrapper_of_step hhint nofun, hsteps, if_neg (List.cons_ne_nil _ _),
      innermostWrapper_of_step hdates nofun, steps_of_leaf hdate, if_pos rfl]

/-- A field of lists of lists of dates that are not linked is refused by the name of the whole
hint. -/
theorem errors_identify_iff_dates :
    let date : TypeHint := .cls Class.Builtin.date
    let hint : TypeHint :=
      .generic .builtin Class.Builtin.list [.generic .builtin Class.Builtin.list [date]]
    let demand : Demand := .input (some "f")
    let s := new true Level.debug.rank
    Registry.Reached true s.registry ∧
      (access demand hint s).1 = .error (.mapping (.refused demand .unmapped "list[list[date]]")) ∧
      ErrorsIdentify demand hint s := by
  intro date hint demand s
  have hreached : Registry.Reached true s.registry := ⟨[], rfl⟩
  obtain ⟨hcore, -, -⟩ := spine_of_nested_dates
  have hunlinked : s.registry.get? date = none :=
    Option.isNone_iff_eq_none.mp (by decide +kernel)
  have hentry : s.registry.coreEntry hint.core = .ok none := by
    rw [hcore, s.registry.coreEntry_of_leaf rfl, s.registry.entry_of_hashable rfl, hunlinked]
  refine ⟨hreached, ?_, (errors_identify_iff demand hint s).2.1 hreached⟩
  rw [(access_reads demand s.registry hint s rfl).1, Demand.outcome,
    s.registry.resolve_eq_settle, hentry]
  rfl

/-- A field of lists of lists of dates that are linked to a non-null type is refused by the name of
the inner list, without the field. -/
theorem nested_list_not_identified :
    let date : TypeHint := .cls Class.Builtin.date
    let hint : TypeHint :=
      .generic .builtin Class.Builtin.list [.generic .builtin Class.Builtin.list [date]]
    let demand : Demand := .input (some "f")
    let s : Session := { new false Level.debug.rank with
      registry := (Registry.new false).run [⟨date, .nonNull (.named (.scalar "Date"))⟩] }
    (access demand hint s).1 = .error (.mapping (.listElement "list[date]")) ∧
      hint.displayName = "list[list[date]]" ∧
      (MappingError.listElement "list[date]").fieldName = none ∧
      ¬ ErrorsIdentify demand hint s := by
  intro date hint demand s
  obtain ⟨hcore, hsteps, hinner⟩ := spine_of_nested_dates
  have hlookup : s.registry.lookup date = .ok (some (.nonNull (.named (.scalar "Date")))) :=
    (Registry.new false).lookup_key_after ⟨date, .nonNull (.named (.scalar "Date"))⟩ rfl
  have hrefuses : s.registry.RefusesElement hint :=
    { leaf := by rw [hcore]; rfl
      list := by rw [hsteps]; rfl
      linked := ⟨_, by rw [hcore, hlookup], rfl⟩ }
  refine ⟨?_, by decide +kernel, rfl, fun h => ?_⟩
  · rw [(access_reads demand s.registry hint s rfl).1]
    exact Demand.outcome_listElement_iff.mpr ⟨nofun, hrefuses, by rw [hinner]; rfl⟩
  · have hdemand : demand ≠ .interface := nofun
    have hexact := (errorsIdentify_iff_of_refusesElement hdemand hrefuses).mp h
    cases hsteps.symm.trans hexact.1

end Session

end SchemaLink
