import SchemaLink.Proofs.DemandOutcome

/-!
# Hints that cannot be hashed

Every demand ends in a lookup, which hashes its key. A raw list or mapping on its own is told from
all others as an object, but inside a tuple, an alias, a union or an annotation it keeps the whole
hint from being hashed, and the failure of the hash then leaves the demand in place of a refusal.
This happens exactly where a demand looks up such a hint: in every other case it gives a schema type
or is refused.
-/

namespace SchemaLink

open TypeHint hiding none

namespace Registry

variable {r : Registry} {d : TypeHint} {container : Unhashable}

/-- A lookup fails exactly on hints that cannot be hashed. -/
theorem lookup_eq_error_iff : r.lookup d = .error container ↔ d.unhashable? = some container := by
  rw [lookup]
  cases d.unhashable? <;> simp

/-- Asking for a hint fails exactly where looking it up does. -/
theorem contains_eq_error_iff :
    r.contains d = .error container ↔ d.unhashable? = some container := by
  rw [← lookup_eq_error_iff (r := r), contains]
  cases r.lookup d <;> simp [Except.map]

/-- The type of a leaf is not found exactly where its lookup fails. -/
theorem entry_eq_error_iff :
    r.entry d = .error (.unhashable container) ↔ d.unhashable? = some container := by
  rw [entry, lookup]
  cases d.unhashable? with
  | none => exact iff_of_false (fun h => by cases h) (by simp)
  | some c =>
    change Except.error (ResolveError.unhashable c) = .error (.unhashable container) ↔ _
    simp

/-- A resolution fails on hashing exactly if it reaches, without a reference, a leaf that cannot be
hashed. -/
theorem resolve_unhashable_iff : r.resolve d = .error (.unhashable container) ↔
    d.isDeferred = false ∧ d.destination.unhashable? = some container := by
  have hsettle : ¬ ∃ linked, r.coreEntry d.core = .ok linked ∧
      settle d linked = .error (.unhashable container) := by
    rintro ⟨linked, -, h⟩
    exact settle_ne_unhashable linked container h
  rw [r.resolve_eq_settle, Demand.bind_eq_error_iff, or_iff_left hsettle, coreEntry_core]
  cases d.isDeferred with
  | true => simp
  | false => rw [if_neg Bool.false_ne_true, and_iff_right rfl, entry_eq_error_iff]

/-- A type that a hint resolves to is a schema type, if all stored ones are. -/
theorem isType_of_resolve (hstored : ∀ entry ∈ r.entries, entry.2.isType = true) {g : SchemaType}
    (h : r.resolve d = .ok (some g)) : g.isType = true := by
  obtain ⟨linked, hcore, rfl⟩ := r.exists_tower_of_resolve h
  have hlinked : linked.isType = true :=
    stored_of_coreEntry (p := (·.isType = true)) hstored (fun _ => rfl) hcore
  cases hlists : d.listDepth with
  | succ n => rfl
  | zero =>
    cases d.endsOptional with
    | true => exact hlinked
    | false => rfl

end Registry

namespace SchemaType

/-- A type that has a name is a schema type. -/
theorem isType_of_isNamed {g : SchemaType} (h : g.isNamed = true) : g.isType = true := by
  cases g with
  | foreign value => cases h
  | _ => rfl

/-- A type of a certain kind is a schema type. -/
theorem isType_of_hasKind {kind : NamedKind} {g : SchemaType} (h : g.hasKind kind = true) :
    g.isType = true := by
  cases g with
  | foreign value => cases h
  | _ => rfl

end SchemaType

namespace Demand

/-- The container that keeps a demand from looking up a hint. A demand for output looks behind
references as well, and a demand for an interface looks up protocols only, which can be hashed. -/
def unhashable? (demand : Demand) (t : TypeHint) : Option Unhashable :=
  match demand with
  | .output _ => t.destination.unhashable?
  | .interface => none
  | .input _ | .named | .object => if t.isDeferred then none else t.destination.unhashable?

variable {demand : Demand} {r : Registry} {d : TypeHint} {container : Unhashable}

section Hashing

/-- A demand that admits every hint fails on hashing where the resolution does. -/
theorem outcome_unhashable_iff_resolve (hadmission : demand.admission r d = .ok ()) :
    demand.outcome r d = .error (.unhashable container) ↔
      (if d.isDeferred then none else d.destination.unhashable?) = some container := by
  refine (outcome_eq_ofResolve_iff (e := .unhashable container)).trans ?_
  rw [hadmission, Registry.resolve_unhashable_iff]
  cases d.isDeferred <;> simp

/-- A demand for an interface never fails on hashing: no hint but a protocol is looked up. -/
theorem interface_outcome_ne_unhashable :
    Demand.interface.outcome r d ≠ .error (.unhashable container) := by
  intro h
  obtain h | ⟨hadmitted, hresolve⟩ := (outcome_eq_ofResolve_iff (e := .unhashable container)).mp h
  · cases eq_refused_of_requires h
  · obtain ⟨hdeferred, hhash⟩ := Registry.resolve_unhashable_iff.mp hresolve
    have hleaf : d.core.classify = none := isDeferred_eq_false_iff.mp hdeferred
    have hprotocol : d.destination.isProtocol = true := by
      cases h : d.isProtocol with
      | false =>
        rw [admission, h] at hadmitted
        cases hadmitted
      | true =>
        rw [isProtocol_eq, Bool.and_eq_true] at h
        exact h.2
    have hbare : d.destination.stripAnnotated = d.destination := by
      rw [← core_eq_destination hleaf, stripAnnotated_core]
    have hashable := unhashable?_of_isProtocol hprotocol
    rw [hbare, hhash] at hashable
    cases hashable

/-- A demand for output fails on hashing exactly if the destination of its hint cannot be hashed:
whether the hint is representable is asked about the destination. -/
theorem output_outcome_unhashable_iff (field : Option String) :
    (Demand.output field).outcome r d = .error (.unhashable container) ↔
      d.destination.unhashable? = some container := by
  refine (outcome_eq_ofResolve_iff (e := .unhashable container)).trans ?_
  rw [AccessError.ofResolve, Registry.resolve_unhashable_iff, admission, isRepresentable_eq]
  cases d.destination.unhashable? with
  | some c =>
    change Except.error (AccessError.unhashable c) = .error (.unhashable container) ∨
      Except.error (AccessError.unhashable c) = .ok () ∧ _ ↔ _
    simp
  | none =>
    have hresolve : ¬ (d.isDeferred = false ∧ none = some container) := by simp
    refine iff_of_false ?_ (by simp)
    rintro (h | ⟨-, h⟩)
    · cases eq_refused_of_requires h
    · exact hresolve h

/-- **A demand fails on hashing exactly if it looks up a hint that cannot be hashed.** -/
theorem outcome_unhashable_iff : demand.outcome r d = .error (.unhashable container) ↔
    demand.unhashable? d = some container := by
  cases demand with
  | output field => exact output_outcome_unhashable_iff field
  | interface => exact iff_of_false interface_outcome_ne_unhashable nofun
  | input field => exact outcome_unhashable_iff_resolve rfl
  | named => exact outcome_unhashable_iff_resolve rfl
  | object => exact outcome_unhashable_iff_resolve rfl

end Hashing

section Answers

variable {condition : Bool} {refusal : Refusal} {typeName : String} {g answer : SchemaType}

/-- An answer that a condition is required for is given if the condition holds. -/
theorem required_eq_ok (h : ((demand.requires condition refusal typeName).bind fun _ => .ok g) =
    .ok answer) : condition = true ∧ g = answer := by
  cases condition with
  | true => exact ⟨rfl, Except.ok.inj h⟩
  | false => cases h

/-- What is selected from a schema type is a schema type. -/
theorem isType_of_selection (hg : g.isType = true)
    (h : demand.selection typeName g = .ok answer) : answer.isType = true := by
  have hlayered {kind : NamedKind} {otherwise : Refusal}
      (h : demand.layered kind otherwise typeName g = .ok answer) : answer.isType = true := by
    cases g with
    | nonNull of =>
      obtain ⟨hkind, rfl⟩ := required_eq_ok h
      exact SchemaType.isType_of_hasKind hkind
    | _ => cases h
  cases demand with
  | output field => exact (required_eq_ok h).2 ▸ hg
  | input field => exact (required_eq_ok h).2 ▸ hg
  | named =>
    obtain ⟨hnamed, rfl⟩ := required_eq_ok h
    exact SchemaType.isType_of_isNamed hnamed
  | interface => exact hlayered h
  | object => exact hlayered h

/-- Only a resolved type is found. -/
theorem resolve_of_found {x : Except ResolveError (Option SchemaType)}
    (h : demand.found typeName x = .ok g) : x = .ok (some g) := by
  match x with
  | .ok (some _) => exact congrArg (Except.ok ∘ some) (Except.ok.inj h)
  | .ok none => cases h
  | .error (.unhashable _) => cases h
  | .error (.listElement _) => cases h

/-- What a demand gives is a schema type, if all stored types are. -/
theorem isType_of_outcome (hstored : ∀ entry ∈ r.entries, entry.2.isType = true)
    (h : demand.outcome r d = .ok answer) : answer.isType = true := by
  obtain ⟨-, -, h⟩ := bind_eq_ok_iff.mp h
  obtain ⟨g, hfound, hselection⟩ := bind_eq_ok_iff.mp h
  have hg := Registry.isType_of_resolve hstored (resolve_of_found hfound)
  exact isType_of_selection hg hselection

end Answers

end Demand

namespace Session

/-- **A demand fails on nothing but hashing.** With a registry that was reached by a run, a demand
fails on the hash exactly if it looks up a hint that holds a raw list or mapping inside; in every
other case it gives a schema type or is refused. A lookup and the question whether a hint is linked
fail exactly on such hints. -/
theorem access_fails_only_on_hashing {strict : Bool} {s : Session}
    (hs : Registry.Reached strict s.registry) (demand : Demand) (d : TypeHint) :
    (∀ container, (access demand d s).1 = .error (.unhashable container) ↔
      demand.unhashable? d = some container) ∧
    (demand.unhashable? d = none →
      (∃ g, (access demand d s).1 = .ok g ∧ g.isType = true) ∨
        ∃ e, (access demand d s).1 = .error (.mapping e)) ∧
    (∀ container, s.registry.lookup d = .error container ↔ d.unhashable? = some container) ∧
    ∀ container, s.registry.contains d = .error container ↔ d.unhashable? = some container := by
  rw [(access_reads demand s.registry d s rfl).1]
  refine ⟨fun container => Demand.outcome_unhashable_iff, fun hhash => ?_,
    fun container => Registry.lookup_eq_error_iff, fun container => Registry.contains_eq_error_iff⟩
  match houtcome : demand.outcome s.registry d with
  | .ok g => exact .inl ⟨g, rfl, Demand.isType_of_outcome hs.isType houtcome⟩
  | .error (.mapping e) => exact .inr ⟨e, rfl⟩
  | .error (.unhashable container) =>
    rw [Demand.outcome_unhashable_iff.mp houtcome] at hhash
    cases hhash

/-- A raw list on its own does not keep a demand from a lookup, but a tuple that holds one does. -/
theorem access_fails_only_on_hashing_raw_list :
    let bare := TypeHint.list 0 []
    let s := Session.new true 0
    Registry.Reached true s.registry ∧
      (∀ container, (inputType bare (some "f") s).1 ≠ .error (.unhashable container)) ∧
      (inputType (.tuple [bare]) (some "f") s).1 = .error (.unhashable .list) := by
  intro bare s
  have hreached : Registry.Reached true s.registry := ⟨[], rfl⟩
  have hbare : bare.destination.unhashable? = none := by rw [destination_of_leaf rfl]; rfl
  have htuple : (TypeHint.tuple [bare]).isDeferred = false ∧
      (TypeHint.tuple [bare]).destination.unhashable? = some .list := by
    rw [isDeferred, core_of_leaf rfl, destination_of_leaf rfl]
    exact ⟨rfl, rfl⟩
  refine ⟨hreached, fun container h => ?_, ?_⟩
  · have hlooked := ((access_fails_only_on_hashing hreached (.input (some "f")) bare).1 _).mp h
    rw [Demand.unhashable?, hbare, ite_self] at hlooked
    cases hlooked
  · refine ((access_fails_only_on_hashing hreached (.input (some "f")) _).1 _).mpr ?_
    rw [Demand.unhashable?, htuple.1, if_neg Bool.false_ne_true, htuple.2]

/-- With a new registry, every demand but the one for an interface lets the failure to hash a raw
list out, as do a lookup and the question whether the hint is linked. -/
theorem hash_failure_escapes :
    let hint := TypeHint.tuple [.list 0 []]
    let s := Session.new true 0
    Registry.Reached true s.registry ∧
      (∀ demand ≠ .interface, (access demand hint s).1 = .error (.unhashable .list)) ∧
      s.registry.lookup hint = .error .list ∧ s.registry.contains hint = .error .list := by
  intro hint s
  have hcore : hint.isDeferred = false := by
    rw [isDeferred, core_of_leaf rfl]
    rfl
  have hhash : hint.destination.unhashable? = some .list := by
    rw [destination_of_leaf rfl]
    rfl
  refine ⟨⟨[], rfl⟩, fun demand hdemand => ?_, Registry.lookup_eq_error_iff.mpr rfl,
    Registry.contains_eq_error_iff.mpr rfl⟩
  rw [(access_reads demand s.registry hint s rfl).1, Demand.outcome_unhashable_iff]
  cases demand with
  | interface => exact absurd rfl hdemand
  | output field => exact hhash
  | _ => rw [Demand.unhashable?, hcore, if_neg Bool.false_ne_true, hhash]

end Session

end SchemaLink
