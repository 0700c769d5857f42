import SchemaLink.Proofs.DemandOutcome
import SchemaLink.Proofs.LinkMap
import SchemaLink.Proofs.SchemaLayers

/-!
# The types of fields

A field demands a type for what it results in or for what it is given. On a strict registry the core
of the hint decides the demand: a reference is trusted, a leaf has to be linked to a type whose
innermost type suits the use, and a result has to be representable first. The wrappers around the
core only add layers.
-/

namespace SchemaLink

/-- What the type of a field is used for. -/
inductive FieldUse where
  | output
  | input
  deriving DecidableEq, Repr

namespace FieldUse

/-- The demand of a field for the use. -/
def demand (use : FieldUse) (field : Option String) : Demand :=
  match use with
  | output => .output field
  | input => .input field

/-- Whether a type may be put to the use. -/
def accepts (use : FieldUse) (g : SchemaType) : Bool :=
  match use with
  | output => g.isOutput
  | input => g.isInput

/-- The refusal of a type that may not be put to the use. -/
def mismatch : FieldUse → Refusal
  | output => .notOutput
  | input => .notInput

/-- A type of the wrong use is told from one that is missing. -/
theorem mismatch_ne_unmapped (use : FieldUse) : use.mismatch ≠ .unmapped := by
  cases use <;> decide

/-- Whether the innermost type may be put to the use, or is deferred. -/
def suits (use : FieldUse) (g : SchemaType) : Bool :=
  use.accepts g.innermost || g.innermost.isDeferred

/-- The innermost type decides whether a type may be put to the use. -/
theorem accepts_innermost (use : FieldUse) (g : SchemaType) :
    use.accepts g.innermost = use.accepts g := by
  cases use with
  | output => exact g.isOutput_innermost
  | input => exact g.isInput_innermost

/-- A deferred type suits every use. -/
@[simp] theorem suits_deferred (use : FieldUse) (name : String) :
    use.suits (.deferred name) = true := by
  cases use <;> rfl

/-- A tower suits the use that the type inside suits. -/
@[simp] theorem suits_tower (use : FieldUse) (lists : Nat) (optional : Bool) (g : SchemaType) :
    use.suits (.tower lists optional g) = use.suits g := by
  rw [suits, suits, SchemaType.innermost_tower]

/-- Of a type, a field demands that it suits the use. -/
theorem selection_demand (use : FieldUse) (field : Option String) (typeName : String)
    (g : SchemaType) :
    (use.demand field).selection typeName g =
      if use.suits g then .ok g else (use.demand field).refused use.mismatch typeName := by
  have hsuits : use.suits g = (use.accepts g || g.innermost.isDeferred) := by
    rw [suits, accepts_innermost]
  rw [hsuits]
  cases use with
  | output =>
    change (Demand.requires _ (g.isOutput || g.innermost.isDeferred) _ _).bind _ = _
    cases h : g.isOutput || g.innermost.isDeferred <;> simp [accepts, h] <;> rfl
  | input =>
    change (Demand.requires _ (g.isInput || g.innermost.isDeferred) _ _).bind _ = _
    cases h : g.isInput || g.innermost.isDeferred <;> simp [accepts, h] <;> rfl

end FieldUse

open TypeHint hiding none

/-- A core that is a reference. -/
def TypeHint.IsReference (core : TypeHint) : Prop :=
  ∃ target, core.classify = some ⟨.reference, target⟩

namespace Registry

/-- The core is a leaf that is linked to a type which suits the use. -/
def LinkedFor (r : Registry) (use : FieldUse) (core : TypeHint) : Prop :=
  core.classify = none ∧ ∃ g, r.lookup core = .ok (some g) ∧ use.suits g = true

/-- What the type of the core decides about a field with a hint that may be put to the use. -/
def verdict (use : FieldUse) (field : Option String) (d : TypeHint) :
    Option SchemaType → Except AccessError SchemaType
  | none => (use.demand field).refused .unmapped d.displayName
  | some g =>
    if use.suits g then .ok (.tower d.listDepth d.endsOptional g)
    else (use.demand field).refused use.mismatch d.displayName

section Verdict

variable {r : Registry} {d : TypeHint} (use : FieldUse) (field : Option String)

/-- A core that is a leaf can be hashed if the destination can. -/
theorem hashable_core (hhash : d.destination.unhashable? = none) (hleaf : d.core.classify = none) :
    d.core.unhashable? = none := by
  rwa [core_eq_destination hleaf]

/-- The verdict grants a type for a reference, and for a leaf that is linked to a type for the
use. -/
theorem verdict_returns_iff (hhash : d.destination.unhashable? = none) :
    (∃ g, verdict use field d (r.coreType d.core) = .ok g) ↔
      d.core.IsReference ∨ r.LinkedFor use d.core := by
  rcases core_classify d with h | ⟨target, h⟩
  · have hlookup := r.lookup_of_hashable (hashable_core hhash h)
    rw [r.coreType_of_leaf h]
    cases hg : r.get? d.core with
    | none => simp [verdict, Demand.refused, IsReference, LinkedFor, h, hlookup, hg]
    | some g =>
      cases hsuits : use.suits g <;>
        simp [verdict, Demand.refused, IsReference, LinkedFor, h, hlookup, hg, hsuits]
  · rw [r.coreType_of_reference h]
    simp [verdict, IsReference, h]

/-- The verdict is that no type is there for a leaf that is not linked. -/
theorem verdict_unmapped_iff (hhash : d.destination.unhashable? = none) :
    verdict use field d (r.coreType d.core) =
      (use.demand field).refused .unmapped d.displayName ↔ r.Unlinked d.core := by
  rcases core_classify d with h | ⟨target, h⟩
  · have hlookup := r.lookup_of_hashable (hashable_core hhash h)
    rw [r.coreType_of_leaf h]
    cases hg : r.get? d.core with
    | none => simp [verdict, Unlinked, h, hlookup, hg]
    | some g =>
      have hother := use.mismatch_ne_unmapped
      cases hsuits : use.suits g <;>
        simp [verdict, Demand.refused, Unlinked, h, hlookup, hg, hsuits, hother]
  · rw [r.coreType_of_reference h]
    simp [verdict, Demand.refused, Unlinked, h]

/-- The verdict is a type, that there is none, or that it is of the wrong use. -/
theorem verdict_cases (linked : Option SchemaType) :
    (∃ g, verdict use field d linked = .ok g) ∨
      verdict use field d linked = (use.demand field).refused .unmapped d.displayName ∨
      verdict use field d linked = (use.demand field).refused use.mismatch d.displayName := by
  cases linked with
  | none => exact .inr (.inl rfl)
  | some g => cases hsuits : use.suits g <;> simp [verdict, hsuits]

/-- The verdict is that a type is of the wrong use if it is neither a type nor that there is
none. -/
theorem verdict_mismatch_iff (linked : Option SchemaType) :
    verdict use field d linked = (use.demand field).refused use.mismatch d.displayName ↔
      (∀ g, verdict use field d linked ≠ .ok g) ∧
        verdict use field d linked ≠ (use.demand field).refused .unmapped d.displayName := by
  have hother := use.mismatch_ne_unmapped
  rcases verdict_cases use field linked (d := d) with ⟨g, h⟩ | h | h
  · simp [h, Demand.refused]
  · simp [h, Demand.refused, hother.symm]
  · simp [h, Demand.refused, hother]

/-- A type that is granted is what the hint resolves to. -/
theorem resolve_of_verdict {g : SchemaType}
    (hresolve : r.resolve d = .ok ((r.coreType d.core).map (.tower d.listDepth d.endsOptional)))
    (h : verdict use field d (r.coreType d.core) = .ok g) : r.resolve d = .ok (some g) := by
  rw [hresolve]
  cases hcore : r.coreType d.core with
  | none => rw [hcore] at h; cases h
  | some linked =>
    rw [hcore, verdict] at h
    split at h
    · obtain rfl := Except.ok.inj h
      rfl
    · cases h

/-- A field whose hint is admitted to the use comes to the verdict about the core. -/
theorem outcome_of_admitted
    (hresolve : r.resolve d = .ok ((r.coreType d.core).map (.tower d.listDepth d.endsOptional)))
    (hadmitted : (use.demand field).admission r d = .ok ()) :
    (use.demand field).outcome r d = verdict use field d (r.coreType d.core) := by
  rw [Demand.outcome, hadmitted, hresolve]
  cases r.coreType d.core with
  | none => rfl
  | some g =>
    change (use.demand field).selection _ (.tower _ _ g) = _
    rw [use.selection_demand, use.suits_tower]
    rfl

end Verdict

/-- How the core of a hint decides what a demand for an argument type comes to. -/
structure InputDecided (r : Registry) (d : TypeHint) (field : Option String)
    (outcome : Except AccessError SchemaType) : Prop where
  returns_iff : (∃ g, outcome = .ok g) ↔ d.core.IsReference ∨ r.LinkedFor .input d.core
  unmapped_iff : outcome = (Demand.input field).refused .unmapped d.displayName ↔
    r.Unlinked d.core
  notInput_iff : outcome = (Demand.input field).refused .notInput d.displayName ↔
    (∀ g, outcome ≠ .ok g) ∧
      outcome ≠ (Demand.input field).refused .unmapped d.displayName
  returns_resolved : ∀ g, outcome = .ok g → r.resolve d = .ok (some g)

/-- How the core of a hint decides what a demand for a result type comes to. -/
structure OutputDecided (r : Registry) (d : TypeHint) (field : Option String)
    (outcome : Except AccessError SchemaType) : Prop where
  returns_iff : (∃ g, outcome = .ok g) ↔
    (∃ target, d.core.classify = some ⟨.reference, target⟩ ∧
      target.isRepresentable (some r) = .ok true) ∨ r.LinkedFor .output d.core
  notRepresentable_iff :
    outcome = (Demand.output field).refused .notRepresentable d.displayName ↔
      (d.core.classify = none ∧ d.core.isRepresentable (some r) = .ok false) ∨
      ∃ target, d.core.classify = some ⟨.reference, target⟩ ∧
        target.isRepresentable (some r) = .ok false
  representable_of_linked : d.core.classify = none → ∀ g, r.lookup d.core = .ok (some g) →
    outcome ≠ (Demand.output field).refused .notRepresentable d.displayName
  unmapped_iff : outcome = (Demand.output field).refused .unmapped d.displayName ↔
    r.Unlinked d.core ∧ d.core.isRepresentable (some r) = .ok true
  notOutput_iff : outcome = (Demand.output field).refused .notOutput d.displayName ↔
    (∀ g, outcome ≠ .ok g) ∧
      outcome ≠ (Demand.output field).refused .notRepresentable d.displayName ∧
      outcome ≠ (Demand.output field).refused .unmapped d.displayName
  returns_resolved : ∀ g, outcome = .ok g → r.resolve d = .ok (some g)

section Decided

variable {r : Registry} {d : TypeHint} (field : Option String)

/-- A hint that resolves to a tower has its demand for an argument type decided by its core. -/
theorem inputDecided (hhash : d.destination.unhashable? = none)
    (hresolve : r.resolve d = .ok ((r.coreType d.core).map (.tower d.listDepth d.endsOptional))) :
    InputDecided r d field ((Demand.input field).outcome r d) := by
  have houtcome : (Demand.input field).outcome r d = verdict .input field d (r.coreType d.core) :=
    outcome_of_admitted .input field hresolve rfl
  rw [houtcome]
  exact
    { returns_iff := verdict_returns_iff .input field hhash
      unmapped_iff := verdict_unmapped_iff .input field hhash
      notInput_iff := verdict_mismatch_iff .input field (r.coreType d.core)
      returns_resolved := fun g h => resolve_of_verdict .input field hresolve h }

/-- The core of a hint is as representable as the hint. -/
theorem isRepresentable_core (registry : Option Registry) :
    d.core.isRepresentable registry = d.isRepresentable registry := by
  rw [isRepresentable_destination, destination_core, ← isRepresentable_destination]

/-- A reference is as representable as its target. -/
theorem isRepresentable_target {target : TypeHint}
    (h : d.core.classify = some ⟨.reference, target⟩) (registry : Option Registry) :
    target.isRepresentable registry = d.core.isRepresentable registry :=
  (isRepresentable_of_wrapper registry h).symm

/-- A leaf that is linked is representable. -/
theorem isRepresentable_of_linked {g : SchemaType} (hhash : d.destination.unhashable? = none)
    (hleaf : d.core.classify = none) (hlink : r.lookup d.core = .ok (some g)) :
    d.core.isRepresentable (some r) = .ok true := by
  have hget : r.get? d.destination = some g := by
    rw [← core_eq_destination hleaf]
    rwa [lookup_of_hashable r (hashable_core hhash hleaf), Except.ok.injEq] at hlink
  rw [isRepresentable_core, isRepresentable_eq, hhash, hget]
  simp

/-- A demand for a result type comes to the verdict about the core if the hint is representable. -/
theorem outcome_output {representable : Bool}
    (hresolve : r.resolve d = .ok ((r.coreType d.core).map (.tower d.listDepth d.endsOptional)))
    (hrepresentable : d.isRepresentable (some r) = .ok representable) :
    (Demand.output field).outcome r d =
      if representable then verdict .output field d (r.coreType d.core)
      else (Demand.output field).refused .notRepresentable d.displayName := by
  have hadmission : (Demand.output field).admission r d =
      (Demand.output field).requires representable .notRepresentable d.displayName := by
    rw [Demand.admission, hrepresentable]
    rfl
  cases representable with
  | true => exact outcome_of_admitted .output field hresolve hadmission
  | false =>
    rw [Demand.outcome, hadmission]
    rfl

/-- A hint that is not representable is refused as that, whatever its core is linked to. -/
theorem outputDecided_of_not_representable (hhash : d.destination.unhashable? = none)
    (hrepresentable : d.isRepresentable (some r) = .ok false) :
    OutputDecided r d field
      ((Demand.output field).refused .notRepresentable d.displayName) := by
  have hcore : d.core.isRepresentable (some r) = .ok false := by
    rw [isRepresentable_core, hrepresentable]
  have hunlinked (hleaf : d.core.classify = none) (g : SchemaType) :
      r.lookup d.core ≠ .ok (some g) := by
    intro hlink
    rw [isRepresentable_of_linked hhash hleaf hlink] at hcore
    cases hcore
  refine ⟨⟨nofun, ?_⟩, ⟨fun _ => ?_, fun _ => rfl⟩, fun hleaf g hlink => ?_, ⟨nofun, ?_⟩,
    ⟨nofun, fun h => absurd rfl h.2.1⟩, nofun⟩
  · rintro (⟨target, href, htarget⟩ | ⟨hleaf, g, hlink, -⟩)
    · rw [isRepresentable_target href, hcore] at htarget
      cases htarget
    · exact absurd hlink (hunlinked hleaf g)
  · rcases core_classify d with hleaf | ⟨target, href⟩
    · exact .inl ⟨hleaf, hcore⟩
    · exact .inr ⟨target, href, by rw [isRepresentable_target href, hcore]⟩
  · exact absurd hlink (hunlinked hleaf g)
  · rintro ⟨-, htrue⟩
    rw [hcore] at htrue
    cases htrue

/-- A hint that is representable comes to the verdict about its core. -/
theorem outputDecided_of_representable (hhash : d.destination.unhashable? = none)
    (hresolve : r.resolve d = .ok ((r.coreType d.core).map (.tower d.listDepth d.endsOptional)))
    (hrepresentable : d.isRepresentable (some r) = .ok true) :
    OutputDecided r d field (verdict .output field d (r.coreType d.core)) := by
  have hcore : d.core.isRepresentable (some r) = .ok true := by
    rw [isRepresentable_core, hrepresentable]
  have href_iff : d.core.IsReference ↔ ∃ target, d.core.classify = some ⟨.reference, target⟩ ∧
      target.isRepresentable (some r) = .ok true := by
    refine exists_congr fun target => ⟨fun href => ⟨href, ?_⟩, And.left⟩
    rw [isRepresentable_target href, hcore]
  have hother : verdict .output field d (r.coreType d.core) ≠
      (Demand.output field).refused .notRepresentable d.displayName := by
    rcases verdict_cases .output field (r.coreType d.core) (d := d) with ⟨g, h⟩ | h | h
    · rw [h]; nofun
    · rw [h]; nofun
    · rw [h]; nofun
  refine ⟨?_, ⟨fun h => absurd h hother, ?_⟩, fun _ _ _ => hother, ?_, ?_,
    fun g h => resolve_of_verdict .output field hresolve h⟩
  · rw [← href_iff]
    exact verdict_returns_iff .output field hhash
  · rintro (⟨-, hfalse⟩ | ⟨target, href, hfalse⟩)
    · rw [hcore] at hfalse
      cases hfalse
    · rw [isRepresentable_target href, hcore] at hfalse
      cases hfalse
  · rw [and_iff_left hcore]
    exact verdict_unmapped_iff .output field hhash
  · rw [and_iff_right hother]
    exact verdict_mismatch_iff .output field (r.coreType d.core)

end Decided

end Registry

namespace Session

/-- **The core of a hint decides what its field comes to.** On a strict registry that was reached by
a run, the demands for an argument type and for a result type of a hint whose leaf can be hashed
depend on its core as described, and give what the hint resolves to if they give anything. -/
theorem field_types_decided_by_core {s : Session} (hs : Registry.Reached true s.registry)
    {d : TypeHint} (hhash : d.destination.unhashable? = none) (field : Option String) :
    Registry.InputDecided s.registry d field (inputType d field s).1 ∧
      Registry.OutputDecided s.registry d field (outputType d field s).1 := by
  have hresolve := s.registry.resolve_eq_tower (t := d) fun hleaf =>
    ⟨Registry.hashable_core hhash hleaf, fun g => hs.safe.isNullable_of_get?⟩
  rw [inputType, outputType, (access_reads _ s.registry d s rfl).1,
    (access_reads _ s.registry d s rfl).1]
  refine ⟨Registry.inputDecided field hhash hresolve, ?_⟩
  obtain ⟨representable, hrepresentable⟩ :
      ∃ b, d.isRepresentable (some s.registry) = .ok b := by
    rw [isRepresentable_eq, hhash]
    exact ⟨_, rfl⟩
  rw [Registry.outcome_output field hresolve hrepresentable]
  cases representable with
  | true => exact Registry.outputDecided_of_representable field hhash hresolve hrepresentable
  | false => exact Registry.outputDecided_of_not_representable field hhash hrepresentable

/-- A date that is linked to an object type may be the result of a field, inside an optional list as
well, but not what the field is given. -/
theorem field_types_decided_by_core_date :
    let hint : TypeHint := .union .operator [.generic .builtin Class.Builtin.list
      [.annotated (.cls Class.Builtin.date) [.text "m"]], .noneType]
    let day : SchemaType := .named ⟨"Day", "Day", .object⟩
    let s : Session := { Session.new true 0 with
      registry := (Registry.new true).run [⟨.cls Class.Builtin.date, day⟩] }
    Registry.Reached true s.registry ∧ hint.destination.unhashable? = none ∧
      (inputType hint (some "day") s).1 =
        (Demand.input (some "day")).refused .notInput hint.displayName ∧
      ∃ g, (outputType hint (some "day") s).1 = .ok g ∧ s.registry.resolve hint = .ok (some g) := by
  intro hint day s
  have hreached : Registry.Reached true s.registry := ⟨_, rfl⟩
  have hint_optional : hint.classify = some ⟨.optional, .generic .builtin Class.Builtin.list
      [.annotated (.cls Class.Builtin.date) [.text "m"]]⟩ := rfl
  have optional_list : (TypeHint.generic .builtin Class.Builtin.list
      [.annotated (.cls Class.Builtin.date) [.text "m"]]).classify =
      some ⟨.list, .cls Class.Builtin.date⟩ := rfl
  have date_leaf : (TypeHint.cls Class.Builtin.date).classify = none := rfl
  have hcore : hint.core = .cls Class.Builtin.date := by
    rw [core_of_optional hint_optional, core_of_list optional_list, core_of_leaf date_leaf]
    rfl
  have hleaf : hint.core.classify = none := by rw [hcore, date_leaf]
  have hhash : hint.destination.unhashable? = none := by
    rw [← core_eq_destination hleaf, hcore]
    rfl
  have hlookup : s.registry.lookup hint.core = .ok (some day) := by
    rw [hcore]
    exact (Registry.new true).lookup_key_after ⟨.cls Class.Builtin.date, day⟩ rfl
  obtain ⟨hinput, houtput⟩ := field_types_decided_by_core hreached hhash (some "day")
  refine ⟨hreached, hhash, hinput.notInput_iff.mpr ⟨fun g hg => ?_, fun hunmapped => ?_⟩, ?_⟩
  · rcases hinput.returns_iff.mp ⟨g, hg⟩ with ⟨target, href⟩ | ⟨-, g', hlinked, hsuits⟩
    · rw [hleaf] at href
      cases href
    · obtain rfl : day = g' := Option.some.inj (Except.ok.inj (hlookup.symm.trans hlinked))
      cases hsuits
  · have hnone := (hinput.unmapped_iff.mp hunmapped).2
    rw [hlookup] at hnone
    cases hnone
  · obtain ⟨g, hg⟩ := houtput.returns_iff.mpr (.inr ⟨hleaf, day, hlookup, rfl⟩)
    exact ⟨g, hg, houtput.returns_resolved g hg⟩

end Session

end SchemaLink
