import SchemaLink.Proofs.HintOutline
import SchemaLink.Proofs.SessionAdvance
import SchemaLink.Session.Access

/-!
# What demands come to

A demand only reads the registry of a session: what it comes to depends on the registry and the hint
alone, and the registry stays as it is. It is met in three parts. The hint is admitted, which only
demands for output and for an interface may refuse, a schema type is found for it, and what is
demanded is selected from that type. Each part records its refusals, and sends nothing else.
-/

namespace SchemaLink

/-- The failure of a demand whose hint cannot be resolved. -/
def AccessError.ofResolve : ResolveError → AccessError
  | .unhashable container => .unhashable container
  | .listElement typeName => .mapping (.listElement typeName)

namespace Demand

/-- The demand is refused. -/
def refused {α : Type} (demand : Demand) (refusal : Refusal) (typeName : String) :
    Except AccessError α :=
  .error (.mapping (.refused demand refusal typeName))

/-- The demand is refused unless a condition holds. -/
def requires (demand : Demand) (condition : Bool) (refusal : Refusal) (typeName : String) :
    Except AccessError Unit :=
  if condition then .ok () else demand.refused refusal typeName

/-- Whether a hint may be put to the demanded use at all. -/
def admission (demand : Demand) (r : Registry) (t : TypeHint) : Except AccessError Unit :=
  match demand with
  | .output _ =>
    ((t.isRepresentable (some r)).mapError .unhashable).bind fun representable =>
      demand.requires representable .notRepresentable t.displayName
  | .interface => demand.requires t.isProtocol .notProtocol t.displayName
  | _ => .ok ()

/-- What resolving a hint gives to the demand, which takes nothing for an answer. -/
def found (demand : Demand) (typeName : String) :
    Except ResolveError (Option SchemaType) → Except AccessError SchemaType
  | .error (.unhashable container) => .error (.unhashable container)
  | .error (.listElement listName) => .error (.mapping (.listElement listName))
  | .ok none => demand.refused .unmapped typeName
  | .ok (some g) => .ok g

/-- The type inside a non-null layer, if it is of the demanded kind. -/
def layered (demand : Demand) (kind : NamedKind) (otherwise : Refusal) (typeName : String) :
    SchemaType → Except AccessError SchemaType
  | .nonNull of => (demand.requires (of.hasKind kind) otherwise typeName).bind fun _ => .ok of
  | _ => demand.refused .nullable typeName

/-- What is demanded of a schema type. -/
def selection (demand : Demand) (typeName : String) (g : SchemaType) :
    Except AccessError SchemaType :=
  match demand with
  | .output _ => (demand.requires g.isOutputOrDeferred .notOutput typeName).bind fun _ => .ok g
  | .input _ => (demand.requires g.isInputOrDeferred .notInput typeName).bind fun _ => .ok g
  | .named => (demand.requires g.innermost.isNamed .notNamed typeName).bind fun _ =>
    .ok g.innermost
  | .interface => demand.layered .interface .notInterface typeName g
  | .object => demand.layered .object .notObject typeName g

/-- What the demand comes to with the links of a registry. -/
def outcome (demand : Demand) (r : Registry) (t : TypeHint) : Except AccessError SchemaType :=
  (demand.admission r t).bind fun _ =>
    (demand.found t.displayName (r.resolve t)).bind (demand.selection t.displayName)

section Bind

variable {ε α β : Type} {x : Except ε α} {f : α → Except ε β}

/-- Two steps in a row succeed if the first one does, and the second one after what it gives. -/
theorem bind_eq_ok_iff {b : β} : x.bind f = .ok b ↔ ∃ a, x = .ok a ∧ f a = .ok b := by
  cases x <;> simp [Except.bind]

/-- Two steps in a row fail if the first one does, or the second one after what the first gives. -/
theorem bind_eq_error_iff {e : ε} :
    x.bind f = .error e ↔ x = .error e ∨ ∃ a, x = .ok a ∧ f a = .error e := by
  cases x <;> simp [Except.bind]

end Bind

section Failures

variable {demand : Demand} {r : Registry} {t : TypeHint} {typeName : String}

/-- A condition that is required makes a demand be refused, if anything. -/
theorem eq_refused_of_requires {condition : Bool} {refusal : Refusal} {e : AccessError}
    (h : demand.requires condition refusal typeName = .error e) :
    e = .mapping (.refused demand refusal typeName) := by
  cases condition with
  | true => cases h
  | false => exact (Except.error.inj h).symm

/-- Selecting from a schema type what is demanded makes the demand be refused, if anything. -/
theorem exists_refused_of_selection {g : SchemaType} {e : AccessError}
    (h : demand.selection typeName g = .error e) :
    ∃ refusal, e = .mapping (.refused demand refusal typeName) := by
  have hrequired {condition : Bool} {refusal : Refusal} {g : SchemaType}
      (h : ((demand.requires condition refusal typeName).bind fun _ => .ok g) = .error e) :
      ∃ refusal, e = .mapping (.refused demand refusal typeName) := by
    rcases bind_eq_error_iff.mp h with h | ⟨-, -, h⟩
    · exact ⟨refusal, eq_refused_of_requires h⟩
    · cases h
  have hlayered {kind : NamedKind} {otherwise : Refusal}
      (h : demand.layered kind otherwise typeName g = .error e) :
      ∃ refusal, e = .mapping (.refused demand refusal typeName) := by
    cases g with
    | nonNull of => exact hrequired h
    | _ => exact ⟨.nullable, (Except.error.inj h).symm⟩
  cases demand with
  | interface => exact hlayered h
  | object => exact hlayered h
  | _ => exact hrequired h

/-- What is found fails as the resolution does exactly where it does. -/
theorem found_eq_ofResolve_iff {x : Except ResolveError (Option SchemaType)} {e : ResolveError} :
    demand.found typeName x = .error (.ofResolve e) ↔ x = .error e := by
  match x with
  | .error (.unhashable _) => cases e <;> simp [found, AccessError.ofResolve]
  | .error (.listElement _) => cases e <;> simp [found, AccessError.ofResolve]
  | .ok none => cases e <;> simp [found, refused, AccessError.ofResolve]
  | .ok (some _) => simp [found]

/-- A demand fails as a resolution does if its admission or, once it is admitted, the resolution
does. -/
theorem outcome_eq_ofResolve_iff {e : ResolveError} :
    demand.outcome r t = .error (.ofResolve e) ↔
      demand.admission r t = .error (.ofResolve e) ∨
        demand.admission r t = .ok () ∧ r.resolve t = .error e := by
  have hselection : ¬ ∃ g, demand.found t.displayName (r.resolve t) = .ok g ∧
      demand.selection t.displayName g = .error (.ofResolve e) := by
    rintro ⟨g, -, h⟩
    obtain ⟨refusal, h⟩ := exists_refused_of_selection h
    cases e <;> cases h
  rw [outcome, bind_eq_error_iff, bind_eq_error_iff, or_iff_left hselection,
    found_eq_ofResolve_iff]
  refine or_congr_right ⟨?_, fun h => ⟨(), h⟩⟩
  rintro ⟨_, h⟩
  exact h

end Failures

section Kinds

variable {demand : Demand} {t u : TypeHint}

/-- Steps in a row fail alike if each of them does. -/
theorem mapError_bind_congr {ε δ α β : Type} {f : ε → δ} {x y : Except ε α}
    {k l : α → Except ε β} (h : x.mapError f = y.mapError f)
    (hk : ∀ a, (k a).mapError f = (l a).mapError f) :
    (x.bind k).mapError f = (y.bind l).mapError f := by
  cases x with
  | error e =>
    cases y with
    | error e' => exact congrArg Except.error (Except.error.inj h)
    | ok b => cases h
  | ok a =>
    cases y with
    | error e' => cases h
    | ok b =>
      obtain rfl := Except.ok.inj h
      exact hk a

/-- A required condition is refused alike whatever the hint is called. -/
theorem requires_kind (condition : Bool) (refusal : Refusal) (m n : String) :
    (demand.requires condition refusal m).mapError AccessError.kindName =
      (demand.requires condition refusal n).mapError AccessError.kindName := by
  cases condition <;> rfl

/-- The type inside a non-null layer is refused alike whatever the hint is called. -/
theorem layered_kind (kind : NamedKind) (otherwise : Refusal) (m n : String) (g : SchemaType) :
    (demand.layered kind otherwise m g).mapError AccessError.kindName =
      (demand.layered kind otherwise n g).mapError AccessError.kindName := by
  cases g with
  | nonNull of => exact mapError_bind_congr (requires_kind _ _ _ _) fun _ => rfl
  | _ => rfl

/-- A selection is refused alike whatever the hint is called. -/
theorem selection_kind (m n : String) (g : SchemaType) :
    (demand.selection m g).mapError AccessError.kindName =
      (demand.selection n g).mapError AccessError.kindName := by
  cases demand with
  | interface => exact layered_kind _ _ _ _ g
  | object => exact layered_kind _ _ _ _ g
  | _ => exact mapError_bind_congr (requires_kind _ _ _ _) fun _ => rfl

/-- What is found fails alike if the resolutions do, whatever the hints are called. -/
theorem found_kind (m n : String) {x y : Except ResolveError (Option SchemaType)}
    (h : x.mapError ResolveError.kindName = y.mapError ResolveError.kindName) :
    (demand.found m x).mapError AccessError.kindName =
      (demand.found n y).mapError AccessError.kindName := by
  have hfound (name : String) (x : Except ResolveError (Option SchemaType)) :
      (demand.found name x).mapError AccessError.kindName =
        (x.mapError ResolveError.kindName).bind fun linked =>
          (demand.found m (.ok linked)).mapError AccessError.kindName := by
    match x with
    | .error (.unhashable _) => rfl
    | .error (.listElement _) => rfl
    | .ok none => rfl
    | .ok (some _) => rfl
  rw [hfound, hfound, h]

/-- Hints of one outline are admitted alike. -/
theorem admission_kind (r : Registry) (h : t.outline = u.outline) :
    (demand.admission r t).mapError AccessError.kindName =
      (demand.admission r u).mapError AccessError.kindName := by
  cases demand with
  | output field =>
    rw [admission, admission, TypeHint.isRepresentable_congr (some r) h]
    exact mapError_bind_congr rfl fun _ => requires_kind _ _ _ _
  | interface =>
    rw [admission, admission, TypeHint.isProtocol_congr h]
    exact requires_kind _ _ _ _
  | _ => rfl

/-- Under every demand, hints of one outline come to the same but for the names in errors. -/
theorem outcome_congr (demand : Demand) (r : Registry) (h : t.outline = u.outline) :
    (demand.outcome r t).mapError AccessError.kindName =
      (demand.outcome r u).mapError AccessError.kindName :=
  mapError_bind_congr (admission_kind r h) fun _ =>
    mapError_bind_congr (found_kind _ _ (r.resolve_congr h)) (selection_kind _ _)

end Kinds

end Demand

/-- The record of a demand that is not met. -/
def MappingError.record (e : MappingError) : Event :=
  { level := .debug, logger := Session.accessLogger, text := "Type mapping failed"
    keys := [("error", .text e.kindName), ("message", .text e.message)] }

/-- The records of a failure: a refusal is recorded, and nothing else is. -/
def AccessError.records : AccessError → List Event
  | .mapping (.refused demand refusal typeName) =>
    [(MappingError.refused demand refusal typeName).record]
  | _ => []

/-- The records of what a demand comes to. -/
def Demand.records {α : Type} : Except AccessError α → List Event
  | .ok _ => []
  | .error e => e.records

/-- Only errors of mapping are recorded. -/
theorem Demand.eq_record_of_mem_records {α : Type} {result : Except AccessError α} {e : Event}
    (h : e ∈ records result) : ∃ error : MappingError, e = error.record := by
  match result with
  | .ok _ => cases h
  | .error (.unhashable _) => cases h
  | .error (.mapping (.listElement _)) => cases h
  | .error (.mapping (.refused _ _ _)) => exact ⟨_, List.mem_singleton.mp h⟩

namespace Action

section Reads

variable {ε α : Type} {act : Action ε α} {r : Registry} {result : Except ε α}

/-- From every session with the registry, the action gives the result and keeps the registry. -/
def Reads (act : Action ε α) (r : Registry) (result : Except ε α) : Prop :=
  ∀ s : Session, s.registry = r → (act s).1 = result ∧ (act s).2.registry = r

/-- An action that leaves the registry as it is only reads it. -/
theorem Sends.reads {events : List Event} (h : act.Sends r result r events) :
    act.Reads r result := by
  intro s hs
  rw [h s hs]
  exact ⟨rfl, rfl⟩

/-- A scope does not matter for what an action reads. -/
theorem Reads.within (hact : act.Reads r result) (scope : Scope) :
    (within scope act).Reads r result := fun s hs => hact { s with scope } hs

end Reads

section Records

variable {α β : Type} {act : Action AccessError α} {r : Registry} {result : Except AccessError α}

/-- From every session with the registry, the action gives the result, keeps the registry and sends
the records of the result. -/
def Records (act : Action AccessError α) (r : Registry) (result : Except AccessError α) : Prop :=
  act.Sends r result r (Demand.records result)

/-- Two actions in a row record if the first one does, and the second one after what it gives. -/
theorem Records.bind {k : α → Action AccessError β} {f : α → Except AccessError β}
    (hact : act.Records r result) (hk : ∀ a, result = .ok a → (k a).Records r (f a)) :
    (act >>= k).Records r (result.bind f) := by
  cases result with
  | ok a => exact Sends.bind hact (hk a rfl)
  | error e => exact Sends.bind_error hact k

end Records

end Action

namespace Session

variable (demand : Demand) (r : Registry)

/-- A refusal fails and is recorded. -/
theorem refuse_records {α : Type} (refusal : Refusal) (typeName : String) :
    (refuse (α := α) demand refusal typeName).Records r (demand.refused refusal typeName) :=
  (Action.sends_log _ r).bind (k := fun _ => Action.fail _) (Action.sends_fail _ r)

/-- A condition is required as it stands. -/
theorem require_records (condition : Bool) (refusal : Refusal) (typeName : String) :
    (require condition demand refusal typeName).Records r
      (demand.requires condition refusal typeName) := by
  cases condition with
  | true => exact Action.sends_pure () r
  | false => exact refuse_records demand r refusal typeName

/-- The registry is read without a record. -/
theorem registry_records : (Action.registry (ε := AccessError)).Records r (.ok r) :=
  Action.sends_registry r

/-- A type is found as it is resolved. -/
theorem resolved_records (t : TypeHint) :
    (resolved demand t).Records r (demand.found t.displayName (r.resolve t)) := by
  refine (registry_records r).bind (f := fun r => demand.found _ (r.resolve t)) ?_
  rintro _ ⟨⟩
  match r.resolve t with
  | .error (.unhashable container) => exact Action.sends_fail _ r
  | .error (.listElement typeName) => exact Action.sends_fail _ r
  | .ok none => exact refuse_records demand r .unmapped t.displayName
  | .ok (some g) => exact Action.sends_pure g r

/-- Whether a hint is representable is read from the registry. -/
theorem representable_records (t : TypeHint) :
    (representable t).Records r ((t.isRepresentable (some r)).mapError .unhashable) := by
  refine (registry_records r).bind
    (f := fun r => (t.isRepresentable (some r)).mapError AccessError.unhashable) ?_
  rintro _ ⟨⟩
  cases t.isRepresentable (some r) with
  | error container => exact Action.sends_fail _ r
  | ok b => exact Action.sends_pure b r

/-- The type inside a non-null layer is taken if it is of the demanded kind. -/
theorem layered_records (kind : NamedKind) (otherwise : Refusal) (t : TypeHint) (g : SchemaType) :
    (layered demand kind otherwise t g).Records r
      (demand.layered kind otherwise t.displayName g) := by
  cases g with
  | nonNull of =>
    exact (require_records demand r _ otherwise _).bind fun _ _ => Action.sends_pure of r
  | _ => exact refuse_records demand r .nullable t.displayName

/-- A demand without a scope comes to its outcome and records it. -/
theorem meet_records (t : TypeHint) : (meet demand t).Records r (demand.outcome r t) := by
  have select (condition : Bool) (refusal : Refusal) (g : SchemaType) :=
    (require_records demand r condition refusal t.displayName).bind (f := fun _ => .ok g)
      fun _ _ => Action.sends_pure g r
  have hfound := resolved_records demand r t
  cases demand with
  | output field =>
    have hread := (representable_records r t).bind fun b _ => (require_records (.output field) r b
      .notRepresentable t.displayName).bind fun _ _ => hfound.bind fun g _ =>
        select g.isOutputOrDeferred .notOutput g
    rw [Demand.outcome, Demand.admission]
    cases hrepresentable : t.isRepresentable (some r) with
    | error container => rwa [hrepresentable] at hread
    | ok b => rwa [hrepresentable] at hread
  | input field => exact hfound.bind fun g _ => select _ _ g
  | named => exact hfound.bind fun g _ => select _ _ g.innermost
  | interface =>
    exact (require_records _ r _ _ _).bind fun _ _ =>
      hfound.bind fun g _ => layered_records _ r _ _ t g
  | object => exact hfound.bind fun g _ => layered_records _ r _ _ t g

/-- **A demand comes to its outcome**, whatever the scope and the journal, and leaves the registry
as it is. -/
theorem access_reads (t : TypeHint) : (access demand t).Reads r (demand.outcome r t) :=
  Action.Reads.within (meet_records demand r t).reads _

/-- What a demand comes to in a session is its outcome with the registry of the session. -/
theorem access_eq_outcome (demand : Demand) (t : TypeHint) (s : Session) :
    (access demand t s).1 = demand.outcome s.registry t :=
  (access_reads demand s.registry t s rfl).1

end Session

end SchemaLink
