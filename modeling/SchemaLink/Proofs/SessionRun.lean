import Mathlib.Data.List.Basic
import Mathlib.Data.List.TakeWhile
import SchemaLink.Proofs.DemandOutcome
import SchemaLink.Proofs.LoadingModes
import SchemaLink.Session.Step

/-!
# The calls of a session

Only links and loadings change the registry of a session. A loading does so by the links of the
declarations that it works off, which in strict mode are those before the first bad one. Every step
therefore comes to a run of calls, and the registry of a session is after any steps what the calls
of these steps leave of it. Which calls these are depends on the registry only by its strictness, so
that they are known before the first step is taken.
-/

namespace SchemaLink

namespace Registry

/-- Calls never change the strictness of a registry. -/
@[simp] theorem run_strict (r : Registry) (calls : List LinkCall) :
    (r.run calls).strict = r.strict := by
  induction calls generalizing r with
  | nil => rfl
  | cons call rest ih => exact (ih (r.after call)).trans (r.after_strict call)

/-- Calls in two runs are calls in one. -/
theorem run_append (r : Registry) (calls calls' : List LinkCall) :
    r.run (calls ++ calls') = (r.run calls).run calls' := List.foldl_append

end Registry

namespace Installation

variable {i : Installation} {r : Registry} {config : LinkConfig}

/-- What the declarations of a configuration come to that are worked off: all of them, or in strict
mode those before the first bad one. -/
def worked (i : Installation) (r : Registry) (config : LinkConfig) : List LoadOutcome :=
  if config.strict then (i.outcomes r config.declarations).takeWhile (!·.isBad)
  else i.outcomes r config.declarations

/-- The declarations are all worked off if none of them ends the loading. -/
theorem worked_of_good
    (h : config.strict = true → ∀ o ∈ i.outcomes r config.declarations, o.isBad = false) :
    i.worked r config = i.outcomes r config.declarations := by
  rw [worked]
  split
  case isTrue hstrict =>
    rw [List.takeWhile_eq_self_iff]
    intro o ho
    simp [h hstrict o ho]
  case isFalse => rfl

/-- The items at the end of a configuration come to what they do on the registry that those before
them leave. -/
theorem outcomes_append (i : Installation) (r : Registry) (before rest : List Datum) :
    i.outcomes r (before ++ rest) =
      i.outcomes r before ++ i.outcomes (i.registryAfter r before) rest := by
  induction before generalizing r with
  | nil => rfl
  | cons d before ih => exact congrArg (i.outcome r d :: ·) (ih _)

/-- The first bad declaration of a strict configuration is not worked off, nor is any after it. -/
theorem worked_of_bad {before : List Datum} {d : Datum} (rest : List Datum) {e : LoadError}
    (hbefore : ∀ o ∈ i.outcomes r before, o.isBad = false)
    (hbad : i.outcome (i.registryAfter r before) d = .bad e) :
    i.worked r ⟨true, before ++ d :: rest⟩ = i.outcomes r before := by
  have hgood : ∀ o ∈ i.outcomes r before, (!o.isBad) = true := fun o ho => by simp [hbefore o ho]
  rw [worked, if_pos rfl, outcomes_append, List.takeWhile_append_of_pos hgood, outcomes, hbad]
  simp [LoadOutcome.isBad]

/-- The calls by which the declarations of a configuration are carried out. -/
def calls (i : Installation) (r : Registry) (config : LinkConfig) : List LinkCall :=
  (i.worked r config).filterMap LoadOutcome.call?

/-- Which calls are made depends on the registry only by its strictness. -/
theorem calls_congr (i : Installation) {r r' : Registry} (h : r.strict = r'.strict)
    (config : LinkConfig) : i.calls r config = i.calls r' config := by
  have houtcomes : i.outcomes r config.declarations = i.outcomes r' config.declarations := by
    rw [i.outcomes_eq_map, i.outcomes_eq_map]
    exact List.map_congr_left fun d _ => i.outcome_congr h d
  rw [calls, calls, worked, worked, houtcomes]

/-- Outcomes change a registry by their calls. -/
theorem foldl_apply_eq_run (r : Registry) (outcomes : List LoadOutcome) :
    outcomes.foldl LoadOutcome.apply r = r.run (outcomes.filterMap LoadOutcome.call?) := by
  induction outcomes generalizing r with
  | nil => rfl
  | cons o rest ih =>
    rw [List.foldl_cons, ih]
    cases o <;> rfl

end Installation

/-- The configuration that a loading finds. Where there is none, nothing is declared. -/
def LinkConfig.found (namer : Namer) (source : Source) : LinkConfig :=
  match namer, Session.readConfig source with
  | .nobody, _ => ⟨false, []⟩
  | _, .ok (some config) => config
  | _, _ => ⟨false, []⟩

section Found

variable {namer : Namer} {source : Source}

/-- A configuration that is read is found, if somebody names it. -/
theorem LinkConfig.found_of_some {config : LinkConfig} (hnamer : namer ≠ .nobody)
    (hconfig : Session.readConfig source = .ok (some config)) : found namer source = config := by
  cases namer with
  | nobody => exact absurd rfl hnamer
  | _ => simp only [found, hconfig]

/-- Nothing is declared if nobody names a configuration or none is read. -/
theorem LinkConfig.found_of_none (hnone : namer = .nobody ∨
    ∀ config, Session.readConfig source ≠ .ok (some config)) :
    found namer source = ⟨false, []⟩ := by
  unfold found
  split
  · rfl
  · next hnamer hconfig => exact absurd hconfig (hnone.resolve_left hnamer _)
  · rfl

end Found

namespace Action

variable {ε δ α β : Type} {act : Action ε α} {r left : Registry}

/-- From every session with the first registry, the action leaves the second one. -/
def Leaves (act : Action ε α) (r left : Registry) : Prop :=
  ∀ s : Session, s.registry = r → (act s).2.registry = left

/-- An action whose effect is known leaves its registry. -/
theorem Sends.leaves {result : Except ε α} {events : List Event}
    (h : act.Sends r result left events) : act.Leaves r left := by
  intro s hs
  rw [h s hs]
  rfl

/-- An action that only reads leaves the registry as it is. -/
theorem Reads.leaves {result : Except ε α} (h : act.Reads r result) : act.Leaves r r :=
  fun s hs => (h s hs).2

/-- The kind of a failure does not matter for what is left. -/
theorem Leaves.mapError (h : act.Leaves r left) (f : ε → δ) : (act.mapError f).Leaves r left := by
  intro s hs
  have hleft := h s hs
  rw [Action.mapError]
  cases hact : act s with
  | mk result t =>
    rw [hact] at hleft
    cases result <;> exact hleft

/-- What is made of a result does not matter for what is left. -/
theorem Leaves.map (h : act.Leaves r left) (f : α → β) :
    (do let a ← act; return f a).Leaves r left := by
  intro s hs
  have hleft := h s hs
  rw [bind_apply]
  cases hact : act s with
  | mk result t =>
    rw [hact] at hleft
    cases result <;> exact hleft

end Action

namespace Session

/-- A loading without a configuration gives nothing, or fails, and leaves the registry alone. -/
theorem load_sends_of_none (i : Installation) {namer : Namer} (path : String) {source : Source}
    (hnone : namer = .nobody ∨ ∀ config, readConfig source ≠ .ok (some config)) (r : Registry) :
    ∃ result events, (load i namer path source).Sends r result r events ∧
      ∀ n, result = .ok n → n = 0 := by
  have hzero (n : Nat) (hn : Except.ok (ε := LoadError) 0 = .ok n) : n = 0 :=
    (Except.ok.inj hn).symm
  have hskip : (skipLoading).Sends r (.ok 0) r _ :=
    (Action.sends_log _ r).bind (Action.sends_pure 0 r)
  have hread {k : Option LinkConfig → Action LoadError Nat} {events : List Event}
      (hnone : ∀ config, readConfig source ≠ .ok (some config))
      (hk : (k none).Sends r (.ok 0) r events) :
      ∃ result events, (Action.ofExcept (readConfig source) >>= k).Sends r result r events ∧
        ∀ n, result = .ok n → n = 0 := by
    cases hconfig : readConfig source with
    | error e =>
      exact ⟨_, _, (Action.sends_ofExcept _ r).bind_error _, fun n h => by cases h⟩
    | ok config? =>
      cases config? with
      | some config => exact absurd hconfig (hnone config)
      | none => exact ⟨_, _, (Action.sends_ofExcept _ r).bind hk, hzero⟩
  cases namer with
  | nobody => exact ⟨_, _, hskip, hzero⟩
  | caller => exact hread (hnone.resolve_left (by decide)) hskip
  | settings =>
    have hwarned : (do
        Action.log (loaderEvent .warning "Type links config path set but not found"
          [("path", .text path)])
        skipLoading).Sends r (.ok 0) r _ := (Action.sends_log _ r).bind hskip
    exact hread (hnone.resolve_left (by decide)) hwarned

/-- A loading with a configuration makes the links of the declarations that it works off. -/
theorem load_sends_of_some (i : Installation) {namer : Namer} (path : String) {source : Source}
    {config : LinkConfig} (hnamer : namer ≠ .nobody)
    (hconfig : readConfig source = .ok (some config)) (r : Registry) :
    ∃ result events,
      (load i namer path source).Sends r result ((i.worked r config).foldl LoadOutcome.apply r)
        events ∧
      ∀ n, result = .ok n → i.worked r config = i.outcomes r config.declarations ∧
        n = (i.outcomes r config.declarations).countP LoadOutcome.isLinked := by
  obtain ⟨strict, declarations⟩ := config
  by_cases hbad : strict = true ∧ ∃ d ∈ declarations, (i.outcome r d).isBad = true
  · obtain ⟨rfl, hbad⟩ := hbad
    obtain ⟨before, d, rest, e, rfl, hbefore, hd⟩ := exists_first_bad hbad
    obtain ⟨events, hsends⟩ := loadConfig_sends_error i r rest hbefore hd
    rw [Installation.worked_of_bad rest hbefore hd]
    exact ⟨_, _, load_sends path hnamer hconfig hsends, fun n h => by cases h⟩
  · have hgood : strict = true → ∀ o ∈ i.outcomes r declarations, o.isBad = false := by
      intro hstrict o ho
      rw [i.outcomes_eq_map] at ho
      obtain ⟨d, hd, rfl⟩ := List.mem_map.mp ho
      exact Bool.eq_false_iff.mpr fun h => hbad ⟨hstrict, d, hd, h⟩
    obtain ⟨events, hsends⟩ := load_sends_of_good i path hnamer hconfig r hgood
    rw [Installation.worked_of_good hgood]
    exact ⟨_, _, hsends, fun n hn => ⟨rfl, (Except.ok.inj hn).symm⟩⟩

/-- **A loading makes the links of the declarations that it works off.** If it succeeds, it has
worked off all of them, and gives the number of those that were carried out. -/
theorem load_sends_worked (i : Installation) (namer : Namer) (path : String) (source : Source)
    (r : Registry) :
    let config := LinkConfig.found namer source
    ∃ result events,
      (load i namer path source).Sends r result ((i.worked r config).foldl LoadOutcome.apply r)
        events ∧
      ∀ n, result = .ok n → i.worked r config = i.outcomes r config.declarations ∧
        n = (i.outcomes r config.declarations).countP LoadOutcome.isLinked := by
  intro config
  by_cases hsome : namer ≠ .nobody ∧ ∃ config, readConfig source = .ok (some config)
  · obtain ⟨hnamer, found, hconfig⟩ := hsome
    have hfound : config = found := LinkConfig.found_of_some hnamer hconfig
    rw [hfound]
    exact load_sends_of_some i path hnamer hconfig r
  · have hnone : namer = .nobody ∨ ∀ config, readConfig source ≠ .ok (some config) :=
      (not_and_or.mp hsome).imp not_not.mp not_exists.mp
    have hfound : config = ⟨false, []⟩ := LinkConfig.found_of_none hnone
    obtain ⟨result, events, hsends, hzero⟩ := load_sends_of_none i path hnone r
    rw [hfound]
    exact ⟨result, events, hsends, fun n hn => ⟨rfl, hzero n hn⟩⟩

end Session

/-- The calls that a step makes. -/
def Step.calls (r : Registry) : Step → List LinkCall
  | .link t target => [⟨t, target⟩]
  | .load i namer _ source => i.calls r (LinkConfig.found namer source)
  | _ => []

/-- Which calls a step makes depends on the registry only by its strictness. -/
theorem Step.calls_congr {r r' : Registry} (h : r.strict = r'.strict) (step : Step) :
    step.calls r = step.calls r' := by
  cases step with
  | load i namer path source => exact i.calls_congr h _
  | _ => rfl

namespace Session

/-- A step leaves what its calls leave of the registry. -/
theorem answer_leaves (step : Step) (r : Registry) :
    (answer step).Leaves r (r.run (step.calls r)) := by
  cases step with
  | link t target => exact ((link_sends r t target).leaves.mapError _).map _
  | load i namer path source =>
    obtain ⟨result, events, hsends, -⟩ := load_sends_worked i namer path source r
    rw [Installation.foldl_apply_eq_run] at hsends
    exact (hsends.leaves.mapError _).map _
  | access demand t => exact ((access_reads demand r t).leaves.mapError _).map _
  | resolveAndReplace t types =>
    rintro s rfl
    have hanswer : (answer (.resolveAndReplace t types) s).2 = s := by
      simp only [answer, Action.bind_apply, Action.registry]
      cases s.registry.resolve t with
      | error e => rfl
      | ok linked => cases linked <;> rfl
    rw [hanswer]
    rfl
  | _ => exact fun s hs => hs

/-- The session after some steps. -/
def through (s : Session) (steps : List Step) : Session :=
  steps.foldl (fun s step => (play step s).2) s

/-- The calls that the steps of a session make. -/
def callsMade (s : Session) (steps : List Step) : List LinkCall :=
  steps.flatMap (Step.calls s.registry)

/-- **The registry of a session is what the calls of its steps leave of it.** -/
theorem through_registry (s : Session) (steps : List Step) :
    (s.through steps).registry = s.registry.run (s.callsMade steps) := by
  induction steps generalizing s with
  | nil => rfl
  | cons step rest ih =>
    have hstep : (play step s).2.registry = s.registry.run (step.calls s.registry) :=
      answer_leaves step s.registry { s with journal := [] } rfl
    have hstrict : (play step s).2.registry.strict = s.registry.strict := by
      rw [hstep, Registry.run_strict]
    have hrest : (play step s).2.callsMade rest = s.callsMade rest :=
      List.flatMap_congr fun later _ => later.calls_congr hstrict
    calc
      _ = (play step s).2.registry.run ((play step s).2.callsMade rest) := ih _
      _ = s.registry.run (step.calls s.registry ++ s.callsMade rest) := by
        rw [hstep, hrest, Registry.run_append]

end Session

end SchemaLink
