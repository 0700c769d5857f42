import SchemaLink.Proofs.SessionRun

/-!
# Steps that only ask

Of all steps, only links and loadings write. A step that asks leaves the registry as it was, and
every step leaves the scope as it was, also when it fails while a hint is being resolved. What a
step shows depends on nothing else of the session, so that the steps that ask may be left out of a
session without any other step showing something different.
-/

namespace SchemaLink

/-- Whether a step only asks. Links and loadings write. -/
def Step.isRead : Step → Bool
  | .link _ _ | .load _ _ _ _ => false
  | _ => true

/-- A step that only asks makes no call. -/
theorem Step.calls_of_isRead {step : Step} (h : step.isRead = true) (r : Registry) :
    step.calls r = [] := by
  cases step with
  | link t target => cases h
  | load i namer path source => cases h
  | _ => rfl

namespace Action

variable {ε δ α β : Type} {act : Action ε α}

/-- However the action ends, the scope and the threshold of the session are what they were. -/
def KeepsScope (act : Action ε α) : Prop :=
  ∀ s : Session, (act s).2.scope = s.scope ∧ (act s).2.threshold = s.threshold

/-- An action whose effect on every registry is known keeps the scope. -/
theorem keepsScope_of_sends (h : ∀ r, ∃ result left events, act.Sends r result left events) :
    act.KeepsScope := by
  intro s
  obtain ⟨result, left, events, hsends⟩ := h s.registry
  rw [hsends s rfl]
  exact ⟨rfl, rfl⟩

/-- The kind of a failure does not matter for the scope. -/
theorem KeepsScope.mapError (h : act.KeepsScope) (f : ε → δ) : (act.mapError f).KeepsScope := by
  intro s
  have hkept := h s
  rw [Action.mapError]
  cases hact : act s with
  | mk result t =>
    rw [hact] at hkept
    cases result <;> exact hkept

/-- What is made of a result does not matter for the scope. -/
theorem KeepsScope.map (h : act.KeepsScope) (f : α → β) :
    (do let a ← act; return f a).KeepsScope := by
  intro s
  have hkept := h s
  rw [bind_apply]
  cases hact : act s with
  | mk result t =>
    rw [hact] at hkept
    cases result <;> exact hkept

/-- An action that runs in a scope of its own keeps the scope around it. -/
theorem KeepsScope.within (h : act.KeepsScope) (scope : Scope) :
    (within scope act).KeepsScope := fun s => ⟨rfl, (h { s with scope }).2⟩

end Action

namespace Session

/-- No step changes the scope, whether it has an answer or fails. -/
theorem answer_keepsScope (step : Step) : (answer step).KeepsScope := by
  cases step with
  | link t target =>
    have hlink := Action.keepsScope_of_sends fun r => ⟨_, _, _, link_sends r t target⟩
    exact (hlink.mapError _).map _
  | load i namer path source =>
    have hload : (load i namer path source).KeepsScope := Action.keepsScope_of_sends fun r => by
      obtain ⟨result, events, hsends, -⟩ := load_sends_worked i namer path source r
      exact ⟨result, _, events, hsends⟩
    exact (hload.mapError _).map _
  | access demand t =>
    have hmeet := Action.keepsScope_of_sends fun r => ⟨_, _, _, meet_records demand r t⟩
    exact ((hmeet.within _).mapError _).map _
  | resolveAndReplace t types =>
    intro s
    simp only [answer, Action.bind_apply, Action.registry]
    cases s.registry.resolve t with
    | error e => exact ⟨rfl, rfl⟩
    | ok linked => cases linked <;> exact ⟨rfl, rfl⟩
  | _ => exact fun s => ⟨rfl, rfl⟩

/-- A step that only asks leaves the registry as it was. -/
theorem answer_registry_of_isRead {step : Step} (h : step.isRead = true) (s : Session) :
    (answer step s).2.registry = s.registry := by
  rw [answer_leaves step s.registry s rfl, step.calls_of_isRead h]
  rfl

/-- The session with its journal emptied. -/
def cleared (s : Session) : Session := { s with journal := [] }

/-- A step that only asks leaves the session as it was, but for the journal. -/
theorem play_of_isRead {step : Step} (h : step.isRead = true) (s : Session) :
    (play step s).2 = s.cleared := by
  have hregistry := answer_registry_of_isRead h s.cleared
  obtain ⟨hscope, hthreshold⟩ := answer_keepsScope step s.cleared
  change (answer step s.cleared).2.cleared = s.cleared
  rw [cleared, hregistry, hscope, hthreshold]
  rfl

/-- What steps show does not depend on the journal before them. -/
theorem playAll_cleared (steps : List Step) (s : Session) :
    playAll steps s.cleared = playAll steps s := by
  cases steps <;> rfl

/-- What steps leave of a session does not depend on the journal before them. -/
theorem through_cleared (steps : List Step) (s : Session) :
    (s.cleared.through steps).cleared = (s.through steps).cleared := by
  cases steps <;> rfl

/-- The items of a list at the chosen places. -/
def pick {α : Type} (chosen : Nat → Bool) : List α → List α
  | [] => []
  | x :: xs =>
    let rest := pick (fun i => chosen (i + 1)) xs
    if chosen 0 then x :: rest else rest

/-- Only steps that ask are left out by the choice. -/
def LeavesOutReads (chosen : Nat → Bool) (steps : List Step) : Prop :=
  ∀ i step, steps[i]? = some step → chosen i = false → step.isRead = true

/-- A choice that leaves out only steps that ask does so among the later steps. -/
theorem LeavesOutReads.tail {chosen : Nat → Bool} {step : Step} {rest : List Step}
    (h : LeavesOutReads chosen (step :: rest)) :
    LeavesOutReads (fun i => chosen (i + 1)) rest :=
  fun i later hlater => h (i + 1) later hlater

/-- The chosen steps show what they show among all steps. -/
theorem playAll_pick {chosen : Nat → Bool} {steps : List Step}
    (h : LeavesOutReads chosen steps) (s : Session) :
    playAll (pick chosen steps) s = pick chosen (playAll steps s) := by
  induction steps generalizing s chosen with
  | nil => rfl
  | cons step rest ih =>
    have hrest := ih h.tail (play step s).2
    cases hfirst : chosen 0 with
    | true => simp only [pick, hfirst, if_true, playAll, hrest]
    | false =>
      -- The step that is left out leaves the session as the next one finds it.
      have hleft := play_of_isRead (h 0 step rfl hfirst) s
      rw [hleft, playAll_cleared, playAll_cleared] at hrest
      simp only [pick, hfirst, Bool.false_eq_true, if_false, playAll, hleft, playAll_cleared,
        hrest]

/-- The chosen steps leave of a session what all steps leave of it, but for the journal. -/
theorem through_pick {chosen : Nat → Bool} {steps : List Step}
    (h : LeavesOutReads chosen steps) (s : Session) :
    (s.through (pick chosen steps)).cleared = (s.through steps).cleared := by
  induction steps generalizing s chosen with
  | nil => rfl
  | cons step rest ih =>
    have hrest := ih h.tail (play step s).2
    change _ = ((play step s).2.through rest).cleared
    cases hfirst : chosen 0 with
    | true =>
      rw [pick, hfirst, if_pos rfl]
      exact hrest
    | false =>
      have hleft := play_of_isRead (h 0 step rfl hfirst) s
      rw [hleft, through_cleared, through_cleared] at hrest
      rw [pick, hfirst, if_neg Bool.false_ne_true, hleft, through_cleared]
      exact hrest

/-- **Reads leave nothing behind.** Whether a step has an answer or fails, the scope and the
threshold of the session are what they were, and so is the registry unless the step links or loads.
If only steps that ask are left out of a session, every other step has the same answer, or the same
failure, with the same events, and the session ends as it would with all steps. -/
theorem reads_leave_nothing_behind (s : Session) :
    (∀ step : Step, (answer step s).2.scope = s.scope ∧
      (answer step s).2.threshold = s.threshold ∧
      (step.isRead = true → (answer step s).2.registry = s.registry)) ∧
    ∀ (chosen : Nat → Bool) (steps : List Step), LeavesOutReads chosen steps →
      playAll (pick chosen steps) s = pick chosen (playAll steps s) ∧
      (s.through (pick chosen steps)).cleared = (s.through steps).cleared := by
  refine ⟨fun step => ?_, fun chosen steps h => ⟨playAll_pick h s, through_pick h s⟩⟩
  obtain ⟨hscope, hthreshold⟩ := answer_keepsScope step s
  exact ⟨hscope, hthreshold, fun h => answer_registry_of_isRead h s⟩

/-- A refused demand and a lookup that fails may be left out before a link and a resolution. -/
theorem reads_leave_nothing_behind_refused :
    let date : TypeHint := .cls Class.Builtin.date
    let s := new true Level.debug.rank
    let asked : List Step := [.access (.input (some "f")) date, .lookup (.tuple [.list 0 []])]
    let linked : List Step := [.link date (.named (.scalar "Date")), .resolve date]
    LeavesOutReads (fun i => decide (2 ≤ i)) (asked ++ linked) ∧
      playAll linked s = (playAll (asked ++ linked) s).drop 2 ∧
      (s.through linked).registry = (s.through (asked ++ linked)).registry := by
  intro date s asked linked
  have hreads : LeavesOutReads (fun i => decide (2 ≤ i)) (asked ++ linked) := by
    intro i step hstep hleft
    match i with
    | 0 =>
      obtain rfl := Option.some.inj hstep
      rfl
    | 1 =>
      obtain rfl := Option.some.inj hstep
      rfl
    | i + 2 => simp at hleft
  obtain ⟨hshown, hsession⟩ := (reads_leave_nothing_behind s).2 _ _ hreads
  exact ⟨hreads, hshown, congrArg Session.registry hsession⟩

end Session

end SchemaLink
