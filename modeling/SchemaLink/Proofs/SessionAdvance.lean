import SchemaLink.Proofs.LinkRun
import SchemaLink.Session.Basic

/-!
# How actions advance a session

Whatever an action does, it leaves the scope and the threshold of a session as they are. It may set
another registry, and it sends events, of which those that reach the threshold go to the end of the
journal. What an action gives and sends depends on the registry that it starts from and on nothing
else of the session, so that it is described by its result, the registry that it leaves and its
events. Two actions in a row send the events of both.
-/

namespace SchemaLink

namespace Session

/-- The events that a session keeps of those that are sent to it, marked with its scope. -/
def kept (s : Session) (events : List Event) : List Event :=
  (events.filter fun e => s.threshold ≤ e.level.rank).map s.scope.mark

/-- The session with another registry, after some events were sent to it. -/
def advance (s : Session) (r : Registry) (events : List Event) : Session :=
  { s with registry := r, journal := s.journal ++ s.kept events }

/-- A session that keeps its registry and is sent nothing stays as it is. -/
@[simp] theorem advance_nil (s : Session) : s.advance s.registry [] = s := by
  simp [advance, kept]

/-- What is kept of two lists of events is kept of each. -/
theorem kept_append (s : Session) (events events' : List Event) :
    s.kept (events ++ events') = s.kept events ++ s.kept events' := by
  simp [kept]

/-- A session that advances twice has been sent the events of both times. -/
@[simp] theorem advance_advance (s : Session) (r r' : Registry) (events events' : List Event) :
    (s.advance r events).advance r' events' = s.advance r' (events ++ events') := by
  simp only [advance, kept_append, List.append_assoc]
  rfl

end Session

namespace Action

variable {ε δ α β : Type}

/-- From every session with the first registry, the action gives the result, leaves the second
registry and sends the events. -/
def Sends (act : Action ε α) (r : Registry) (result : Except ε α) (left : Registry)
    (events : List Event) : Prop :=
  ∀ s : Session, s.registry = r → act s = (result, s.advance left events)

section Combinators

variable {act : Action ε α} {r r' r'' : Registry} {events events' : List Event}

/-- A result that is known already sends nothing. -/
theorem sends_ofExcept (result : Except ε α) (r : Registry) :
    (ofExcept result).Sends r result r [] := by
  rintro s rfl
  simp [ofExcept]

/-- A result without an action sends nothing. -/
theorem sends_pure (a : α) (r : Registry) : (pure a : Action ε α).Sends r (.ok a) r [] :=
  sends_ofExcept (.ok a) r

/-- A failure sends nothing. -/
theorem sends_fail (e : ε) (r : Registry) : (fail e : Action ε α).Sends r (.error e) r [] :=
  sends_ofExcept (.error e) r

/-- Asking for the registry sends nothing. -/
theorem sends_registry (r : Registry) : (registry (ε := ε)).Sends r (.ok r) r [] := by
  rintro s rfl
  simp [registry]

/-- Setting the registry sends nothing. -/
theorem sends_setRegistry (r r' : Registry) :
    (setRegistry (ε := ε) r').Sends r (.ok ()) r' [] := by
  rintro s rfl
  simp [setRegistry, Session.advance, Session.kept]

/-- A logged event is sent. -/
theorem sends_log (e : Event) (r : Registry) : (log (ε := ε) e).Sends r (.ok ()) r [e] := by
  rintro s rfl
  simp only [log, Session.advance, Session.kept, List.filter_cons, List.filter_nil]
  by_cases h : s.threshold ≤ e.level.rank
  · simp [h]
  · simp [h]

/-- After a first action that succeeds comes the second one. -/
theorem Sends.bind {a : α} {k : α → Action ε β} {result : Except ε β}
    (hact : act.Sends r (.ok a) r' events) (hk : (k a).Sends r' result r'' events') :
    (act >>= k).Sends r result r'' (events ++ events') := by
  intro s hs
  rw [bind_apply, hact s hs]
  change k a (s.advance r' events) = _
  rw [hk _ rfl, Session.advance_advance]

/-- After a first action that fails comes nothing. -/
theorem Sends.bind_error {e : ε} (hact : act.Sends r (.error e) r' events)
    (k : α → Action ε β) : (act >>= k).Sends r (.error e) r' events := by
  intro s hs
  rw [bind_apply, hact s hs]

/-- What is made of the result of an action sends nothing. -/
theorem Sends.map {result : Except ε α} (hact : act.Sends r result r' events) (f : α → β) :
    (do let a ← act; return f a).Sends r (result.map f) r' events := by
  intro s hs
  rw [bind_apply, hact s hs]
  cases result <;> rfl

/-- A failure that is seen as one of another kind comes with the same events. -/
theorem Sends.mapError {result : Except ε α} (hact : act.Sends r result r' events) (f : ε → δ) :
    (act.mapError f).Sends r (result.mapError f) r' events := by
  intro s hs
  rw [Action.mapError, hact s hs]
  cases result <;> rfl

/-- An action that is attempted succeeds with its result or failure. -/
theorem Sends.attempt {result : Except ε α} (hact : act.Sends r result r' events) :
    (act.attempt (δ := δ)).Sends r (.ok result) r' events := by
  intro s hs
  rw [Action.attempt, hact s hs]

end Combinators

end Action

namespace Session

/-- The warning about a type that a lenient registry links although it cannot stand inside a
non-null layer. -/
def linkWarning (t : TypeHint) (target : SchemaType) : Event :=
  { level := .warning, logger := registryLogger
    text := notNullableMessage t.displayName target
    keys := [("type_name", .text t.displayName), ("graphql_type", .text target.text)] }

/-- The record of a link that is made, with the type that it replaces. -/
def linkRecord (r : Registry) (t : TypeHint) (target : SchemaType) : Event :=
  { level := .debug, logger := registryLogger, text := "Linked type"
    keys :=
      [ ("type_name", .text t.displayName), ("graphql_type", .text target.text),
        ("replaced", match r.get? t.stripAnnotated with
          | some earlier => .text earlier.text
          | none => .null) ] }

/-- The events of a call: there may be a warning although the link is refused afterwards. -/
def linkEvents (r : Registry) (t : TypeHint) (target : SchemaType) : List Event :=
  if t.isVoid then []
  else
    (if target.isType && !target.isNullable && !r.strict then [linkWarning t target] else []) ++
      match r.link t target with
      | .ok _ => [linkRecord r t target]
      | .error _ => []

/-- The events of a call are the warning about its type and the record of the link. -/
theorem eq_of_mem_linkEvents {r : Registry} {t : TypeHint} {target : SchemaType} {e : Event}
    (h : e ∈ linkEvents r t target) : e = linkWarning t target ∨ e = linkRecord r t target := by
  unfold linkEvents at h
  split at h
  · cases h
  · rcases List.mem_append.mp h with hwarning | hrecord
    · split at hwarning
      · exact .inl (List.mem_singleton.mp hwarning)
      · cases hwarning
    · split at hrecord
      · exact .inr (List.mem_singleton.mp hrecord)
      · cases hrecord

/-- Only the logger of the registry sends events about a call, and none of them is an error. -/
theorem mem_linkEvents {r : Registry} {t : TypeHint} {target : SchemaType} {e : Event}
    (h : e ∈ linkEvents r t target) : e.logger = registryLogger ∧ e.level ≠ .error := by
  rcases eq_of_mem_linkEvents h with rfl | rfl
  · exact ⟨rfl, nofun⟩
  · exact ⟨rfl, nofun⟩

/-- The last part of a link sets the registry and logs that, if the link is not refused. -/
private theorem sends_setLinked (r : Registry) (linked : Except LinkError Registry) (e : Event) :
    (do Action.setRegistry (← Action.ofExcept linked); Action.log e).Sends r
      (linked.map fun _ => ())
      (match linked with
        | .ok r' => r'
        | .error _ => r)
      (match linked with
        | .ok _ => [e]
        | .error _ => []) := by
  cases linked with
  | error refusal => exact (Action.sends_ofExcept _ r).bind_error _
  | ok r' =>
    exact (Action.sends_ofExcept _ r).bind
      ((Action.sends_setRegistry r r').bind (k := fun _ => Action.log e)
        (Action.sends_log e r'))

/-- A link in a session succeeds as it does on the registry, and leaves what the call leaves of the
registry. -/
theorem link_sends (r : Registry) (t : TypeHint) (target : SchemaType) :
    (link t target).Sends r ((r.link t target).map fun _ => ()) (r.after ⟨t, target⟩)
      (linkEvents r t target) := by
  cases hvoid : t.isVoid with
  | true =>
    have hlink : r.link t target = .ok r := by simp [Registry.link, hvoid]
    simp only [link, linkEvents, hvoid, if_true, Registry.after, hlink]
    exact Action.sends_pure () r
  | false =>
    have hset := sends_setLinked r (r.link t target) (linkRecord r t target)
    simp only [link, linkEvents, hvoid, Bool.false_eq_true, if_false]
    refine (Action.sends_registry r).bind ?_
    split
    · exact (Action.sends_log (linkWarning t target) r).bind hset
    · exact hset

end Session

end SchemaLink
