import SchemaLink.Log.Configuration
import SchemaLink.Proofs.SessionRun

/-!
# The threshold of the log

A session sends its events without asking whether they are shown. The threshold decides about each
event on its own, after it was sent, so that neither the answers nor the other events depend on it.
No event of a session uses a key that the processors take for themselves; what is shown of it are
therefore its own keys and those of the scope in which it was sent.
-/

namespace SchemaLink

/-- No key of the event is one that the processors set or take away. -/
def Event.Unreserved (e : Event) : Prop :=
  ∀ key ∈ e.keys, key.1 ∉ LogConfiguration.reservedKeys

/-- The names of the keys decide whether an event leaves the reserved keys alone. -/
theorem Event.unreserved_of_names {e : Event} (names : List String)
    (h : e.keys.map Prod.fst = names)
    (hnames : ∀ name ∈ names, name ∉ LogConfiguration.reservedKeys) : e.Unreserved :=
  fun _ hkey => hnames _ (h ▸ List.mem_map_of_mem hkey)

namespace LogConfiguration

variable {c d : LogConfiguration} {scope : Scope} {e : Event}

/-- An event without reserved keys is shown with all its keys. -/
theorem shown?_of_unreserved (h : e.Unreserved) :
    c.shown? scope e = if c.threshold ≤ e.level.rank then some (scope.mark e) else none := by
  have hkeys : (e.keys.filter fun key => !reservedKeys.contains key.1) = e.keys := by
    rw [List.filter_eq_self]
    intro key hkey
    simpa using h key hkey
  rw [shown?, hkeys]

/-- A higher threshold shows those of the shown events that reach it. -/
theorem shown?_of_le (h : c.threshold ≤ d.threshold) :
    d.shown? scope e = (c.shown? scope e).filter fun e => d.threshold ≤ e.level.rank := by
  by_cases hd : d.threshold ≤ e.level.rank
  · have hc : c.threshold ≤ e.level.rank := h.trans hd
    simp [shown?, Scope.mark, hc, hd, Option.filter]
  · by_cases hc : c.threshold ≤ e.level.rank
    · simp [shown?, Scope.mark, hc, hd, Option.filter]
    · simp [shown?, hc, hd]

/-- What is shown of the events that are sent in their scopes. -/
def shownOf (c : LogConfiguration) (sent : List (Scope × Event)) : List Event :=
  sent.filterMap fun p => c.shown? p.1 p.2

/-- A higher threshold shows those of the shown events that reach it. -/
theorem shownOf_of_le (h : c.threshold ≤ d.threshold) (sent : List (Scope × Event)) :
    d.shownOf sent = (c.shownOf sent).filter fun e => d.threshold ≤ e.level.rank := by
  rw [shownOf, shownOf, List.filter_filterMap]
  congr 1
  funext p
  exact shown?_of_le h

end LogConfiguration

namespace Action

variable {ε δ α β : Type} {act : Action ε α} {r left : Registry} {scope : Scope}
  {result : Except ε α} {sent : List (Scope × Event)}

/-- What the action does is known from the registry, and its events leave the reserved keys
alone. -/
def Regular (act : Action ε α) : Prop :=
  ∀ r, ∃ result left events, act.Sends r result left events ∧ ∀ e ∈ events, e.Unreserved

section Regular

theorem regular_ofExcept (result : Except ε α) : (ofExcept result).Regular :=
  fun r => ⟨result, r, [], sends_ofExcept result r, nofun⟩

theorem regular_pure (a : α) : (pure a : Action ε α).Regular := regular_ofExcept (.ok a)

theorem regular_fail (e : ε) : (fail e : Action ε α).Regular := regular_ofExcept (.error e)

theorem regular_registry : (registry (ε := ε)).Regular :=
  fun r => ⟨.ok r, r, [], sends_registry r, nofun⟩

theorem regular_log {e : Event} (h : e.Unreserved) : (log (ε := ε) e).Regular :=
  fun r => ⟨.ok (), r, [e], sends_log e r, fun _ he => List.mem_singleton.mp he ▸ h⟩

/-- Two actions in a row are regular if both are. -/
theorem Regular.bind {k : α → Action ε β} (hact : act.Regular) (hk : ∀ a, (k a).Regular) :
    (act >>= k).Regular := by
  intro r
  obtain ⟨result, left, events, hsends, hevents⟩ := hact r
  cases result with
  | error e => exact ⟨.error e, left, events, hsends.bind_error k, hevents⟩
  | ok a =>
    obtain ⟨result', left', events', hsends', hevents'⟩ := hk a left
    refine ⟨result', left', events ++ events', hsends.bind hsends', fun e he => ?_⟩
    exact (List.mem_append.mp he).elim (hevents e) (hevents' e)

/-- The kind of a failure does not matter. -/
theorem Regular.mapError (h : act.Regular) (f : ε → δ) : (act.mapError f).Regular := by
  intro r
  obtain ⟨result, left, events, hsends, hevents⟩ := h r
  exact ⟨_, left, events, hsends.mapError f, hevents⟩

/-- An action that is attempted is regular if it is one. -/
theorem Regular.attempt (h : act.Regular) : (act.attempt (δ := δ)).Regular := by
  intro r
  obtain ⟨result, left, events, hsends, hevents⟩ := h r
  exact ⟨_, left, events, hsends.attempt, hevents⟩

end Regular

/-- From a registry and a scope, under every configuration and with every journal, the action gives
the result, leaves the second registry, and shows what the configuration shows of the events that it
sends. -/
def Emits (act : Action ε α) (r : Registry) (scope : Scope) (result : Except ε α)
    (left : Registry) (sent : List (Scope × Event)) : Prop :=
  ∀ (c : LogConfiguration) (journal : List Event), act ⟨r, scope, c.threshold, journal⟩ =
    (result, ⟨left, scope, c.threshold, journal ++ c.shownOf sent⟩)

section Emits

/-- An action that sends events without reserved keys emits them. -/
theorem Sends.emits {events : List Event} (h : act.Sends r result left events)
    (hevents : ∀ e ∈ events, e.Unreserved) :
    act.Emits r scope result left (events.map (scope, ·)) := by
  intro c journal
  have hshown : c.shownOf (events.map (scope, ·)) =
      Session.kept ⟨r, scope, c.threshold, journal⟩ events := by
    rw [LogConfiguration.shownOf, List.filterMap_map, Session.kept, ← List.filterMap_eq_filter,
      List.map_filterMap]
    refine List.filterMap_congr fun e he => ?_
    rw [Function.comp, LogConfiguration.shown?_of_unreserved (hevents e he)]
    by_cases hlevel : c.threshold ≤ e.level.rank
    · simp [hlevel, Option.guard]
    · simp [hlevel, Option.guard]
  rw [h _ rfl, hshown]
  rfl

/-- A regular action emits events. -/
theorem Regular.emits (h : act.Regular) (r : Registry) (scope : Scope) :
    ∃ result left sent, act.Emits r scope result left sent := by
  obtain ⟨result, left, events, hsends, hevents⟩ := h r
  exact ⟨result, left, _, hsends.emits hevents⟩

/-- An action that runs in a scope of its own emits there what it emits. -/
theorem Emits.within {inner : Scope} (h : act.Emits r inner result left sent) (scope : Scope) :
    (within inner act).Emits r scope result left sent := by
  intro c journal
  rw [Action.within, h]

/-- What is made of a result, or of a failure, does not matter for what is emitted. -/
theorem Emits.map (h : act.Emits r scope result left sent) (f : α → β) (g : ε → δ) :
    (do return f (← act.mapError g) : Action δ β).Emits r scope ((result.mapError g).map f) left
      sent := by
  intro c journal
  rw [bind_apply, mapError, h]
  cases result <;> rfl

end Emits

end Action

namespace Session

open SchemaLink.Action

/-- A source tells where it comes from by keys that are not reserved. -/
theorem origin_names {i : Installation} {d : Declaration} {source : LinkSource}
    (h : i.linkOf d = .ok source) :
    source.origin.map Prod.fst = ["type_path", "graphql_type_path"] ∨
      source.origin.map Prod.fst = ["entrypoint"] := by
  cases d with
  | paths hint target =>
    simp only [Installation.linkOf, Installation.linkOfPaths] at h
    repeat' split at h
    all_goals cases h
    exact .inl rfl
  | entryPoint name =>
    simp only [Installation.linkOf, Installation.linkOfEntryPoint] at h
    repeat' split at h
    all_goals cases h
    exact .inr rfl
  | _ => cases h

/-- A declaration that is carried out is recorded by keys that are not reserved. -/
theorem unreserved_registeredEvent {i : Installation} {d : Declaration} {source : LinkSource}
    (h : i.linkOf d = .ok source) : (registeredEvent source).Unreserved := by
  have hnames : (registeredEvent source).keys.map Prod.fst =
      ["type_name", "graphql_type"] ++ source.origin.map Prod.fst := List.map_append
  rcases origin_names h with horigin | horigin
  · exact Event.unreserved_of_names _ (hnames.trans (congrArg _ horigin)) (by decide)
  · exact Event.unreserved_of_names _ (hnames.trans (congrArg _ horigin)) (by decide)

/-- An event without keys leaves the reserved keys alone. -/
theorem unreserved_nil (level : Level) (text : String) : (loaderEvent level text []).Unreserved :=
  nofun

/-- A link sends a warning and a record at most. -/
theorem regular_link (t : TypeHint) (target : SchemaType) : (link t target).Regular := by
  refine fun r => ⟨_, _, _, link_sends r t target, fun e he => ?_⟩
  rcases eq_of_mem_linkEvents he with rfl | rfl
  · exact Event.unreserved_of_names ["type_name", "graphql_type"] rfl (by decide)
  · exact Event.unreserved_of_names ["type_name", "graphql_type", "replaced"] rfl (by decide)

/-- A declaration is carried out by a link, and is recorded with its origin. -/
theorem regular_carryOut (i : Installation) (d : Declaration) : (carryOut i d).Regular := by
  cases hsource : i.linkOf d with
  | error e => exact fun r => ⟨_, r, [], carryOut_sends_of_noSource hsource, nofun⟩
  | ok source =>
    have hlink := (regular_link source.hint source.target).mapError DeclarationError.linking
    have hcarried := hlink.bind fun _ => regular_log (unreserved_registeredEvent hsource)
    rw [carryOut, hsource]
    exact hcarried

/-- Giving up fails, or records the reason. -/
theorem regular_giveUp (strict : Bool) (e : LoadError) : (giveUp strict e).Regular := by
  cases strict with
  | true => exact regular_fail e
  | false => exact regular_log (unreserved_nil .error e.message)

theorem regular_loadOne (i : Installation) (strict : Bool) (d : Datum) :
    (loadOne i strict d).Regular := by
  have hgiveUp (e : LoadError) := (regular_giveUp strict e).bind fun _ => regular_pure false
  unfold loadOne
  split
  · exact hgiveUp _
  · exact regular_pure false
  · refine (regular_carryOut i _).attempt.bind fun result => ?_
    cases result with
    | ok _ => exact regular_pure true
    | error e => exact hgiveUp _

theorem regular_loadAll (i : Installation) (strict : Bool) (declarations : List Datum) :
    (loadAll i strict declarations).Regular := by
  induction declarations with
  | nil => exact regular_pure 0
  | cons d rest ih =>
    exact (regular_loadOne i strict d).bind fun _ => ih.bind fun _ => regular_pure _

theorem regular_skipLoading : skipLoading.Regular :=
  (regular_log (unreserved_nil _ _)).bind fun _ => regular_pure 0

theorem regular_loadConfig (i : Installation) (config : LinkConfig) :
    (loadConfig i config).Regular := by
  unfold loadConfig
  split
  · exact regular_skipLoading
  · refine (regular_loadAll i config.strict config.declarations).bind fun linked =>
      regular_registry.bind fun r => (regular_log ?_).bind fun _ => regular_pure linked
    exact Event.unreserved_of_names ["requested", "linked", "registered", "strict_mode"] rfl
      (by decide)

/-- A loading sends only events that leave the reserved keys alone. -/
theorem regular_load (i : Installation) (namer : Namer) (path : String) (source : Source) :
    (load i namer path source).Regular := by
  have hpath (level : Level) (text : String) :
      (loaderEvent level text [("path", .text path)]).Unreserved :=
    Event.unreserved_of_names ["path"] rfl (by decide)
  unfold load
  split
  · exact regular_skipLoading
  · refine (regular_ofExcept _).bind fun config? => ?_
    cases config? with
    | some config => exact (regular_log (hpath _ _)).bind fun _ => regular_loadConfig i config
    | none =>
      dsimp only
      split
      · exact (regular_log (hpath _ _)).bind fun _ => regular_skipLoading
      · exact (regular_pure ()).bind fun _ => regular_skipLoading

/-- A demand records its refusal at most. -/
theorem regular_meet (demand : Demand) (t : TypeHint) : (meet demand t).Regular := by
  refine fun r => ⟨_, r, _, meet_records demand r t, fun e he => ?_⟩
  obtain ⟨error, rfl⟩ := Demand.eq_record_of_mem_records he
  exact Event.unreserved_of_names ["error", "message"] rfl (by decide)

/-- What a step comes to, and the events that it sends in their scopes. -/
structure Sending where
  result : Except Failure Answer
  sent : List (Scope × Event)

/-- What is shown of a step under a configuration. -/
def Sending.record (c : LogConfiguration) (sending : Sending) : Record :=
  ⟨sending.result, c.shownOf sending.sent⟩

/-- A record without the events below a rank. -/
def Record.atLeast (n : Nat) (record : Record) : Record :=
  { record with events := record.events.filter fun e => n ≤ e.level.rank }

/-- A higher threshold shows of a step what is shown under a lower one, from the higher one on. -/
theorem Sending.record_of_le {c d : LogConfiguration} (h : c.threshold ≤ d.threshold)
    (sending : Sending) : sending.record d = (sending.record c).atLeast d.threshold :=
  congrArg (Record.mk sending.result) (LogConfiguration.shownOf_of_le h sending.sent)

/-- A question about the registry sends nothing. -/
theorem regular_ask {ε α : Type} (failure : ε → Failure) (answer : α → Answer)
    (question : Registry → Except ε α) : (ask failure answer question).Regular :=
  regular_registry.bind fun _ => regular_ofExcept _

/-- Whatever a step is, it emits events that depend on the registry and the scope alone. -/
theorem answer_emits (step : Step) (r : Registry) (scope : Scope) :
    ∃ result left sent, (answer step).Emits r scope result left sent := by
  have hregular (h : (answer step).Regular) := h.emits r scope
  cases step with
  | link t target =>
    exact hregular (((regular_link t target).mapError _).bind fun _ => regular_pure _)
  | load i namer path source =>
    exact hregular (((regular_load i namer path source).mapError _).bind fun _ => regular_pure _)
  | access demand t =>
    obtain ⟨result, left, sent, hemits⟩ := (regular_meet demand t).emits r
      ⟨some t.displayName, demand.field⟩
    exact ⟨_, left, sent, (hemits.within scope).map _ _⟩
  | resolveAndReplace t types =>
    refine hregular (regular_registry.bind fun r => ?_)
    match r.resolve t with
    | .error e => exact regular_fail _
    | .ok none => exact regular_pure _
    | .ok (some g) => exact regular_ofExcept _
  | resolve | lookup | contains | isRepresentable => exact hregular (regular_ask _ _ _)
  | types | size | isStrict => exact hregular (regular_registry.bind fun _ => regular_pure _)
  | replace | compare | compareTypes => exact hregular (regular_ofExcept _)
  | _ => exact hregular (regular_pure _)

/-- The session with the threshold of a configuration. -/
def under (s : Session) (c : LogConfiguration) : Session := { s with threshold := c.threshold }

/-- One step comes to the same, sends the same and leaves the same under all configurations. -/
theorem play_under (step : Step) (s : Session) : ∃ (sending : Sending) (t : Session),
    ∀ c, play step (s.under c) = (sending.record c, t.under c) := by
  obtain ⟨result, left, sent, hemits⟩ := answer_emits step s.registry s.scope
  refine ⟨⟨result, sent⟩, { s with registry := left, journal := [] }, fun c => ?_⟩
  have hanswer : answer step { s.under c with journal := [] } =
      (result, ⟨left, s.scope, c.threshold, c.shownOf sent⟩) := hemits c []
  rw [play, hanswer]
  rfl

/-- All steps come to the same, send the same and leave the same under all configurations. -/
theorem playAll_under (steps : List Step) (s : Session) :
    ∃ (sendings : List Sending) (t : Session), ∀ c,
      playAll steps (s.under c) = sendings.map (Sending.record c) ∧
      (s.under c).through steps = t.under c := by
  induction steps generalizing s with
  | nil => exact ⟨[], s, fun c => ⟨rfl, rfl⟩⟩
  | cons step rest ih =>
    obtain ⟨sending, next, hstep⟩ := play_under step s
    obtain ⟨sendings, t, hrest⟩ := ih next
    refine ⟨sending :: sendings, t, fun c => ?_⟩
    obtain ⟨hplayed, hthrough⟩ := hrest c
    constructor
    · rw [playAll, hstep c, hplayed, List.map_cons]
    · rw [← hthrough, through, List.foldl_cons, hstep c]
      rfl

/-- **The level of the log only filters.** Of two levels by name, the higher one shows of every step
of every session the events that the lower one shows and that reach the higher one, and no others,
with the same keys; the answers and failures of all steps, and the session after them, are the same.
Under every configuration, what is shown is what the processors show of events that are sent in any
case. -/
theorem level_only_filters {lower higher : String} {m n : Nat}
    (hlower : Level.threshold lower = .ok m) (hhigher : Level.threshold higher = .ok n)
    (hle : m ≤ n) (s : Session) (steps : List Step) :
    ∃ c d, LogConfiguration.make false lower = .ok c ∧
      LogConfiguration.make false higher = .ok d ∧
      playAll steps (s.under d) = (playAll steps (s.under c)).map (Record.atLeast n) ∧
      (s.under d).through steps = ((s.under c).through steps).under d ∧
      ∃ sendings : List Sending, ∀ c : LogConfiguration,
        playAll steps (s.under c) = sendings.map (Sending.record c) := by
  obtain ⟨sendings, t, hrun⟩ := playAll_under steps s
  refine ⟨⟨m, false⟩, ⟨n, false⟩, ?_, ?_, ?_, ?_, sendings, fun c => (hrun c).1⟩
  · simp [LogConfiguration.make, hlower, Except.map]
  · simp [LogConfiguration.make, hhigher, Except.map]
  · rw [(hrun _).1, (hrun _).1, List.map_map]
    exact List.map_congr_left fun sending _ => sending.record_of_le hle
  · rw [(hrun _).2, (hrun _).2]
    rfl

/-- A lenient link of a non-null type, which warns, and a refused demand, which is recorded for
debugging, show from the level of warnings on what reaches it. -/
theorem level_only_filters_lenient :
    let date : TypeHint := .cls Class.Builtin.date
    let steps : List Step :=
      [.link date (.nonNull (.named (.scalar "Date"))), .access (.input (some "f")) date]
    let s := new false Level.debug.rank
    Level.threshold "debug" = .ok 10 ∧ Level.threshold "Warn" = .ok 30 ∧ 10 ≤ 30 ∧
      playAll steps (s.under ⟨30, false⟩) =
        (playAll steps (s.under ⟨10, false⟩)).map (Record.atLeast 30) := by
  intro date steps s
  have hlower : Level.threshold "debug" = .ok 10 := by decide +kernel
  have hhigher : Level.threshold "Warn" = .ok 30 := by decide +kernel
  obtain ⟨c, d, hc, hd, hshown, -⟩ :=
    level_only_filters hlower hhigher (by decide) s steps
  rw [LogConfiguration.make, hlower] at hc
  rw [LogConfiguration.make, hhigher] at hd
  obtain rfl := Except.ok.inj hc
  obtain rfl := Except.ok.inj hd
  exact ⟨hlower, hhigher, by decide, hshown⟩

end Session

end SchemaLink
