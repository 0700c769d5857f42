import SchemaLink.Proofs.SessionAdvance
import SchemaLink.Session.Loading

/-!
# Runs of declarations

A declaration is carried out, is switched off, or is bad, and which of these it is depends on the
declaration, the installation and the registry at its turn. Working off one declaration follows its
outcome: a declaration that is carried out makes its link and is recorded, one that is switched off
leaves no trace, and a bad one leaves the registry alone and is either recorded as an error or ends
the loading. A whole run follows the outcomes one after the other, up to the end or to the first bad
declaration that ends it.
-/

namespace SchemaLink

/-- What a declaration comes to. -/
inductive LoadOutcome where
  /-- The declaration is carried out. -/
  | linked (source : LinkSource)
  | disabled
  /-- The declaration gives no link, for a reason. -/
  | bad (e : LoadError)

namespace LoadOutcome

/-- Whether the declaration is carried out. -/
def isLinked : LoadOutcome → Bool
  | .linked _ => true
  | _ => false

/-- Whether the declaration is switched off. -/
def isDisabled : LoadOutcome → Bool
  | .disabled => true
  | _ => false

/-- Whether the declaration is bad. -/
def isBad : LoadOutcome → Bool
  | .bad _ => true
  | _ => false

/-- The call that carries out the declaration. -/
def call? : LoadOutcome → Option LinkCall
  | .linked source => some ⟨source.hint, source.target⟩
  | _ => none

/-- The registry after the declaration. -/
def apply (r : Registry) : LoadOutcome → Registry
  | .linked source => r.after ⟨source.hint, source.target⟩
  | _ => r

/-- Whether the declaration was carried out, or the failure that ends a strict loading. -/
def result (strict : Bool) : LoadOutcome → Except LoadError Bool
  | .linked _ => .ok true
  | .disabled => .ok false
  | .bad e => if strict then .error e else .ok false

/-- A declaration that does not end the loading was carried out or was not. -/
theorem result_eq {strict : Bool} {o : LoadOutcome} (h : strict = true → o.isBad = false) :
    o.result strict = .ok o.isLinked := by
  cases o with
  | linked source => rfl
  | disabled => rfl
  | bad e =>
    cases strict with
    | true => exact absurd (h rfl) nofun
    | false => rfl

end LoadOutcome

namespace Installation

/-- What a declaration comes to that is a mapping and not switched off. -/
def enabledOutcome (i : Installation) (r : Registry) (declaration : Declaration) : LoadOutcome :=
  match i.linkOf declaration with
  | .error e => .bad (.declaration e)
  | .ok source =>
    match r.link source.hint source.target with
    | .error e => .bad (.declaration (.linking e))
    | .ok _ => .linked source

section EnabledOutcome

variable {i : Installation} {r : Registry} {declaration : Declaration} {source : LinkSource}

/-- A declaration without a source is bad. -/
theorem enabledOutcome_of_noSource {e : DeclarationError} (h : i.linkOf declaration = .error e) :
    i.enabledOutcome r declaration = .bad (.declaration e) := by
  simp [enabledOutcome, h]

/-- A declaration whose link is refused is bad. -/
theorem enabledOutcome_of_refused (hsource : i.linkOf declaration = .ok source) {e : LinkError}
    (hlink : r.link source.hint source.target = .error e) :
    i.enabledOutcome r declaration = .bad (.declaration (.linking e)) := by
  simp [enabledOutcome, hsource, hlink]

/-- A declaration whose link is made is carried out. -/
theorem enabledOutcome_of_linked (hsource : i.linkOf declaration = .ok source) {linked : Registry}
    (hlink : r.link source.hint source.target = .ok linked) :
    i.enabledOutcome r declaration = .linked source := by
  simp [enabledOutcome, hsource, hlink]

end EnabledOutcome

/-- What an item of a configuration comes to on a registry. -/
def outcome (i : Installation) (r : Registry) (d : Datum) : LoadOutcome :=
  match d with
  | .map _ _ =>
    if Declaration.isOff (d.get? "enabled") then .disabled
    else i.enabledOutcome r (Declaration.ofDatum d)
  | _ => .bad (.malformed d.typeName)

/-- What the items of a configuration come to, each on the registry that those before it leave. -/
def outcomes (i : Installation) : Registry → List Datum → List LoadOutcome
  | _, [] => []
  | r, d :: rest => i.outcome r d :: i.outcomes ((i.outcome r d).apply r) rest

/-- The registry after the items of a configuration, none of which ends the loading. -/
def registryAfter (i : Installation) (r : Registry) (declarations : List Datum) : Registry :=
  (i.outcomes r declarations).foldl LoadOutcome.apply r

/-- The calls of the declarations that are carried out, in order. -/
def callsMade (i : Installation) (r : Registry) (declarations : List Datum) : List LinkCall :=
  (i.outcomes r declarations).filterMap LoadOutcome.call?

/-- A declaration is carried out if it is a mapping that is not switched off, its objects are found,
and its link succeeds. -/
theorem outcome_eq_linked_iff {i : Installation} {r : Registry} {d : Datum} {source : LinkSource} :
    i.outcome r d = .linked source ↔
      (∃ keys values, d = .map keys values) ∧ Declaration.isOff (d.get? "enabled") = false ∧
        i.linkOf (Declaration.ofDatum d) = .ok source ∧
          ∃ linked, r.link source.hint source.target = .ok linked := by
  cases d with
  | map keys values =>
    rw [outcome]
    cases Declaration.isOff ((Datum.map keys values).get? "enabled") with
    | true => simp
    | false =>
      cases hsource : i.linkOf (Declaration.ofDatum (.map keys values)) with
      | error e => simp [enabledOutcome, hsource]
      | ok found =>
        cases hlink : r.link found.hint found.target with
        | error e =>
          rw [if_neg Bool.false_ne_true, enabledOutcome_of_refused hsource hlink]
          constructor
          · exact nofun
          · rintro ⟨-, -, ⟨⟩, linked, hlinked⟩
            exact absurd (hlink.symm.trans hlinked) nofun
        | ok linked =>
          rw [if_neg Bool.false_ne_true, enabledOutcome_of_linked hsource hlink]
          constructor
          · rintro ⟨⟩
            exact ⟨⟨keys, values, rfl⟩, rfl, rfl, linked, hlink⟩
          · rintro ⟨-, -, ⟨⟩, -⟩
            rfl
  | _ => simp [outcome]

/-- A declaration is bad if it is no mapping, or if it is one that is not switched off and its
objects are not found or its link is refused. -/
theorem isBad_outcome_iff {i : Installation} {r : Registry} {d : Datum} :
    (i.outcome r d).isBad = true ↔
      (∀ keys values, d ≠ .map keys values) ∨
        Declaration.isOff (d.get? "enabled") = false ∧
          ∀ source, i.linkOf (Declaration.ofDatum d) = .ok source →
            ∃ e, r.link source.hint source.target = .error e := by
  cases d with
  | map keys values =>
    rw [outcome]
    cases Declaration.isOff ((Datum.map keys values).get? "enabled") with
    | true => simp [LoadOutcome.isBad]
    | false =>
      cases hsource : i.linkOf (Declaration.ofDatum (.map keys values)) with
      | error e => simp [enabledOutcome, hsource, LoadOutcome.isBad]
      | ok found =>
        cases hlink : r.link found.hint found.target with
        | error e => simp [enabledOutcome, hsource, hlink, LoadOutcome.isBad]
        | ok linked => simp [enabledOutcome, hsource, hlink, LoadOutcome.isBad]
  | _ => simp [outcome, LoadOutcome.isBad]

/-- A declaration is carried out only if its link succeeds. -/
theorem link_of_outcome_eq_linked {i : Installation} {r : Registry} {d : Datum}
    {source : LinkSource} (h : i.outcome r d = .linked source) :
    r.link source.hint source.target = .ok (r.after ⟨source.hint, source.target⟩) := by
  obtain ⟨-, -, -, linked, hlink⟩ := outcome_eq_linked_iff.mp h
  rw [Registry.after, hlink]

/-- The registry after the items of a configuration is reached by linking once, in order, for each
declaration that is carried out, and every one of these links succeeds. -/
theorem foldlM_link_callsMade (i : Installation) (r : Registry) (declarations : List Datum) :
    (i.callsMade r declarations).foldlM (fun r call => r.link call.hint call.target) r =
      .ok (i.registryAfter r declarations) := by
  induction declarations generalizing r with
  | nil => rfl
  | cons d rest ih =>
    have hrest := ih ((i.outcome r d).apply r)
    rw [callsMade, outcomes, List.filterMap_cons]
    change _ = Except.ok (i.registryAfter ((i.outcome r d).apply r) rest)
    rw [← hrest]
    cases ho : i.outcome r d with
    | linked source =>
      rw [LoadOutcome.call?, List.foldlM_cons, link_of_outcome_eq_linked ho]
      rfl
    | disabled => rfl
    | bad e => rfl

end Installation

namespace Session

/-- The record of a declaration that is carried out. -/
def registeredEvent (source : LinkSource) : Event :=
  loaderEvent .info "Registered type link"
    ([("type_name", .text source.hint.displayName), ("graphql_type", .text source.target.text)]
      ++ source.origin)

/-- The record of a loading that comes to its end. -/
def completeEvent (requested linked registered : Nat) (strict : Bool) : Event :=
  loaderEvent .info "Type link loading complete"
    [ ("requested", .int requested), ("linked", .int linked), ("registered", .int registered),
      ("strict_mode", .bool strict) ]

/-- The record of a declaration. There is none of a declaration that is switched off, or of one that
ends a strict loading. -/
def outcomeEvents (strict : Bool) : LoadOutcome → List Event
  | .linked source => [registeredEvent source]
  | .disabled => []
  | .bad e => if strict then [] else [loaderEvent .error e.message []]

/-- Among some events, those of loading are the given ones, and no other one is an error. -/
structure Reports (own events : List Event) : Prop where
  filter_eq : events.filter (fun e => e.logger = loaderLogger) = own
  not_error : ∀ e ∈ events, e.logger ≠ loaderLogger → e.level ≠ .error

/-- No events report nothing. -/
theorem reports_nil : Reports [] [] := ⟨rfl, by simp⟩

/-- An event of loading reports itself. -/
theorem reports_loaderEvent (level : Level) (text : String) (keys : List (String × Datum)) :
    Reports [loaderEvent level text keys] [loaderEvent level text keys] :=
  ⟨by simp [loaderEvent], by simp [loaderEvent]⟩

/-- The events of a link report nothing about loading. -/
theorem reports_linkEvents (r : Registry) (t : TypeHint) (target : SchemaType) :
    Reports [] (linkEvents r t target) where
  filter_eq := by
    rw [List.filter_eq_nil_iff]
    intro e he
    rw [(mem_linkEvents he).1]
    decide
  not_error e he _ := (mem_linkEvents he).2

/-- Events in a row report what each of them reports. -/
theorem Reports.append {own own' events events' : List Event} (h : Reports own events)
    (h' : Reports own' events') : Reports (own ++ own') (events ++ events') where
  filter_eq := by rw [List.filter_append, h.filter_eq, h'.filter_eq]
  not_error e he := by
    rcases List.mem_append.mp he with he | he
    · exact h.not_error e he
    · exact h'.not_error e he

section OneDeclaration

variable {i : Installation} {r : Registry} {declaration : Declaration} {source : LinkSource}

/-- A declaration without a source fails before anything is linked. -/
theorem carryOut_sends_of_noSource {e : DeclarationError} (h : i.linkOf declaration = .error e) :
    (carryOut i declaration).Sends r (.error e) r [] := by
  rw [carryOut, h]
  exact (Action.sends_ofExcept _ r).bind_error _

/-- A declaration whose link is refused leaves the registry alone. -/
theorem carryOut_sends_of_refused (hsource : i.linkOf declaration = .ok source) {e : LinkError}
    (hlink : r.link source.hint source.target = .error e) :
    (carryOut i declaration).Sends r (.error (.linking e)) r
      (linkEvents r source.hint source.target) := by
  have hsends := (link_sends r source.hint source.target).mapError DeclarationError.linking
  rw [Registry.after, hlink] at hsends
  rw [carryOut, hsource]
  exact (Action.sends_ofExcept _ r).bind (hsends.bind_error _)

/-- A declaration whose link is made is recorded after the link. -/
theorem carryOut_sends_of_linked (hsource : i.linkOf declaration = .ok source) {linked : Registry}
    (hlink : r.link source.hint source.target = .ok linked) :
    (carryOut i declaration).Sends r (.ok ()) (r.after ⟨source.hint, source.target⟩)
      (linkEvents r source.hint source.target ++ [registeredEvent source]) := by
  have hsends := (link_sends r source.hint source.target).mapError DeclarationError.linking
  rw [hlink] at hsends
  rw [carryOut, hsource]
  exact (Action.sends_ofExcept _ r).bind (hsends.bind (Action.sends_log _ _))

end OneDeclaration

/-- Giving up on a declaration leaves the registry alone. It ends a strict loading, and else it is
recorded. -/
theorem giveUp_sends (strict : Bool) (e : LoadError) (r : Registry) :
    (do giveUp strict e; return false).Sends r ((LoadOutcome.bad e).result strict) r
      (outcomeEvents strict (.bad e)) := by
  cases strict with
  | true => exact (Action.sends_fail e r).bind_error _
  | false => exact (Action.sends_log _ r).bind (Action.sends_pure false r)

/-- Every outcome is reported by its record. -/
theorem reports_outcome (strict : Bool) (o : LoadOutcome) :
    Reports (outcomeEvents strict o) (outcomeEvents strict o) := by
  cases o with
  | linked source => exact reports_loaderEvent _ _ _
  | disabled => exact reports_nil
  | bad e =>
    cases strict with
    | true => exact reports_nil
    | false => exact reports_loaderEvent _ _ _

/-- A declaration that is a mapping and not switched off is worked off as it comes out. -/
theorem attempt_sends (i : Installation) (strict : Bool) (r : Registry)
    (declaration : Declaration) :
    ∃ events,
      (do
        match ← (carryOut i declaration).attempt with
        | .ok () => return true
        | .error e =>
          giveUp strict (.declaration e)
          return false).Sends r ((i.enabledOutcome r declaration).result strict)
        ((i.enabledOutcome r declaration).apply r) events ∧
      Reports (outcomeEvents strict (i.enabledOutcome r declaration)) events := by
  cases hsource : i.linkOf declaration with
  | error e =>
    have hfails := (carryOut_sends_of_noSource (r := r) hsource).attempt (δ := LoadError)
    rw [Installation.enabledOutcome_of_noSource hsource]
    exact ⟨_, hfails.bind (giveUp_sends strict (.declaration e) r), reports_outcome strict _⟩
  | ok source =>
    have hlinking := reports_linkEvents r source.hint source.target
    cases hlink : r.link source.hint source.target with
    | error e =>
      have hfails := (carryOut_sends_of_refused hsource hlink).attempt (δ := LoadError)
      rw [Installation.enabledOutcome_of_refused hsource hlink]
      have hreports := hlinking.append (reports_outcome strict (.bad (.declaration (.linking e))))
      exact ⟨_, hfails.bind (giveUp_sends strict (.declaration (.linking e)) r), hreports⟩
    | ok linked =>
      have hmade := (carryOut_sends_of_linked hsource hlink).attempt (δ := LoadError)
      rw [Installation.enabledOutcome_of_linked hsource hlink]
      refine ⟨_, hmade.bind (Action.sends_pure true _), ?_⟩
      rw [List.append_nil]
      exact hlinking.append (reports_outcome strict (.linked source))

/-- A mapping that is not switched off is neither malformed nor disabled. -/
theorem ofDatum_of_enabled {keys values : List Datum}
    (hoff : Declaration.isOff ((Datum.map keys values).get? "enabled") = false) :
    (∀ typeName, Declaration.ofDatum (.map keys values) ≠ .malformed typeName) ∧
      Declaration.ofDatum (.map keys values) ≠ .disabled := by
  simp only [Declaration.ofDatum, hoff, Bool.false_eq_true, if_false]
  split
  · exact ⟨fun _ => nofun, nofun⟩
  · exact ⟨fun _ => nofun, nofun⟩
  · exact ⟨fun _ => nofun, nofun⟩

/-- One declaration is worked off as it comes out. -/
theorem loadOne_sends (i : Installation) (strict : Bool) (r : Registry) (d : Datum) :
    ∃ events, (loadOne i strict d).Sends r ((i.outcome r d).result strict)
        ((i.outcome r d).apply r) events ∧
      Reports (outcomeEvents strict (i.outcome r d)) events := by
  cases d with
  | map keys values =>
    cases hoff : Declaration.isOff ((Datum.map keys values).get? "enabled") with
    | true =>
      simp only [loadOne, Installation.outcome, Declaration.ofDatum, hoff, if_true]
      exact ⟨[], Action.sends_pure false r, reports_nil⟩
    | false =>
      obtain ⟨hmalformed, hdisabled⟩ := ofDatum_of_enabled hoff
      simp only [Installation.outcome, hoff, Bool.false_eq_true, if_false]
      unfold loadOne
      split
      · next typeName heq => exact absurd heq (hmalformed typeName)
      · next heq => exact absurd heq hdisabled
      · exact attempt_sends i strict r (Declaration.ofDatum (.map keys values))
  | _ => exact ⟨_, giveUp_sends strict _ r, reports_outcome strict _⟩

/-- Declarations of which none ends the loading are all worked off, and those that are carried out
are counted. -/
theorem loadAll_sends (i : Installation) (strict : Bool) (r : Registry) (declarations : List Datum)
    (h : strict = true → ∀ o ∈ i.outcomes r declarations, o.isBad = false) :
    ∃ events, (loadAll i strict declarations).Sends r
        (.ok ((i.outcomes r declarations).countP LoadOutcome.isLinked))
        (i.registryAfter r declarations) events ∧
      Reports ((i.outcomes r declarations).flatMap (outcomeEvents strict)) events := by
  induction declarations generalizing r with
  | nil => exact ⟨[], Action.sends_pure 0 r, reports_nil⟩
  | cons d rest ih =>
    have hfirst : strict = true → (i.outcome r d).isBad = false :=
      fun hstrict => h hstrict _ List.mem_cons_self
    obtain ⟨events, hsends, hreports⟩ := loadOne_sends i strict r d
    rw [LoadOutcome.result_eq hfirst] at hsends
    obtain ⟨events', hsends', hreports'⟩ := ih ((i.outcome r d).apply r)
      fun hstrict o ho => h hstrict o (List.mem_cons_of_mem _ ho)
    have hcount : (i.outcomes r (d :: rest)).countP LoadOutcome.isLinked =
        (if (i.outcome r d).isLinked then 1 else 0) +
          (i.outcomes ((i.outcome r d).apply r) rest).countP LoadOutcome.isLinked := by
      rw [Installation.outcomes, List.countP_cons, Nat.add_comm]
    rw [hcount]
    refine ⟨_, hsends.bind (hsends'.bind (Action.sends_pure _ _)), ?_⟩
    rw [List.append_nil]
    exact hreports.append hreports'

/-- The first bad declaration ends a strict loading, with the links made that stand before it. -/
theorem loadAll_sends_error (i : Installation) (r : Registry) {before : List Datum} {d : Datum}
    (rest : List Datum) {e : LoadError}
    (hbefore : ∀ o ∈ i.outcomes r before, o.isBad = false)
    (hbad : i.outcome (i.registryAfter r before) d = .bad e) :
    ∃ events, (loadAll i true (before ++ d :: rest)).Sends r (.error e)
      (i.registryAfter r before) events := by
  induction before generalizing r with
  | nil =>
    obtain ⟨events, hsends, -⟩ := loadOne_sends i true r d
    have hd : i.outcome r d = .bad e := hbad
    rw [hd] at hsends
    exact ⟨events, hsends.bind_error _⟩
  | cons first before ih =>
    have hfirst : true = true → (i.outcome r first).isBad = false :=
      fun _ => hbefore _ List.mem_cons_self
    obtain ⟨events, hsends, -⟩ := loadOne_sends i true r first
    rw [LoadOutcome.result_eq hfirst] at hsends
    obtain ⟨events', hsends'⟩ := ih ((i.outcome r first).apply r)
      (fun o ho => hbefore o (List.mem_cons_of_mem _ ho)) hbad
    exact ⟨_, hsends.bind (hsends'.bind_error _)⟩

/-- An empty configuration loads nothing. -/
theorem loadConfig_sends_nil (i : Installation) (strict : Bool) (r : Registry) :
    ∃ events, (loadConfig i ⟨strict, []⟩).Sends r (.ok 0) r events :=
  ⟨_, (Action.sends_log _ r).bind (Action.sends_pure 0 r)⟩

/-- A configuration of which no declaration ends the loading is worked off to its end. -/
theorem loadConfig_sends (i : Installation) (strict : Bool) (r : Registry)
    {declarations : List Datum} (hsome : declarations ≠ [])
    (h : strict = true → ∀ o ∈ i.outcomes r declarations, o.isBad = false) :
    ∃ events, (loadConfig i ⟨strict, declarations⟩).Sends r
        (.ok ((i.outcomes r declarations).countP LoadOutcome.isLinked))
        (i.registryAfter r declarations) events ∧
      Reports ((i.outcomes r declarations).flatMap (outcomeEvents strict) ++
        [completeEvent declarations.length
          ((i.outcomes r declarations).countP LoadOutcome.isLinked)
          (i.registryAfter r declarations).size strict]) events := by
  obtain ⟨events, hsends, hreports⟩ := loadAll_sends i strict r declarations h
  have hempty : declarations.isEmpty = false := by simpa using hsome
  simp only [loadConfig, hempty, Bool.false_eq_true, if_false]
  exact ⟨_, hsends.bind ((Action.sends_registry _).bind
    ((Action.sends_log _ _).bind (Action.sends_pure _ _))),
    hreports.append (reports_loaderEvent _ _ _)⟩

/-- A bad declaration ends the loading of a strict configuration. -/
theorem loadConfig_sends_error (i : Installation) (r : Registry) {before : List Datum} {d : Datum}
    (rest : List Datum) {e : LoadError}
    (hbefore : ∀ o ∈ i.outcomes r before, o.isBad = false)
    (hbad : i.outcome (i.registryAfter r before) d = .bad e) :
    ∃ events, (loadConfig i ⟨true, before ++ d :: rest⟩).Sends r (.error e)
      (i.registryAfter r before) events := by
  obtain ⟨events, hsends⟩ := loadAll_sends_error i r rest hbefore hbad
  have hempty : (before ++ d :: rest).isEmpty = false := by simp
  simp only [loadConfig, hempty, Bool.false_eq_true, if_false]
  exact ⟨events, hsends.bind_error _⟩

/-- A configuration that is found is loaded, after that it was found has been recorded. -/
theorem load_sends {i : Installation} {namer : Namer} (path : String) {source : Source}
    {config : LinkConfig} (hnamer : namer ≠ .nobody)
    (hconfig : readConfig source = .ok (some config)) {r left : Registry}
    {result : Except LoadError Nat} {events : List Event}
    (h : (loadConfig i config).Sends r result left events) :
    (load i namer path source).Sends r result left (foundEvent namer path :: events) := by
  have hfound : (do Action.log (foundEvent namer path); loadConfig i config).Sends r result left
      (foundEvent namer path :: events) := (Action.sends_log _ r).bind h
  have hread := Action.sends_ofExcept (readConfig source) r
  rw [hconfig] at hread
  cases namer with
  | nobody => exact absurd rfl hnamer
  | caller =>
    rw [load, hconfig]
    · exact hread.bind hfound
    · exact nofun
  | settings =>
    rw [load, hconfig]
    · exact hread.bind hfound
    · exact nofun

end Session

end SchemaLink
