import SchemaLink.Config.Library
import SchemaLink.Proofs.LoadingRun

/-!
# Lenient and strict loading

A lenient loading never fails. It links for the declarations that can be carried out, records every
other one that is not switched off as an error, and accounts for all of them at its end. A strict
loading does the same as long as no declaration is bad. The first bad one ends it, and then exactly
the links of the declarations before it have been made.
-/

namespace SchemaLink

/-- Every outcome is counted once: as carried out, switched off or bad. -/
theorem LoadOutcome.length_eq_countP (outcomes : List LoadOutcome) :
    outcomes.length = outcomes.countP isLinked + outcomes.countP isDisabled +
      outcomes.countP isBad := by
  induction outcomes with
  | nil => rfl
  | cons o rest ih =>
    rw [List.length_cons, List.countP_cons, List.countP_cons, List.countP_cons, ih]
    cases o <;> simp [isLinked, isDisabled, isBad] <;> omega

namespace Installation

/-- Every item of a configuration has an outcome. -/
theorem length_outcomes (i : Installation) (r : Registry) (declarations : List Datum) :
    (i.outcomes r declarations).length = declarations.length := by
  induction declarations generalizing r with
  | nil => rfl
  | cons d rest ih => simp [outcomes, ih]

/-- Whether a link is refused, and why, depends on the registry only by its strictness. -/
theorem link_map_congr {r r' : Registry} (h : r.strict = r'.strict) (t : TypeHint)
    (target : SchemaType) :
    (r.link t target).map (fun _ => ()) = (r'.link t target).map (fun _ => ()) := by
  unfold Registry.link
  rw [h]
  split
  · rfl
  · split
    · rfl
    · split
      · rfl
      · split <;> rfl

/-- What a declaration comes to depends on the registry only by its strictness. -/
theorem outcome_congr (i : Installation) {r r' : Registry} (h : r.strict = r'.strict) (d : Datum) :
    i.outcome r d = i.outcome r' d := by
  have henabled (declaration : Declaration) :
      i.enabledOutcome r declaration = i.enabledOutcome r' declaration := by
    cases hsource : i.linkOf declaration with
    | error e => rw [enabledOutcome_of_noSource hsource, enabledOutcome_of_noSource hsource]
    | ok source =>
      have hlink := link_map_congr h source.hint source.target
      simp only [enabledOutcome, hsource]
      cases hr : r.link source.hint source.target <;>
        cases hr' : r'.link source.hint source.target <;> simp_all [Except.map]
  cases d with
  | map keys values => simp only [outcome, henabled]
  | _ => rfl

/-- No declaration changes the strictness of the registry. -/
theorem apply_strict (r : Registry) (o : LoadOutcome) : (o.apply r).strict = r.strict := by
  cases o with
  | linked source => exact r.after_strict _
  | _ => rfl

/-- Declarations come to the same whatever was linked before them. -/
theorem outcomes_eq_map (i : Installation) (r : Registry) (declarations : List Datum) :
    i.outcomes r declarations = declarations.map (i.outcome r) := by
  induction declarations generalizing r with
  | nil => rfl
  | cons d rest ih =>
    rw [outcomes, ih, List.map_cons]
    congr 1
    exact List.map_congr_left fun d' _ => i.outcome_congr (apply_strict r _) d'

end Installation

namespace Session

/-- Of events that report, the errors are among what they report. -/
theorem Reports.countP_error {own events : List Event} (h : Reports own events) :
    events.countP (fun e => e.level = .error) = own.countP (fun e => e.level = .error) := by
  rw [← h.filter_eq, List.countP_filter]
  refine List.countP_congr fun e he => ?_
  have hother := h.not_error e he
  by_cases hlogger : e.logger = loaderLogger
  · simp [hlogger]
  · simp [hlogger, hother hlogger]

/-- The records of a lenient loading hold one error for each bad declaration. -/
theorem countP_error_outcomeEvents (outcomes : List LoadOutcome) :
    (outcomes.flatMap (outcomeEvents false)).countP (fun e => e.level = .error) =
      outcomes.countP LoadOutcome.isBad := by
  induction outcomes with
  | nil => rfl
  | cons o rest ih =>
    rw [List.flatMap_cons, List.countP_append, ih, List.countP_cons, Nat.add_comm]
    cases o <;> rfl

/-- **Lenient loading is a fold that passes bad declarations over.** It never fails. The registry at
its end is reached by one link, in order, for each declaration that is carried out, and every other
declaration leaves the registry as it is. One record is sent for each declaration that is carried
out, one error for each bad one, and the last record accounts for all declarations. -/
theorem load_lenient_eq_fold (i : Installation) {namer : Namer} (path : String) {source : Source}
    {declarations : List Datum} (hnamer : namer ≠ .nobody)
    (hconfig : readConfig source = .ok (some ⟨false, declarations⟩))
    (hsome : declarations ≠ []) (s : Session) :
    let outcomes := i.outcomes s.registry declarations
    let linked := outcomes.countP LoadOutcome.isLinked
    (∃ final events,
      load i namer path source s = (.ok linked, s.advance final events) ∧
      (i.callsMade s.registry declarations).foldlM
        (fun r call => r.link call.hint call.target) s.registry = .ok final ∧
      events.filter (fun e => e.logger = loaderLogger) =
        foundEvent namer path :: (outcomes.flatMap (outcomeEvents false) ++
          [completeEvent declarations.length linked final.size false]) ∧
      events.countP (fun e => e.level = .error) = outcomes.countP LoadOutcome.isBad ∧
      declarations.length = linked + outcomes.countP LoadOutcome.isDisabled +
        events.countP (fun e => e.level = .error)) ∧
    (∀ (r : Registry) (d : Datum) (source : LinkSource), i.outcome r d = .linked source ↔
      (∃ keys values, d = .map keys values) ∧ Declaration.isOff (d.get? "enabled") = false ∧
        i.linkOf (Declaration.ofDatum d) = .ok source ∧
          ∃ linked, r.link source.hint source.target = .ok linked) ∧
    ∀ (t : Session) (d : Datum), (i.outcome t.registry d).isLinked = false →
      (loadOne i false d t).2.registry = t.registry := by
  intro outcomes linked
  refine ⟨?_, fun r d source => Installation.outcome_eq_linked_iff, fun t d hother => ?_⟩
  · obtain ⟨events, hsends, hreports⟩ :=
      loadConfig_sends i false s.registry hsome (fun h => absurd h nofun)
    have hload := load_sends path hnamer hconfig hsends s rfl
    have hfound : Reports [foundEvent namer path] [foundEvent namer path] :=
      reports_loaderEvent _ _ _
    have hall := hfound.append hreports
    have herrors : (foundEvent namer path :: events).countP (fun e => e.level = .error) =
        outcomes.countP LoadOutcome.isBad :=
      calc
        _ = ([foundEvent namer path] ++ (outcomes.flatMap (outcomeEvents false) ++
              [completeEvent _ _ _ false])).countP (fun e => e.level = .error) :=
          hall.countP_error
        _ = (outcomes.flatMap (outcomeEvents false)).countP (fun e => e.level = .error) := by
          simp [foundEvent, completeEvent, loaderEvent]
        _ = outcomes.countP LoadOutcome.isBad := countP_error_outcomeEvents outcomes
    refine ⟨_, _, hload, i.foldlM_link_callsMade s.registry declarations, hall.filter_eq,
      herrors, ?_⟩
    rw [herrors, ← i.length_outcomes s.registry declarations]
    exact LoadOutcome.length_eq_countP outcomes
  · obtain ⟨events, hsends, -⟩ := loadOne_sends i false t.registry d
    rw [hsends t rfl]
    cases ho : i.outcome t.registry d with
    | linked source => rw [ho] at hother; cases hother
    | _ => rfl

/-- A lenient loading of a list with a declaration that is no mapping, one that is switched off, one
that is carried out and one that names only a class. -/
theorem load_lenient_eq_fold_mixed :
    let i : Installation := ⟨Module.installed, []⟩
    let declarations : List Datum := [.null, .map [.text "enabled"] [.bool false],
      .map [.text "type", .text "graphql_type"]
        [.text "decimal:Decimal", .text "graphql:GraphQLID"],
      .map [.text "type"] [.text "decimal:Decimal"]]
    let source : Source := .datum (.map [.text "strict_mode", .text "links"]
      [.bool false, .list declarations])
    let s := Session.new true 0
    Namer.caller ≠ .nobody ∧ readConfig source = .ok (some ⟨false, declarations⟩) ∧
      declarations ≠ [] ∧ ∃ final events,
        load i .caller "links.yaml" source s = (.ok 1, s.advance final events) ∧
        events.countP (fun e => e.level = .error) = 2 := by
  intro i declarations source s
  have hnamer : Namer.caller ≠ .nobody := nofun
  have hconfig : readConfig source = .ok (some ⟨false, declarations⟩) := rfl
  have hsome : declarations ≠ [] := nofun
  have hlinked : (i.outcomes s.registry declarations).countP LoadOutcome.isLinked = 1 := by
    decide +kernel
  have hbad : (i.outcomes s.registry declarations).countP LoadOutcome.isBad = 2 := by
    decide +kernel
  obtain ⟨⟨final, events, hload, -, -, herrors, -⟩, -, -⟩ :=
    load_lenient_eq_fold i "links.yaml" hnamer hconfig hsome s
  rw [hlinked] at hload
  exact ⟨hnamer, hconfig, hsome, final, events, hload, herrors.trans hbad⟩

/-- A list of which some declaration is bad has a first bad one. -/
theorem exists_first_bad {i : Installation} {r : Registry} {declarations : List Datum}
    (h : ∃ d ∈ declarations, (i.outcome r d).isBad = true) :
    ∃ before d rest e, declarations = before ++ d :: rest ∧
      (∀ o ∈ i.outcomes r before, o.isBad = false) ∧
        i.outcome (i.registryAfter r before) d = .bad e := by
  induction declarations generalizing r with
  | nil => simp at h
  | cons first declarations ih =>
    cases hfirst : i.outcome r first with
    | bad e => exact ⟨[], first, declarations, e, rfl, by simp [Installation.outcomes], hfirst⟩
    | _ =>
      have hgood : (i.outcome r first).isBad = false := by rw [hfirst]; rfl
      have hstrict := Installation.apply_strict r (i.outcome r first)
      obtain ⟨d, hd, hbad⟩ := h
      have hmem : d ∈ declarations := by
        rcases List.mem_cons.mp hd with rfl | hmem
        · cases hgood.symm.trans hbad
        · exact hmem
      rw [← i.outcome_congr hstrict] at hbad
      obtain ⟨before, d, rest, e, rfl, hbefore, hd⟩ := ih ⟨d, hmem, hbad⟩
      refine ⟨first :: before, d, rest, e, rfl, fun o ho => ?_, hd⟩
      rcases List.mem_cons.mp ho with rfl | ho
      · exact hgood
      · exact hbefore o ho

/-- What is no mapping fails as a wrong value, and what is one as a link that could not be made. -/
theorem kindName_of_outcome_eq_bad {i : Installation} {r : Registry} {d : Datum} {e : LoadError}
    (h : i.outcome r d = .bad e) :
    (∀ keys values, d ≠ .map keys values) ∧ e.kindName = "ValueError" ∨
      (∃ keys values, d = .map keys values) ∧ e.kindName = "RuntimeError" := by
  cases d with
  | map keys values =>
    refine .inr ⟨⟨keys, values, rfl⟩, ?_⟩
    rw [Installation.outcome, Installation.enabledOutcome] at h
    split at h
    · cases h
    · split at h
      · cases h
        rfl
      · split at h
        · cases h
          rfl
        · cases h
  | _ =>
    cases h
    refine .inl ⟨fun keys values h => ?_, rfl⟩
    cases h

/-- A configuration of which no declaration ends the loading is loaded, even if it is empty. -/
theorem load_sends_of_good (i : Installation) {namer : Namer} (path : String) {source : Source}
    {strict : Bool} {declarations : List Datum} (hnamer : namer ≠ .nobody)
    (hconfig : readConfig source = .ok (some ⟨strict, declarations⟩)) (r : Registry)
    (h : strict = true → ∀ o ∈ i.outcomes r declarations, o.isBad = false) :
    ∃ events, (load i namer path source).Sends r
      (.ok ((i.outcomes r declarations).countP LoadOutcome.isLinked))
      (i.registryAfter r declarations) events := by
  by_cases hsome : declarations = []
  · subst hsome
    obtain ⟨events, hsends⟩ := loadConfig_sends_nil i strict r
    exact ⟨_, load_sends path hnamer hconfig hsends⟩
  · obtain ⟨events, hsends, -⟩ := loadConfig_sends i strict r hsome h
    exact ⟨_, load_sends path hnamer hconfig hsends⟩

/-- **Strict loading applies the declarations before the first bad one.** It fails exactly if some
declaration is no mapping, or is one that is not switched off and whose objects are not found or
whose link is refused. The first such declaration decides how it fails, and the links made are then
those of the declarations before it. A strict loading that does not fail gives and leaves what a
lenient one does. -/
theorem load_strict_eq_prefix (i : Installation) {namer : Namer} (path : String)
    {source lenient : Source} {declarations : List Datum} (hnamer : namer ≠ .nobody)
    (hconfig : readConfig source = .ok (some ⟨true, declarations⟩))
    (hlenient : readConfig lenient = .ok (some ⟨false, declarations⟩)) (s : Session) :
    let loaded := load i namer path source s
    ((∃ e, loaded.1 = .error e) ↔ ∃ d ∈ declarations,
      (∀ keys values, d ≠ .map keys values) ∨
        Declaration.isOff (d.get? "enabled") = false ∧
          ∀ source, i.linkOf (Declaration.ofDatum d) = .ok source →
            ∃ e, s.registry.link source.hint source.target = .error e) ∧
    (∀ e, loaded.1 = .error e → ∃ before d rest, declarations = before ++ d :: rest ∧
      (∀ o ∈ i.outcomes s.registry before, o.isBad = false) ∧
      i.outcome loaded.2.registry d = .bad e ∧
      ((∀ keys values, d ≠ .map keys values) ∧ e.kindName = "ValueError" ∨
        (∃ keys values, d = .map keys values) ∧ e.kindName = "RuntimeError") ∧
      (i.callsMade s.registry before).foldlM
        (fun r call => r.link call.hint call.target) s.registry = .ok loaded.2.registry) ∧
    ∀ n, loaded.1 = .ok n → (load i namer path lenient s).1 = .ok n ∧
      (load i namer path lenient s).2.registry = loaded.2.registry := by
  intro loaded
  simp only [← Installation.isBad_outcome_iff]
  by_cases hbad : ∃ d ∈ declarations, (i.outcome s.registry d).isBad = true
  · obtain ⟨before, d, rest, e, hsplit, hbefore, hd⟩ := exists_first_bad hbad
    have hloaded : ∃ events, loaded =
        (.error e, s.advance (i.registryAfter s.registry before) events) := by
      rw [hsplit] at hconfig
      obtain ⟨events, hsends⟩ := loadConfig_sends_error i s.registry rest hbefore hd
      exact ⟨_, load_sends path hnamer hconfig hsends s rfl⟩
    obtain ⟨events, hloaded⟩ := hloaded
    rw [hloaded]
    refine ⟨⟨fun _ => hbad, fun _ => ⟨e, rfl⟩⟩, ?_, fun n hn => absurd hn nofun⟩
    rintro _ ⟨⟩
    exact ⟨before, d, rest, hsplit, hbefore, hd, kindName_of_outcome_eq_bad hd,
      i.foldlM_link_callsMade s.registry before⟩
  · have hgood : ∀ o ∈ i.outcomes s.registry declarations, o.isBad = false := by
      rw [i.outcomes_eq_map]
      intro o ho
      obtain ⟨d, hd, rfl⟩ := List.mem_map.mp ho
      exact Bool.eq_false_iff.mpr fun h => hbad ⟨d, hd, h⟩
    obtain ⟨events, hstrict⟩ := load_sends_of_good i path hnamer hconfig s.registry fun _ => hgood
    obtain ⟨events', hsame⟩ := load_sends_of_good i path hnamer hlenient s.registry nofun
    have hloaded : loaded = _ := hstrict s rfl
    rw [hloaded, hsame s rfl]
    refine ⟨⟨?_, fun h => absurd h hbad⟩, ?_, fun n hn => ⟨hn, rfl⟩⟩
    · rintro ⟨e, ⟨⟩⟩
    · rintro e ⟨⟩

/-- A strict loading of a list with an item that is no mapping between two declarations makes the
link of the first one only. -/
theorem load_strict_eq_prefix_null :
    let i : Installation := ⟨Module.installed, []⟩
    let first : Datum := .map [.text "type", .text "graphql_type"]
      [.text "decimal:Decimal", .text "graphql:GraphQLID"]
    let last : Datum := .map [.text "type", .text "graphql_type"]
      [.text "uuid:UUID", .text "graphql:GraphQLID"]
    let source (strict : Bool) : Source := .datum (.map [.text "strict_mode", .text "links"]
      [.bool strict, .list [first, .null, last]])
    let s := Session.new true 0
    let loaded := load i .caller "links.yaml" (source true) s
    Namer.caller ≠ .nobody ∧
      readConfig (source true) = .ok (some ⟨true, [first, .null, last]⟩) ∧
      readConfig (source false) = .ok (some ⟨false, [first, .null, last]⟩) ∧
      (∃ e, loaded.1 = .error e ∧ e.kindName = "ValueError") ∧ loaded.2.registry.size = 5 := by
  intro i first last source s loaded
  have hnamer : Namer.caller ≠ .nobody := nofun
  have hconfig : readConfig (source true) = .ok (some ⟨true, [first, .null, last]⟩) := rfl
  have hlenient : readConfig (source false) = .ok (some ⟨false, [first, .null, last]⟩) := rfl
  obtain ⟨hfails, hfirst, -⟩ := load_strict_eq_prefix i "links.yaml" hnamer hconfig hlenient s
  obtain ⟨e, he⟩ := hfails.mpr ⟨.null, by simp, .inl fun _ _ => nofun⟩
  obtain ⟨before, d, rest, hsplit, hbefore, hd, -, hfold⟩ := hfirst e he
  have hleft : i.registryAfter s.registry before = loaded.2.registry :=
    Except.ok.inj ((i.foldlM_link_callsMade s.registry before).symm.trans hfold)
  have hgood : (i.outcome s.registry first).isBad = false := by decide +kernel
  have hplace : before = [first] ∧ d = .null := by
    match before, hsplit with
    | [], hsplit =>
      obtain ⟨rfl, -⟩ := List.cons.inj hsplit
      rw [← hleft] at hd
      exact absurd ((congrArg LoadOutcome.isBad hd).symm.trans hgood) nofun
    | [_], hsplit =>
      obtain ⟨rfl, htail⟩ := List.cons.inj hsplit
      obtain ⟨rfl, -⟩ := List.cons.inj htail
      exact ⟨rfl, rfl⟩
    | _ :: _ :: _, hsplit =>
      obtain ⟨rfl, htail⟩ := List.cons.inj hsplit
      obtain ⟨rfl, -⟩ := List.cons.inj htail
      have hnull := hbefore (.bad (.malformed "NoneType")) (.tail _ (.head _))
      exact absurd hnull nofun
  obtain ⟨rfl, rfl⟩ := hplace
  cases hd
  refine ⟨hnamer, hconfig, hlenient, ⟨_, he, rfl⟩, ?_⟩
  rw [← hleft]
  decide +kernel

end Session

end SchemaLink
