import Mathlib.Data.List.Forall2
import SchemaLink.Proofs.LoadingModes

/-!
# The two forms of import paths

A member of a module is named behind a colon or behind a point. The colon is looked for from the
front and the point from the back, so that both forms lead to the same object if there is no colon
in the module part, and neither a colon nor a point in the member part. What a loading makes of its
declarations depends on what they come to, and on their paths only by the objects that these lead
to. A loading therefore gives and leaves the same whichever form its declarations take. A path in
neither form leads to no object, and a declaration with such a path is always bad.
-/

namespace SchemaLink

section Splitting

variable {m a : List Char}

/-- A path is cut at the colon behind a module part without one. -/
theorem splitPath_of_colon (a : List Char) (hm : ':' ∉ m) :
    splitPath (m ++ ':' :: a) = some (m, a) := by
  rw [splitPath, Text.cutFirst_append a hm]

/-- A path without a colon is cut at the point before a member part without one. -/
theorem splitPath_of_point (hm : ':' ∉ m) (hcolon : ':' ∉ a) (hpoint : '.' ∉ a) :
    splitPath (m ++ '.' :: a) = some (m, a) := by
  have hnone : Text.cutFirst ':' (m ++ '.' :: a) = none := by
    rw [Text.cutFirst_eq_none_iff]
    simp [hm, hcolon]
  rw [splitPath, hnone]
  exact Text.cutLast_append m hpoint

/-- A path is not cut exactly if it holds neither a colon nor a point. -/
theorem splitPath_eq_none_iff {path : List Char} :
    splitPath path = none ↔ ':' ∉ path ∧ '.' ∉ path := by
  rw [← Text.cutFirst_eq_none_iff, ← Text.cutLast_eq_none_iff, splitPath]
  cases Text.cutFirst ':' path <;> simp

end Splitting

namespace Datum

/-- A path with a colon, and the same path with a point in its place. -/
inductive Pointed : Datum → Datum → Prop where
  | intro (m a : String) (hm : ':' ∉ m.toList) (hcolon : ':' ∉ a.toList)
      (hpoint : '.' ∉ a.toList) : Pointed (.text (m ++ ":" ++ a)) (.text (m ++ "." ++ a))

/-- The values under some keys, and the same with points in place of the colons of some paths that
stand under the keys for paths. -/
inductive PointedUnder : List Datum → List Datum → List Datum → Prop where
  | refl (keys values : List Datum) : PointedUnder keys values values
  | kept (key value : Datum) {keys values values' : List Datum}
      (rest : PointedUnder keys values values') :
      PointedUnder (key :: keys) (value :: values) (value :: values')
  | path {name : String} (hname : name = "type" ∨ name = "graphql_type") {value value' : Datum}
      (hpath : Pointed value value') {keys values values' : List Datum}
      (rest : PointedUnder keys values values') :
      PointedUnder (.text name :: keys) (value :: values) (value' :: values')

/-- A declaration, and the same with points in place of the colons of some of its paths. -/
inductive PointedIn : Datum → Datum → Prop where
  | refl (d : Datum) : PointedIn d d
  | map {keys values values' : List Datum} (h : PointedUnder keys values values') :
      PointedIn (.map keys values) (.map keys values')

/-- A text that holds neither a colon nor a point. -/
def IsUncut : Datum → Prop
  | .text s => ':' ∉ s.toList ∧ '.' ∉ s.toList
  | _ => False

/-- A declaration that is not switched off names both objects by paths. -/
structure Declares (d hint target : Datum) : Prop where
  enabled : Declaration.isOff (d.get? "enabled") = false
  hint : d.get? "type" = some hint
  target : d.get? "graphql_type" = some target

/-- Both forms of a path lead to the same object, or fail in the same way. -/
theorem Pointed.importDatum_eq {path path' : Datum} (h : Pointed path path')
    (modules : List Module) : importDatum modules path = importDatum modules path' := by
  obtain ⟨m, a, hm, hcolon, hpoint⟩ := h
  have hpaths : splitPath (m ++ ":" ++ a).toList = splitPath (m ++ "." ++ a).toList := by
    simp only [String.toList_append, List.append_assoc]
    exact (splitPath_of_colon _ hm).trans (splitPath_of_point hm hcolon hpoint).symm
  simp only [importDatum, importPath, hpaths]

/-- A text that cannot be cut leads to no object. -/
theorem IsUncut.importDatum_eq {path : Datum} (h : path.IsUncut) (modules : List Module) :
    importDatum modules path = .error .noCut := by
  cases path with
  | text s => simp only [importDatum, importPath, splitPath_eq_none_iff.mpr h]
  | _ => exact h.elim

section Lookup

variable {keys values values' : List Datum}

/-- A key has the same value under it, or it is one for a path and has both forms of that path. -/
theorem PointedUnder.lookup_cases (h : PointedUnder keys values values') (name : String) :
    lookup name keys values = lookup name keys values' ∨
      (name = "type" ∨ name = "graphql_type") ∧ ∃ value value',
        lookup name keys values = some value ∧ lookup name keys values' = some value' ∧
          Pointed value value' := by
  induction h with
  | refl => exact .inl rfl
  | kept key value _ ih =>
    cases key with
    | text k =>
      unfold lookup
      split
      · exact .inl rfl
      · exact ih
    | _ => exact ih
  | path hname hpath _ ih =>
    unfold lookup
    split
    · next heq =>
      subst heq
      exact .inr ⟨hname, _, _, rfl, rfl, hpath⟩
    · exact ih

/-- A key has the same object under it with both forms of its path, or none. -/
theorem PointedUnder.import_lookup (h : PointedUnder keys values values') (modules : List Module)
    (name : String) : (lookup name keys values).map (importDatum modules) =
      (lookup name keys values').map (importDatum modules) := by
  rcases h.lookup_cases name with heq | ⟨-, value, value', hvalue, hvalue', hpath⟩
  · rw [heq]
  · rw [hvalue, hvalue', Option.map_some, Option.map_some, hpath.importDatum_eq]

/-- A key for something other than a path has the same value under it. -/
theorem PointedUnder.lookup_eq (h : PointedUnder keys values values') {name : String}
    (hhint : name ≠ "type") (htarget : name ≠ "graphql_type") :
    lookup name keys values = lookup name keys values' :=
  (h.lookup_cases name).resolve_right fun hpath => hpath.1.elim hhint htarget

end Lookup

end Datum

/-- The call by which a link is made. -/
def LinkSource.call (source : LinkSource) : LinkCall := ⟨source.hint, source.target⟩

/-- What matters of an outcome for a loading: the call that is made, if any, or the kind of the
failure. -/
def LoadOutcome.verdict : LoadOutcome → Except String (Option LinkCall)
  | .linked source => .ok (some source.call)
  | .disabled => .ok none
  | .bad e => .error e.kindName

/-- An outcome with a failure for its verdict is bad. -/
theorem LoadOutcome.exists_of_verdict_error {o : LoadOutcome} {kind : String}
    (h : o.verdict = .error kind) : ∃ e, o = .bad e ∧ e.kindName = kind := by
  cases o with
  | bad e => exact ⟨e, rfl, Except.error.inj h⟩
  | _ => cases h

namespace Installation

variable {i : Installation} {r : Registry}

/-- The call of two paths, from the objects that they lead to. -/
def callOfPaths : Except ImportError Imported → Except ImportError Imported → Option LinkCall
  | .ok object, .ok schema => schema.toSchema?.map fun g => ⟨object.toHint, g⟩
  | _, _ => none

/-- The call of a declaration, from the objects of its two paths, if it has both, and otherwise from
its entry point. -/
def callOf (i : Installation) (hint target : Option (Except ImportError Imported))
    (entryPoint : Option Datum) : Option LinkCall :=
  match hint, target with
  | some hint, some target => callOfPaths hint target
  | _, _ => entryPoint.bind fun name => (i.linkOfEntryPoint name).toOption.map LinkSource.call

/-- The verdict on a declaration that is not switched off, from its call. -/
def callVerdict (r : Registry) (call : Option LinkCall) : Except String (Option LinkCall) :=
  match call with
  | none => .error "RuntimeError"
  | some call =>
    match r.link call.hint call.target with
    | .error _ => .error "RuntimeError"
    | .ok _ => .ok (some call)

/-- The verdict on a declaration that is not switched off depends on its call only. -/
theorem verdict_enabledOutcome (i : Installation) (r : Registry) (declaration : Declaration) :
    (i.enabledOutcome r declaration).verdict =
      callVerdict r ((i.linkOf declaration).toOption.map LinkSource.call) := by
  cases hsource : i.linkOf declaration with
  | error e =>
    rw [enabledOutcome_of_noSource hsource]
    rfl
  | ok source =>
    simp only [Except.toOption, Option.map_some, callVerdict]
    cases hlink : r.link source.hint source.target with
    | error e =>
      rw [enabledOutcome_of_refused hsource hlink]
      simp only [LinkSource.call, hlink]
      rfl
    | ok linked =>
      rw [enabledOutcome_of_linked hsource hlink]
      simp only [LinkSource.call, hlink]
      rfl

/-- The call of two paths is made of the objects that they lead to. -/
theorem call_linkOfPaths (i : Installation) (hint target : Datum) :
    (i.linkOfPaths hint target).toOption.map LinkSource.call =
      callOfPaths (importDatum i.modules hint) (importDatum i.modules target) := by
  rw [linkOfPaths, importSchema]
  cases importDatum i.modules hint with
  | error e => rfl
  | ok object =>
    cases importDatum i.modules target with
    | error e => rfl
    | ok found =>
      rw [callOfPaths]
      dsimp only
      cases found.toSchema? <;> rfl

/-- The call of a declaration that is not switched off is made of the objects of its paths, or of
its entry point. -/
theorem call_ofDatum (i : Installation) {keys values : List Datum}
    (h : Declaration.isOff (Datum.lookup "enabled" keys values) = false) :
    (i.linkOf (Declaration.ofDatum (.map keys values))).toOption.map LinkSource.call =
      i.callOf ((Datum.lookup "type" keys values).map (importDatum i.modules))
        ((Datum.lookup "graphql_type" keys values).map (importDatum i.modules))
        (Datum.lookup "entrypoint" keys values) := by
  simp only [Declaration.ofDatum, Datum.get?, h, Bool.false_eq_true, if_false]
  cases Datum.lookup "type" keys values with
  | none => cases Datum.lookup "entrypoint" keys values <;> rfl
  | some hint =>
    cases Datum.lookup "graphql_type" keys values with
    | none => cases Datum.lookup "entrypoint" keys values <;> rfl
    | some target => exact i.call_linkOfPaths hint target

/-- The verdict on a declaration is the same in both forms. -/
theorem verdict_of_pointedIn (i : Installation) (r : Registry) {d d' : Datum}
    (h : d.PointedIn d') : (i.outcome r d).verdict = (i.outcome r d').verdict := by
  cases h with
  | refl => rfl
  | @map keys values values' hvalues =>
    have henabled :
        (Datum.map keys values').get? "enabled" = (Datum.map keys values).get? "enabled" :=
      (hvalues.lookup_eq (by decide) (by decide)).symm
    rw [outcome, outcome, henabled]
    cases hoff : Declaration.isOff ((Datum.map keys values).get? "enabled") with
    | true => rfl
    | false =>
      have hoff' : Declaration.isOff ((Datum.map keys values').get? "enabled") = false :=
        henabled ▸ hoff
      rw [if_neg Bool.false_ne_true, if_neg Bool.false_ne_true, verdict_enabledOutcome,
        verdict_enabledOutcome, i.call_ofDatum hoff, i.call_ofDatum hoff', hvalues.import_lookup,
        hvalues.import_lookup, hvalues.lookup_eq (by decide) (by decide)]

/-- The verdicts on declarations are the same in both forms. -/
theorem verdicts_of_pointedIn (i : Installation) (r : Registry) {declarations pointed : List Datum}
    (h : List.Forall₂ Datum.PointedIn declarations pointed) :
    (i.outcomes r declarations).map LoadOutcome.verdict =
      (i.outcomes r pointed).map LoadOutcome.verdict := by
  rw [outcomes_eq_map, outcomes_eq_map]
  induction h with
  | nil => rfl
  | cons hd _ ih =>
    rw [List.map_cons, List.map_cons, List.map_cons, List.map_cons, i.verdict_of_pointedIn r hd, ih]

/-- A declaration of two paths of which one cannot be cut is bad. -/
theorem verdict_of_uncut (i : Installation) (r : Registry) {d hint target : Datum}
    (hd : d.Declares hint target) (huncut : hint.IsUncut ∨ target.IsUncut) :
    (i.outcome r d).verdict = .error "RuntimeError" := by
  obtain ⟨hon, hhint, htarget⟩ := hd
  cases d with
  | map keys values =>
    have hcall := i.call_ofDatum hon
    have hnone : i.callOf (some (importDatum i.modules hint))
        (some (importDatum i.modules target)) (Datum.lookup "entrypoint" keys values) = none := by
      rcases huncut with h | h
      · rw [h.importDatum_eq]
        rfl
      · rw [h.importDatum_eq]
        cases importDatum i.modules hint <;> rfl
    simp only [Datum.get?] at hhint htarget
    rw [hhint, htarget, Option.map_some, Option.map_some, hnone] at hcall
    rw [outcome, if_neg (by simp [hon]), verdict_enabledOutcome, hcall]
    rfl
  | _ => cases hhint

end Installation

/-- What a loading makes of the verdicts on its declarations: its result, and the registry that it
leaves. -/
def Registry.runVerdicts (strict : Bool) :
    Registry → List (Except String (Option LinkCall)) → Except String Nat × Registry
  | r, [] => (.ok 0, r)
  | r, .ok (some call) :: rest =>
    let (result, left) := runVerdicts strict (r.after call) rest
    (result.map (1 + ·), left)
  | r, .ok none :: rest => runVerdicts strict r rest
  | r, .error kind :: rest => if strict then (.error kind, r) else runVerdicts strict r rest

/-- A strict loading with a failure among its verdicts fails. -/
theorem Registry.exists_error_of_mem_verdicts (r : Registry)
    {verdicts : List (Except String (Option LinkCall))} {kind : String}
    (h : .error kind ∈ verdicts) : ∃ first, (r.runVerdicts true verdicts).1 = .error first := by
  induction verdicts generalizing r with
  | nil => cases h
  | cons verdict rest ih =>
    cases verdict with
    | error first => exact ⟨first, rfl⟩
    | ok call =>
      have hrest : .error kind ∈ rest := (List.mem_cons.mp h).resolve_left nofun
      cases call with
      | none => exact ih r hrest
      | some call =>
        obtain ⟨first, hfirst⟩ := ih (r.after call) hrest
        exact ⟨first, by simp only [runVerdicts, hfirst, Except.map]⟩

namespace Session

/-- Declarations are worked off by their verdicts. -/
theorem loadAll_sends_verdicts (i : Installation) (strict : Bool) (r : Registry)
    (declarations : List Datum) :
    ∃ result left events, (loadAll i strict declarations).Sends r result left events ∧
      (result.mapError LoadError.kindName, left) =
        r.runVerdicts strict ((i.outcomes r declarations).map LoadOutcome.verdict) := by
  induction declarations generalizing r with
  | nil => exact ⟨_, _, _, Action.sends_pure 0 r, rfl⟩
  | cons d rest ih =>
    obtain ⟨events, hsends, -⟩ := loadOne_sends i strict r d
    obtain ⟨result, left, events', hrest, hrun⟩ := ih ((i.outcome r d).apply r)
    -- the rest is worked off unless the declaration ends a strict loading
    have hgoesOn (done : Bool) (hdone : (i.outcome r d).result strict = .ok done) :
        (loadAll i strict (d :: rest)).Sends r
          (result.map ((if done then 1 else 0) + ·)) left (events ++ events') := by
      rw [hdone] at hsends
      exact hsends.bind (hrest.map _)
    have hpasses (hdone : (i.outcome r d).result strict = .ok false) :
        (loadAll i strict (d :: rest)).Sends r result left (events ++ events') := by
      have huncounted : result.map ((if false then 1 else 0) + ·) = result := by
        cases result <;> simp [Except.map]
      rw [← huncounted]
      exact hgoesOn false hdone
    rw [Installation.outcomes, List.map_cons]
    cases ho : i.outcome r d with
    | linked source =>
      rw [ho] at hgoesOn hrun
      have hafter : _ = Registry.runVerdicts strict (r.after source.call) _ := hrun
      refine ⟨_, _, _, hgoesOn true rfl, ?_⟩
      rw [LoadOutcome.verdict, Registry.runVerdicts, ← hafter]
      cases result <;> rfl
    | disabled =>
      rw [ho] at hpasses hrun
      exact ⟨_, _, _, hpasses rfl, hrun⟩
    | bad e =>
      rw [ho] at hpasses hsends hrun
      cases strict with
      | true => exact ⟨_, _, _, hsends.bind_error _, rfl⟩
      | false => exact ⟨_, _, _, hpasses rfl, hrun⟩

/-- A configuration is loaded by the verdicts on its declarations. -/
theorem loadConfig_sends_verdicts (i : Installation) (strict : Bool) (r : Registry)
    (declarations : List Datum) :
    ∃ result left events, (loadConfig i ⟨strict, declarations⟩).Sends r result left events ∧
      (result.mapError LoadError.kindName, left) =
        r.runVerdicts strict ((i.outcomes r declarations).map LoadOutcome.verdict) := by
  cases declarations with
  | nil =>
    obtain ⟨events, hsends⟩ := loadConfig_sends_nil i strict r
    exact ⟨_, _, _, hsends, rfl⟩
  | cons d rest =>
    obtain ⟨result, left, events, hsends, hrun⟩ := loadAll_sends_verdicts i strict r (d :: rest)
    simp only [loadConfig, List.isEmpty_cons, Bool.false_eq_true, if_false]
    cases result with
    | error e => exact ⟨_, _, _, hsends.bind_error _, hrun⟩
    | ok linked =>
      exact ⟨_, _, _, hsends.bind ((Action.sends_registry _).bind
        ((Action.sends_log _ _).bind (Action.sends_pure _ _))), hrun⟩

/-- **A loading depends on its declarations by their verdicts.** The kind of its failure or the
number that it gives, and the registry that it leaves, are what a run of the verdicts comes to. -/
theorem load_eq_runVerdicts (i : Installation) {namer : Namer} (path : String) {source : Source}
    {strict : Bool} {declarations : List Datum} (hnamer : namer ≠ .nobody)
    (hconfig : readConfig source = .ok (some ⟨strict, declarations⟩)) (s : Session) :
    ((load i namer path source s).1.mapError LoadError.kindName,
        (load i namer path source s).2.registry) =
      s.registry.runVerdicts strict
        ((i.outcomes s.registry declarations).map LoadOutcome.verdict) := by
  obtain ⟨result, left, events, hsends, hrun⟩ :=
    loadConfig_sends_verdicts i strict s.registry declarations
  rw [load_sends path hnamer hconfig hsends s rfl]
  exact hrun

/-- A declaration of two paths of which one cannot be cut ends a strict loading, and is passed over
by a lenient one. -/
theorem loadOne_of_uncut (i : Installation) {d hint target : Datum} (hd : d.Declares hint target)
    (huncut : hint.IsUncut ∨ target.IsUncut) (s : Session) :
    (loadOne i true d s).1.mapError LoadError.kindName = .error "RuntimeError" ∧
      (loadOne i false d s).1.mapError LoadError.kindName = .ok false ∧
        ∀ strict, (loadOne i strict d s).2.registry = s.registry := by
  obtain ⟨e, ho, hkind⟩ := LoadOutcome.exists_of_verdict_error
    (i.verdict_of_uncut s.registry hd huncut)
  have hone (strict : Bool) : ∃ events, loadOne i strict d s =
      ((LoadOutcome.bad e).result strict, s.advance s.registry events) := by
    obtain ⟨events, hsends, -⟩ := loadOne_sends i strict s.registry d
    rw [ho] at hsends
    exact ⟨events, hsends s rfl⟩
  refine ⟨?_, ?_, fun strict => ?_⟩
  · obtain ⟨events, hloaded⟩ := hone true
    rw [hloaded, ← hkind]
    rfl
  · obtain ⟨events, hloaded⟩ := hone false
    rw [hloaded]
    rfl
  · obtain ⟨events, hloaded⟩ := hone strict
    rw [hloaded]
    rfl

/-- A strict loading fails if one of its declarations names two paths of which one cannot be cut. -/
theorem exists_error_of_uncut (i : Installation) {namer : Namer} (path : String) {source : Source}
    {declarations : List Datum} (hnamer : namer ≠ .nobody)
    (hconfig : readConfig source = .ok (some ⟨true, declarations⟩)) {d hint target : Datum}
    (hmem : d ∈ declarations) (hd : d.Declares hint target)
    (huncut : hint.IsUncut ∨ target.IsUncut) (s : Session) :
    ∃ e, (load i namer path source s).1 = .error e := by
  have hverdict : .error "RuntimeError" ∈
      (i.outcomes s.registry declarations).map LoadOutcome.verdict := by
    rw [i.outcomes_eq_map, List.map_map, List.mem_map]
    exact ⟨d, hmem, i.verdict_of_uncut s.registry hd huncut⟩
  obtain ⟨first, hfirst⟩ := s.registry.exists_error_of_mem_verdicts hverdict
  have hload := congrArg Prod.fst (load_eq_runVerdicts i path hnamer hconfig s)
  rw [hfirst] at hload
  cases hresult : (load i namer path source s).1 with
  | error e => exact ⟨e, rfl⟩
  | ok n =>
    rw [hresult] at hload
    cases hload

/-- **The two forms of import paths agree in every loading.** If some paths of the declarations are
written with a point in place of the colon, a loading gives the same number or a failure of the same
kind, and leaves the same registry. A declaration of two paths of which one holds neither a colon
nor a point always fails, leaves the registry alone, and ends a strict loading. -/
theorem load_eq_of_pointed (i : Installation) (namer : Namer) (path : String)
    {source pointed : Source} {strict : Bool} {declarations declarations' : List Datum}
    (hconfig : readConfig source = .ok (some ⟨strict, declarations⟩))
    (hpointed : readConfig pointed = .ok (some ⟨strict, declarations'⟩))
    (h : List.Forall₂ Datum.PointedIn declarations declarations') (s : Session) :
    ((load i namer path source s).1.mapError LoadError.kindName =
        (load i namer path pointed s).1.mapError LoadError.kindName ∧
      (load i namer path source s).2.registry = (load i namer path pointed s).2.registry) ∧
    ∀ (d hint target : Datum), d.Declares hint target → hint.IsUncut ∨ target.IsUncut →
      (∀ t : Session, (loadOne i true d t).1.mapError LoadError.kindName = .error "RuntimeError" ∧
        (loadOne i false d t).1.mapError LoadError.kindName = .ok false ∧
        ∀ strict, (loadOne i strict d t).2.registry = t.registry) ∧
      (strict = true → namer ≠ .nobody → d ∈ declarations →
        ∃ e, (load i namer path source s).1 = .error e) := by
  refine ⟨?_, fun d hint target hd huncut => ⟨loadOne_of_uncut i hd huncut, ?_⟩⟩
  · by_cases hnamer : namer = .nobody
    · subst hnamer
      exact ⟨rfl, rfl⟩
    · have hload := load_eq_runVerdicts i path hnamer hconfig s
      rw [i.verdicts_of_pointedIn s.registry h,
        ← load_eq_runVerdicts i path hnamer hpointed s] at hload
      exact ⟨congrArg Prod.fst hload, congrArg Prod.snd hload⟩
  · rintro rfl hnamer hmem
    exact exists_error_of_uncut i path hnamer hconfig hmem hd huncut s

/-- Decimals are linked to a scalar of a module inside packages, with both paths in one form and in
the other, before a declaration whose first path cannot be cut. -/
theorem load_eq_of_pointed_decimal :
    let i : Installation := ⟨Module.installed, []⟩
    let declare (hint target : String) : Datum :=
      .map [.text "type", .text "graphql_type"] [.text hint, .text target]
    let uncut := declare "Decimal" "graphql:GraphQLID"
    let declarations := [declare "decimal:Decimal"
      "graphmap.typemap.testmods.scalars:DecimalScalar", uncut]
    let pointed := [declare "decimal.Decimal"
      "graphmap.typemap.testmods.scalars.DecimalScalar", uncut]
    let source (strict : Bool) (declarations : List Datum) : Source :=
      .datum (.map [.text "strict_mode", .text "links"] [.bool strict, .list declarations])
    let s := new true 0
    (∀ strict, readConfig (source strict declarations) = .ok (some ⟨strict, declarations⟩) ∧
      readConfig (source strict pointed) = .ok (some ⟨strict, pointed⟩)) ∧
    List.Forall₂ Datum.PointedIn declarations pointed ∧
    uncut.Declares (.text "Decimal") (.text "graphql:GraphQLID") ∧
    (Datum.text "Decimal").IsUncut ∧ uncut ∈ declarations ∧
    (load i .caller "links.yaml" (source false declarations) s).1 = .ok 1 ∧
    (load i .caller "links.yaml" (source false pointed) s).1.mapError LoadError.kindName = .ok 1 ∧
    (load i .caller "links.yaml" (source false declarations) s).2.registry =
      (load i .caller "links.yaml" (source false pointed) s).2.registry ∧
    ∃ e, (load i .caller "links.yaml" (source true declarations) s).1 = .error e := by
  intro i declare uncut declarations pointed source s
  have hread (strict : Bool) :
      readConfig (source strict declarations) = .ok (some ⟨strict, declarations⟩) ∧
        readConfig (source strict pointed) = .ok (some ⟨strict, pointed⟩) := ⟨rfl, rfl⟩
  have hforms : List.Forall₂ Datum.PointedIn declarations pointed := by
    refine .cons (.map ?_) (.cons (.refl uncut) .nil)
    exact .path (.inl rfl) (.intro "decimal" "Decimal" (by decide) (by decide) (by decide))
      (.path (.inr rfl) (.intro "graphmap.typemap.testmods.scalars" "DecimalScalar" (by decide)
        (by decide) (by decide)) (.refl [] []))
  have hdeclares : uncut.Declares (.text "Decimal") (.text "graphql:GraphQLID") := ⟨rfl, rfl, rfl⟩
  have huncut : (Datum.text "Decimal").IsUncut := by
    constructor <;> decide
  have hmem : uncut ∈ declarations := by simp [declarations]
  have hnamer : Namer.caller ≠ .nobody := nofun
  have hlenient : (load i .caller "links.yaml" (source false declarations) s).1 = .ok 1 := by
    obtain ⟨events, hsends⟩ :=
      load_sends_of_good i "links.yaml" hnamer (hread false).1 (.new true) nofun
    have hcount : (i.outcomes (.new true) declarations).countP LoadOutcome.isLinked = 1 := by
      decide +kernel
    rw [← hcount]
    exact congrArg Prod.fst (hsends s rfl)
  obtain ⟨⟨hresult, hregistry⟩, -⟩ :=
    load_eq_of_pointed i .caller "links.yaml" (hread false).1 (hread false).2 hforms s
  obtain ⟨-, hfails⟩ :=
    load_eq_of_pointed i .caller "links.yaml" (hread true).1 (hread true).2 hforms s
  obtain ⟨-, hends⟩ := hfails uncut _ _ hdeclares (.inl huncut)
  rw [hlenient] at hresult
  exact ⟨hread, hforms, hdeclares, huncut, hmem, hlenient, hresult.symm, hregistry,
    hends rfl hnamer hmem⟩

end Session

end SchemaLink
