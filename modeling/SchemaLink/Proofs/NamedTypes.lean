import SchemaLink.Proofs.FieldTypes
import SchemaLink.Proofs.SpellingVariants

/-!
# Named types

A demand for a named type drops every layer of a resolved type. The layers are those that the
wrappers of the hint made and those of the linked type, so that on a strict registry neither the
wrappers nor the annotations of a hint matter: its core alone decides, and a hint that is put into
a context keeps its core. A type that is there is refused only if its innermost type has no name,
which takes a link to such a type.
-/

namespace SchemaLink

open TypeHint hiding none

namespace Demand

/-- What the type of a core decides about a demand for a named type. -/
def namedVerdict (typeName : String) : Option SchemaType → Except AccessError SchemaType
  | none => named.refused .unmapped typeName
  | some g =>
    if g.innermost.isNamed then .ok g.innermost else named.refused .notNamed typeName

/-- A demand for a named type whose hint resolves to a tower comes to the verdict about the type
inside. -/
theorem outcome_named {r : Registry} {t : TypeHint} {linked : Option SchemaType}
    (h : r.resolve t = .ok (linked.map (.tower t.listDepth t.endsOptional))) :
    named.outcome r t = namedVerdict t.displayName linked := by
  rw [outcome, h]
  cases linked with
  | none => rfl
  | some g =>
    change named.selection t.displayName (.tower _ _ g) = _
    rw [selection, SchemaType.innermost_tower, namedVerdict, requires]
    split <;> rfl

/-- The verdict is the same for every hint with the type of the core, but for the name in errors. -/
theorem namedVerdict_kind (m n : String) (linked : Option SchemaType) :
    (namedVerdict m linked).mapError AccessError.kindName =
      (namedVerdict n linked).mapError AccessError.kindName := by
  cases linked with
  | none => rfl
  | some g =>
    rw [namedVerdict, namedVerdict]
    split <;> rfl

/-- If every stored type has a named type inside, then no demand for a named type is refused over
the innermost type. -/
theorem named_outcome_ne_notNamed {r : Registry}
    (hstored : ∀ entry ∈ r.entries, entry.2.innermost.isNamed = true) (d : TypeHint)
    (demand : Demand) (typeName : String) :
    named.outcome r d ≠ .error (.mapping (.refused demand .notNamed typeName)) := by
  have hfound : named.outcome r d =
      (named.found d.displayName (r.resolve d)).bind (named.selection d.displayName) := rfl
  rw [hfound]
  match hresolve : r.resolve d with
  | .error (.unhashable container) => nofun
  | .error (.listElement listName) => nofun
  | .ok none => nofun
  | .ok (some g) =>
    obtain ⟨linked, hentry, rfl⟩ := r.exists_tower_of_resolve hresolve
    have hnamed : linked.innermost.isNamed = true :=
      Registry.stored_of_coreEntry (p := (·.innermost.isNamed = true)) hstored (fun _ => rfl) hentry
    change named.selection d.displayName _ ≠ _
    rw [selection, SchemaType.innermost_tower, hnamed]
    nofun

end Demand

namespace Registry

variable {r : Registry} {d t : TypeHint}

/-- How the core of a hint decides what a demand for a named type comes to. -/
structure NamedDecided (r : Registry) (core : TypeHint) (typeName : String)
    (outcome : Except AccessError SchemaType) : Prop where
  returns_iff : ∀ n, outcome = .ok n ↔
    (core.classify = none ∧
      ∃ g, r.lookup core = .ok (some g) ∧ n = g.innermost ∧ n.isNamed = true) ∨
    ∃ target, core.classify = some ⟨.reference, target⟩ ∧ n = .deferred target.referenceName
  unmapped_iff : outcome = Demand.named.refused .unmapped typeName ↔ r.Unlinked core
  notNamed_iff : outcome = Demand.named.refused .notNamed typeName ↔
    core.classify = none ∧ ∃ g, r.lookup core = .ok (some g) ∧ g.innermost.isNamed = false
  /-- There is no other outcome. -/
  decided : (∃ n, outcome = .ok n) ∨
    ∃ refusal ∈ [Refusal.unmapped, .notNamed], outcome = Demand.named.refused refusal typeName

/-- A leaf is decided by the type it is linked to. -/
theorem namedDecided_of_leaf {core : TypeHint} (h : core.classify = none)
    (hhash : core.unhashable? = none) (typeName : String) :
    NamedDecided r core typeName (Demand.namedVerdict typeName (r.coreType core)) := by
  have hlookup := r.lookup_of_hashable hhash
  rw [r.coreType_of_leaf h]
  cases hg : r.get? core with
  | none =>
    have hverdict : Demand.namedVerdict typeName none =
        Demand.named.refused .unmapped typeName := rfl
    rw [hverdict]
    constructor <;> simp [Demand.refused, Unlinked, h, hlookup, hg]
  | some g =>
    cases hnamed : g.innermost.isNamed with
    | true =>
      have hverdict : Demand.namedVerdict typeName (some g) = .ok g.innermost := if_pos hnamed
      rw [hverdict]
      refine ⟨fun n => ?_, ?_, ?_, .inl ⟨_, rfl⟩⟩
      · have hsame : g.innermost = n ↔ n = g.innermost ∧ n.isNamed = true := by
          rw [eq_comm]
          exact ⟨fun heq => ⟨heq, heq ▸ hnamed⟩, And.left⟩
        simpa [h, hlookup, hg] using hsame
      · simp [Demand.refused, Unlinked, hlookup, hg]
      · simp [Demand.refused, hlookup, hg, hnamed]
    | false =>
      have hverdict : Demand.namedVerdict typeName (some g) =
          Demand.named.refused .notNamed typeName := if_neg (by simp [hnamed])
      rw [hverdict]
      refine ⟨fun n => ?_, ?_, ?_, ?_⟩
      · refine iff_of_false (by simp [Demand.refused]) ?_
        rintro (⟨-, g', hg', rfl, hnamed'⟩ | ⟨target, href, -⟩)
        · rw [hlookup, hg] at hg'
          obtain rfl := Option.some.inj (Except.ok.inj hg')
          cases hnamed.symm.trans hnamed'
        · cases h.symm.trans href
      · simp [Demand.refused, Unlinked, hlookup, hg]
      · simp [h, hlookup, hg, hnamed]
      · simp

/-- A reference is decided by the name of its target. -/
theorem namedDecided_of_reference {core target : TypeHint}
    (h : core.classify = some ⟨.reference, target⟩) (typeName : String) :
    NamedDecided r core typeName (Demand.namedVerdict typeName (r.coreType core)) := by
  have hverdict : Demand.namedVerdict typeName (r.coreType core) =
      .ok (.deferred target.referenceName) := by
    rw [r.coreType_of_reference h]
    rfl
  rw [hverdict]
  refine ⟨fun n => ?_, ?_, ?_, .inl ⟨_, rfl⟩⟩
  · constructor
    · rintro ⟨⟩
      exact .inr ⟨target, h, rfl⟩
    · rintro (⟨hleaf, -⟩ | ⟨target', href, rfl⟩)
      · cases h.symm.trans hleaf
      · cases h.symm.trans href
        rfl
  · simp [Demand.refused, Unlinked, h]
  · simp [Demand.refused, h]

/-- With a safe registry, a demand for a named type comes to the verdict about the core of any hint
that leads to the same destination, also as to whether it passes a reference. -/
theorem Safe.outcome_named (hr : r.Safe) (hhash : d.core.unhashable? = none)
    (hdeferred : t.isDeferred = d.isDeferred) (hdestination : t.destination = d.destination) :
    Demand.named.outcome r t = Demand.namedVerdict t.displayName (r.coreType d.core) := by
  have hcore : r.coreType t.core = r.coreType d.core := by
    rw [coreType_core, coreType_core, hdeferred, hdestination]
  have hleaf (h : t.core.classify = none) : t.core.unhashable? = none := by
    have hd : d.core.classify = none :=
      isDeferred_eq_false_iff.mp (hdeferred.symm.trans (isDeferred_eq_false_iff.mpr h))
    rw [core_eq_destination h, hdestination, ← core_eq_destination hd, hhash]
  have hresolve := r.resolve_eq_tower fun h => ⟨hleaf h, fun g => hr.isNullable_of_get?⟩
  rw [hcore] at hresolve
  exact Demand.outcome_named hresolve

end Registry

namespace Session

/-- **A demand for a named type does not see wrappers.** Where all linked types have a named type
inside, no such demand is refused over the innermost type. On a strict registry that was reached by
a run, a hint that is not the absence of a type and whose core can be hashed comes to the same in
every context: its core decides, a reference being a deferred type and a leaf the innermost type of
what it is linked to, which is refused if it has no name. -/
theorem named_type_ignores_context {strict : Bool} {s : Session}
    (hs : Registry.Reached strict s.registry) :
    ((∀ entry ∈ s.registry.entries, entry.2.innermost.isNamed = true) →
      ∀ d demand typeName, (namedType d s).1 ≠
        .error (.mapping (.refused demand .notNamed typeName))) ∧
    (strict = true → ∀ d : TypeHint, d.core.unhashable? = none → d.isVoid = false →
      ∀ context, fits d context = true →
        Registry.NamedDecided s.registry d.core d.displayName (namedType d s).1 ∧
        Registry.NamedDecided s.registry d.core (fill context d).displayName
          (namedType (fill context d) s).1 ∧
        (namedType (fill context d) s).1.mapError AccessError.kindName =
          (namedType d s).1.mapError AccessError.kindName) := by
  have houtcome (t : TypeHint) : (namedType t s).1 = Demand.named.outcome s.registry t :=
    access_eq_outcome .named t s
  refine ⟨fun hstored d demand typeName => ?_, ?_⟩
  · rw [houtcome]
    exact Demand.named_outcome_ne_notNamed hstored d demand typeName
  · rintro rfl d hhash hvoid context hfits
    have hdecided (typeName : String) : Registry.NamedDecided s.registry d.core typeName
        (Demand.namedVerdict typeName (s.registry.coreType d.core)) := by
      rcases core_classify d with h | ⟨target, h⟩
      · exact Registry.namedDecided_of_leaf h hhash typeName
      · exact Registry.namedDecided_of_reference h typeName
    obtain ⟨-, hdeferred, hdestination⟩ := Outline.mk.inj (outline_fill hvoid hfits).1
    rw [houtcome, houtcome, hs.safe.outcome_named hhash hdeferred hdestination,
      hs.safe.outcome_named hhash rfl rfl]
    exact ⟨hdecided _, hdecided _, Demand.namedVerdict_kind _ _ _⟩

/-- An annotated date that is linked to a list of an object type gives that type, and so does an
optional list of such dates. -/
theorem named_type_ignores_context_dates :
    let date : TypeHint := .annotated (.cls Class.Builtin.date) [.text "m"]
    let context : List Layer :=
      [.optional (.operator false), .list (.subscript Class.Builtin.list (by decide))]
    let day : SchemaType := .named ⟨"Day", "Day", .object⟩
    let s : Session := { Session.new true 0 with
      registry := (Registry.new true).run [⟨.cls Class.Builtin.date, .list day⟩] }
    Registry.Reached true s.registry ∧
      (∀ entry ∈ s.registry.entries, entry.2.innermost.isNamed = true) ∧
      date.core.unhashable? = none ∧ date.isVoid = false ∧ fits date context = true ∧
      (namedType date s).1 = .ok day ∧ (namedType (fill context date) s).1 = .ok day ∧
      ∀ d demand typeName, (namedType d s).1 ≠
        .error (.mapping (.refused demand .notNamed typeName)) := by
  intro date context day s
  have hreached : Registry.Reached true s.registry := ⟨_, rfl⟩
  have hstored : ∀ entry ∈ s.registry.entries, entry.2.innermost.isNamed = true := by
    refine Registry.forall_stored_run (p := (·.innermost.isNamed = true))
      (Registry.forall_stored_new (p := (·.innermost.isNamed = true)) (fun _ => rfl) true) ?_
    intro call hcall _
    rw [List.mem_singleton.mp hcall]
    rfl
  have hcore : date.core = .cls Class.Builtin.date := core_of_leaf rfl
  have hhash : date.core.unhashable? = none := by
    rw [hcore]
    rfl
  have hfits : fits date context = true := rfl
  have hlookup : s.registry.lookup date.core = .ok (some (.list day)) := by
    rw [hcore]
    exact (Registry.new true).lookup_key_after ⟨.cls Class.Builtin.date, .list day⟩ rfl
  have hlinked : date.core.classify = none ∧ ∃ g, s.registry.lookup date.core = .ok (some g) ∧
      day = g.innermost ∧ day.isNamed = true :=
    ⟨by rw [hcore]; rfl, _, hlookup, rfl, rfl⟩
  obtain ⟨hnamed, hcontext⟩ := named_type_ignores_context hreached
  obtain ⟨hbare, hfilled, -⟩ := hcontext rfl date hhash rfl context hfits
  exact ⟨hreached, hstored, hhash, rfl, hfits, (hbare.returns_iff day).mpr (.inl hlinked),
    (hfilled.returns_iff day).mpr (.inl hlinked), hnamed hstored⟩

/-- A date that a strict registry links to a list of a type of no known category is mapped, but
gives no named type, and neither does a list of such dates. -/
theorem unknown_category_not_named :
    let date : TypeHint := .cls Class.Builtin.date
    let context : List Layer := [.list (.subscript Class.Builtin.list (by decide))]
    let s : Session := { Session.new true 0 with
      registry := (Registry.new true).run [⟨date, .list (.other "X")⟩] }
    Registry.Reached true s.registry ∧ date.core.unhashable? = none ∧ date.isVoid = false ∧
      fits date context = true ∧
      (∀ n, (namedType date s).1 ≠ .ok n) ∧
      (namedType date s).1 ≠ Demand.named.refused .unmapped date.displayName ∧
      (namedType date s).1 = Demand.named.refused .notNamed date.displayName ∧
      (namedType (fill context date) s).1 =
        Demand.named.refused .notNamed (fill context date).displayName := by
  intro date context s
  have hreached : Registry.Reached true s.registry := ⟨_, rfl⟩
  have hcore : date.core = date := core_of_leaf rfl
  have hhash : date.core.unhashable? = none := by
    rw [hcore]
    rfl
  have hfits : fits date context = true := rfl
  have htype : s.registry.coreType date.core = some (.list (.other "X")) := by
    rw [hcore, s.registry.coreType_of_leaf rfl]
    have hlookup := (Registry.new true).lookup_key_after ⟨date, .list (.other "X")⟩ rfl
    exact Except.ok.inj hlookup
  obtain ⟨-, hdeferred, hdestination⟩ := Outline.mk.inj (outline_fill (t := date) rfl hfits).1
  have hverdict (t : TypeHint) (h : t.isDeferred = date.isDeferred)
      (h' : t.destination = date.destination) :
      (namedType t s).1 = Demand.named.refused .notNamed t.displayName := by
    rw [namedType, access_eq_outcome, hreached.safe.outcome_named hhash h h', htype]
    rfl
  have hdate := hverdict date rfl rfl
  refine ⟨hreached, hhash, rfl, hfits, fun n => ?_, ?_, hdate, hverdict _ hdeferred hdestination⟩
  · rw [hdate]
    nofun
  · rw [hdate]
    nofun

end Session

end SchemaLink
