import SchemaLink.Proofs.SessionRun

/-!
# What a loading counts

A loading counts the declarations that it carries out. Carrying one out writes one entry, unless the
declaration links the absence of a type: then nothing is written, and it is counted all the same.
The number that a loading gives is therefore the number of the entries that were written, in order,
plus the number of such declarations.
-/

namespace SchemaLink

namespace LoadOutcome

/-- The entry that the declaration writes. -/
def written? : LoadOutcome → Option (TypeHint × SchemaType)
  | .linked source =>
    if source.hint.isVoid then none else some (source.hint.stripAnnotated, source.target)
  | _ => none

/-- Whether the declaration is carried out and links the absence of a type. -/
def linksVoid : LoadOutcome → Bool
  | .linked source => source.hint.isVoid
  | _ => false

/-- A declaration that is carried out writes an entry or links the absence of a type. -/
theorem countP_isLinked (outcomes : List LoadOutcome) :
    outcomes.countP isLinked =
      (outcomes.filterMap written?).length + outcomes.countP linksVoid := by
  induction outcomes with
  | nil => rfl
  | cons o rest ih =>
    rw [List.countP_cons, List.countP_cons, List.filterMap_cons, ih]
    cases o with
    | linked source =>
      cases hvoid : source.hint.isVoid <;> simp [isLinked, written?, linksVoid, hvoid] <;> omega
    | _ => rfl

end LoadOutcome

namespace Installation

/-- The declaration is a mapping that is not switched off, and what it links is the absence of a
type. -/
def DeclaresVoid (i : Installation) (d : Datum) : Prop :=
  (∃ keys values, d = .map keys values) ∧ Declaration.isOff (d.get? "enabled") = false ∧
    ∃ source, i.linkOf (Declaration.ofDatum d) = .ok source ∧ source.hint.isVoid = true

variable (i : Installation) (r : Registry)

/-- Linking the absence of a type never fails, so that it is carried out wherever it is declared. -/
theorem linksVoid_outcome_iff (d : Datum) :
    (i.outcome r d).linksVoid = true ↔ i.DeclaresVoid d := by
  constructor
  · intro h
    cases ho : i.outcome r d with
    | linked source =>
      obtain ⟨hmap, hon, hsource, -⟩ := outcome_eq_linked_iff.mp ho
      exact ⟨hmap, hon, source, hsource, by rwa [ho] at h⟩
    | _ => rw [ho] at h; cases h
  · rintro ⟨hmap, hon, source, hsource, hvoid⟩
    have ho : i.outcome r d = .linked source :=
      outcome_eq_linked_iff.mpr ⟨hmap, hon, hsource, r, by simp [Registry.link, hvoid]⟩
    rw [ho]
    exact hvoid

/-- A declaration puts the entry that it writes, or leaves the entries as they are. -/
theorem apply_outcome_entries (d : Datum) : ((i.outcome r d).apply r).entries =
    (i.outcome r d).written?.elim r.entries fun l => Registry.put l.1 l.2 r.entries := by
  cases ho : i.outcome r d with
  | linked source =>
    obtain ⟨-, -, -, linked, hlink⟩ := outcome_eq_linked_iff.mp ho
    rw [LoadOutcome.apply, Registry.after, hlink]
    obtain ⟨hvoid, -, h⟩ | ⟨hvoid, -, h⟩ | ⟨-, -, e, h⟩ :=
      r.link_cases ⟨source.hint, source.target⟩
    · obtain rfl := Except.ok.inj (hlink.symm.trans h)
      simp [LoadOutcome.written?, hvoid]
    · obtain rfl := Except.ok.inj (hlink.symm.trans h)
      simp [LoadOutcome.written?, hvoid, LinkCall.key]
    · cases hlink.symm.trans h
  | _ => rfl

/-- After the items of a configuration, the entries that they write have been put in order. -/
theorem registryAfter_entries (declarations : List Datum) :
    (i.registryAfter r declarations).entries =
      ((i.outcomes r declarations).filterMap LoadOutcome.written?).foldl
        (fun entries l => Registry.put l.1 l.2 entries) r.entries := by
  induction declarations generalizing r with
  | nil => rfl
  | cons d rest ih =>
    change (i.registryAfter ((i.outcome r d).apply r) rest).entries = _
    rw [ih, apply_outcome_entries, outcomes, List.filterMap_cons]
    cases (i.outcome r d).written? <;> rfl

end Installation

namespace Session

/-- **A loading counts what it writes, and what links the absence of a type.** A loading that gives
a number has put the entries of its declarations in order, and the number is that of these entries
plus that of the declarations that link the absence of a type. It is the number of entries written
exactly if there is no such declaration. Working off any one declaration puts the entry that it
writes, or else leaves the entries as they are. -/
theorem load_count_eq_written_add_void (i : Installation) (namer : Namer) (path : String)
    (source : Source) {s : Session} {n : Nat} (h : (load i namer path source s).1 = .ok n) :
    let declarations := (LinkConfig.found namer source).declarations
    let outcomes := i.outcomes s.registry declarations
    let written := outcomes.filterMap LoadOutcome.written?
    (load i namer path source s).2.registry.entries =
      written.foldl (fun entries l => Registry.put l.1 l.2 entries) s.registry.entries ∧
    n = written.length + outcomes.countP LoadOutcome.linksVoid ∧
    (n = written.length ↔ ∀ d ∈ declarations, ¬ i.DeclaresVoid d) ∧
    ∀ (strict : Bool) (d : Datum) (t : Session), (loadOne i strict d t).2.registry.entries =
      (i.outcome t.registry d).written?.elim t.registry.entries
        fun l => Registry.put l.1 l.2 t.registry.entries := by
  intro declarations outcomes written
  obtain ⟨result, events, hsends, hresult⟩ := load_sends_worked i namer path source s.registry
  rw [hsends s rfl] at h ⊢
  obtain ⟨hworked, hn⟩ := hresult n h
  have hcount : n = written.length + outcomes.countP LoadOutcome.linksVoid :=
    hn.trans (LoadOutcome.countP_isLinked outcomes)
  refine ⟨?_, hcount, ?_, fun strict d t => ?_⟩
  · rw [hworked]
    exact i.registryAfter_entries s.registry declarations
  · rw [hcount, Nat.add_eq_left, List.countP_eq_zero]
    simp only [outcomes, i.outcomes_eq_map, List.forall_mem_map, i.linksVoid_outcome_iff]
  · obtain ⟨events, hsends, -⟩ := loadOne_sends i strict t.registry d
    rw [hsends t rfl]
    exact i.apply_outcome_entries t.registry d

/-- A loading of the absence of a type and of decimals counts two declarations and adds one
entry. -/
theorem load_count_eq_written_add_void_decimal :
    let i : Installation := ⟨⟨"shop", false, [("Void", .hint .none)]⟩ :: Module.installed, []⟩
    let declare (path : String) : Datum :=
      .map [.text "type", .text "graphql_type"] [.text path, .text "graphql:GraphQLID"]
    let source : Source :=
      .datum (.map [.text "links"] [.list [declare "shop:Void", declare "decimal:Decimal"]])
    let loaded := load i .caller "links.yaml" source (new true 0)
    loaded.1 = .ok 2 ∧ loaded.2.registry.size = 5 := by
  intro i declare source loaded
  have hconfig : readConfig source =
      .ok (some ⟨true, [declare "shop:Void", declare "decimal:Decimal"]⟩) := rfl
  have hnamer : Namer.caller ≠ .nobody := nofun
  obtain ⟨events, hsends⟩ :=
    load_sends_of_good i "links.yaml" hnamer hconfig (.new true) (by decide +kernel)
  have hcount : (i.outcomes (.new true) [declare "shop:Void", declare "decimal:Decimal"]).countP
      LoadOutcome.isLinked = 2 := by decide +kernel
  have hloaded : loaded.1 = .ok 2 := by
    rw [← hcount]
    exact congrArg Prod.fst (hsends (new true 0) rfl)
  obtain ⟨hentries, -⟩ := load_count_eq_written_add_void i .caller "links.yaml" source hloaded
  refine ⟨hloaded, ?_⟩
  rw [Registry.size, hentries]
  decide +kernel

/-- A loading of nothing but the absence of a type counts one declaration, and writes nothing. -/
theorem load_counts_void :
    let i : Installation := ⟨[⟨"shop", false, [("Void", .hint .none)]⟩,
      ⟨"graphql", true, [Module.scalarMember "GraphQLID" "ID"]⟩], []⟩
    let source : Source := .datum (.map [.text "links"] [.list [.map
      [.text "type", .text "graphql_type"] [.text "shop:Void", .text "graphql:GraphQLID"]]])
    let loaded := load i .caller "links.yaml" source (new true 0)
    let declarations := (LinkConfig.found .caller source).declarations
    loaded.1 = .ok 1 ∧ loaded.2.registry.entries = (Registry.new true).entries ∧
      (i.outcomes (.new true) declarations).filterMap LoadOutcome.written? = [] := by
  intro i source loaded declarations
  have hconfig : readConfig source = .ok (some ⟨true, declarations⟩) := rfl
  have hnamer : Namer.caller ≠ .nobody := nofun
  obtain ⟨events, hsends⟩ :=
    load_sends_of_good i "links.yaml" hnamer hconfig (.new true) (by decide +kernel)
  have hcount : (i.outcomes (.new true) declarations).countP LoadOutcome.isLinked = 1 := by
    decide +kernel
  have hwritten : (i.outcomes (.new true) declarations).filterMap LoadOutcome.written? = [] :=
    List.eq_nil_of_length_eq_zero (by decide +kernel)
  have hloaded : loaded = _ := hsends (new true 0) rfl
  rw [hloaded, hcount]
  refine ⟨rfl, ?_, hwritten⟩
  exact (i.registryAfter_entries _ declarations).trans (by rw [hwritten]; rfl)

end Session

end SchemaLink
