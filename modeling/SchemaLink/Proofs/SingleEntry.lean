import SchemaLink.Proofs.DemandOutcome
import SchemaLink.Proofs.WrapperKeys

/-!
# Answers read one entry

Of all that a registry holds, the answers about a hint depend on the entry of one leaf only: that of
the core for resolution and most demands, and that of the destination for demands of output, which
ask for capabilities behind references as well. A link therefore changes no answer unless its key is
that leaf, and an entry whose key is a wrapper is never read, whatever the hint.
-/

namespace SchemaLink

namespace TypeHint

/-- The destination of a hint is a leaf or a name. -/
theorem destination_cases (t : TypeHint) :
    t.destination.classify = Option.none ∨ t.destination.isName = true := by
  induction t using target_induction with
  | leaf t h =>
    left
    rw [destination_of_leaf h, classify_stripAnnotated, h]
  | name t h =>
    right
    rw [← destination_stripAnnotated, destination_of_isName h]
    exact isName_asForward h
  | wrapper t w h ih => rwa [destination_of_wrapper h]

/-- A name stands under no annotation. -/
theorem stripAnnotated_of_isName {t : TypeHint} (h : t.isName = true) : t.stripAnnotated = t := by
  cases t with
  | annotated target metadata => cases h
  | _ => rfl

/-- No annotation stands around a destination. -/
theorem stripAnnotated_destination (t : TypeHint) :
    t.destination.stripAnnotated = t.destination := by
  induction t using target_induction with
  | leaf t h => rw [destination_of_leaf h, stripAnnotated_stripAnnotated]
  | name t h =>
    have hdestination : t.destination = t.stripAnnotated.asForward := by
      rw [← destination_stripAnnotated, destination_of_isName h]
    rw [hdestination, stripAnnotated_of_isName (isName_asForward h)]
  | wrapper t w h ih => rw [destination_of_wrapper h, ih]

end TypeHint

open TypeHint hiding none

namespace Registry

variable {r r' : Registry} {d : TypeHint}

/-- The links of a registry whose keys are leaves. -/
def leafLinks (r : Registry) : List (TypeHint × SchemaType) :=
  r.entries.filter fun link => !link.1.isWrapper

/-- A hint resolves alike with two registries that agree on its core, if that is a leaf. -/
theorem resolve_lookup_congr (h : d.core.classify = none → r.lookup d.core = r'.lookup d.core) :
    r.resolve d = r'.resolve d := by
  rw [resolve_eq_settle, resolve_eq_settle]
  rcases core_classify d with hleaf | ⟨target, href⟩
  · rw [coreEntry_of_leaf r hleaf, coreEntry_of_leaf r' hleaf, entry, entry, h hleaf]
  · rw [coreEntry_of_reference r href, coreEntry_of_reference r' href]

/-- A hint is equally representable with two registries that agree on its destination, if that is a
leaf. -/
theorem isRepresentable_lookup_congr
    (h : d.destination.classify = none → r.lookup d.destination = r'.lookup d.destination) :
    d.isRepresentable (some r) = d.isRepresentable (some r') := by
  rw [isRepresentable_destination, isRepresentable_destination (some r')]
  rcases destination_cases d with hleaf | hname
  · have hlinked : d.destination.isLinked (some r) = d.destination.isLinked (some r') :=
      congrArg (Except.map Option.isSome) (h hleaf)
    rw [isRepresentable_of_leaf _ hleaf, isRepresentable_of_leaf _ hleaf,
      stripAnnotated_destination, hlinked]
  · rw [isRepresentable_of_isName _ hname, isRepresentable_of_isName _ hname]

/-- Two registries that agree on the destination of a hint, if that is a leaf, agree on its core. -/
theorem lookup_core_congr
    (h : d.destination.classify = none → r.lookup d.destination = r'.lookup d.destination)
    (hleaf : d.core.classify = none) : r.lookup d.core = r'.lookup d.core := by
  have hcore := core_eq_destination hleaf
  rw [hcore] at hleaf ⊢
  exact h hleaf

/-- A demand for anything but output comes to the same with two registries that agree on the core of
the hint, if that is a leaf. -/
theorem outcome_lookup_congr {demand : Demand} (hdemand : ∀ field, demand ≠ .output field)
    (h : d.core.classify = none → r.lookup d.core = r'.lookup d.core) :
    demand.outcome r d = demand.outcome r' d := by
  rw [Demand.outcome, Demand.outcome, resolve_lookup_congr h]
  cases demand with
  | output field => exact absurd rfl (hdemand field)
  | _ => rfl

/-- Every demand comes to the same with two registries that agree on the destination of the hint, if
that is a leaf. -/
theorem outcome_lookup_destination_congr (demand : Demand)
    (h : d.destination.classify = none → r.lookup d.destination = r'.lookup d.destination) :
    demand.outcome r d = demand.outcome r' d := by
  cases demand with
  | output field =>
    rw [Demand.outcome, Demand.outcome, Demand.admission, Demand.admission,
      isRepresentable_lookup_congr h, resolve_lookup_congr (lookup_core_congr h)]
  | _ => exact outcome_lookup_congr (fun _ h => by cases h) (lookup_core_congr h)

/-- A call changes only what is looked up under its key. -/
theorem lookup_after (r : Registry) (call : LinkCall) (k : TypeHint)
    (h : identityEqual call.key k = false) : (r.after call).lookup k = r.lookup k :=
  r.lookup_after_of_other fun hkey hhash =>
    Bool.eq_false_iff.mpr fun hsame =>
      Bool.eq_false_iff.mp h (identityEqual_of_identical hkey hhash hsame)

/-- Only keys that are leaves matter for what is found under a well-formed leaf. -/
theorem find?_filter_leaf {k : TypeHint} (hleaf : k.classify = none) (hstrip : k.stripAnnotated = k)
    (hk : k.WellFormed) (hhash : k.unhashable? = none) (entries : List (TypeHint × SchemaType)) :
    find? k (entries.filter fun link => !link.1.isWrapper) = find? k entries := by
  induction entries with
  | nil => rfl
  | cons first rest ih =>
    obtain ⟨key, target⟩ := first
    cases hwrapper : key.isWrapper with
    | true =>
      have hother := identical_eq_false_of_leaf hwrapper hleaf hstrip hk hhash
      rw [List.filter_cons_of_neg (by simp [hwrapper]), ih, find?, hother]
      rfl
    | false => rw [List.filter_cons_of_pos (by simp [hwrapper]), find?, find?, ih]

/-- A well-formed leaf is looked up among the links whose keys are leaves. -/
theorem lookup_congr_of_leafLinks {k : TypeHint} (hleaf : k.classify = none)
    (hstrip : k.stripAnnotated = k) (hk : k.WellFormed) (h : r.leafLinks = r'.leafLinks) :
    r.lookup k = r'.lookup k := by
  cases hhash : k.unhashable? with
  | some container => rw [lookup, lookup, hhash]
  | none =>
    rw [lookup, lookup, hhash, get?, get?, ← find?_filter_leaf hleaf hstrip hk hhash r.entries,
      ← find?_filter_leaf hleaf hstrip hk hhash r'.entries]
    exact congrArg (fun links => Except.ok (find? k links)) h

/-- A call with a wrapper for its key changes nothing that is looked up under a well-formed leaf. -/
theorem lookup_after_wrapper (r : Registry) {call : LinkCall} {k : TypeHint}
    (hcall : call.hint.isWrapper = true) (hleaf : k.classify = none)
    (hstrip : k.stripAnnotated = k) (hk : k.WellFormed) :
    (r.after call).lookup k = r.lookup k := by
  have hkey : call.key.isWrapper = true := by
    rwa [LinkCall.key, isWrapper, classify_stripAnnotated]
  exact r.lookup_after_of_other fun _ hhash =>
    identical_eq_false_of_leaf hkey hleaf hstrip hk hhash

end Registry

namespace Session

variable {s s' : Session} {d : TypeHint}

/-- A link leaves in a session what the call leaves of its registry. -/
theorem link_registry (s : Session) (t : TypeHint) (g : SchemaType) :
    (link t g s).2.registry = s.registry.after ⟨t, g⟩ := by
  rw [link_sends s.registry t g s rfl]
  rfl

/-- A demand for anything but output comes to the same in two sessions whose registries agree on the
core of the hint, if that is a leaf. -/
theorem access_lookup_congr {demand : Demand} (hdemand : ∀ field, demand ≠ .output field)
    (h : d.core.classify = none → s.registry.lookup d.core = s'.registry.lookup d.core) :
    (access demand d s).1 = (access demand d s').1 := by
  rw [access_eq_outcome, access_eq_outcome]
  exact Registry.outcome_lookup_congr hdemand h

/-- Every demand comes to the same in two sessions whose registries agree on the destination of the
hint, if that is a leaf. -/
theorem access_lookup_destination_congr (demand : Demand)
    (h : d.destination.classify = none →
      s.registry.lookup d.destination = s'.registry.lookup d.destination) :
    (access demand d s).1 = (access demand d s').1 := by
  rw [access_eq_outcome, access_eq_outcome]
  exact Registry.outcome_lookup_destination_congr demand h

/-- A link that changes what is found under a leaf has a key that equals the leaf. -/
theorem identityEqual_of_lookup_ne {s : Session} {t : TypeHint} {g : SchemaType} {k : TypeHint}
    (h : (link t g s).2.registry.lookup k ≠ s.registry.lookup k) :
    identityEqual t.stripAnnotated k = true := by
  by_contra hother
  rw [link_registry] at h
  exact h (s.registry.lookup_after ⟨t, g⟩ k (Bool.eq_false_iff.mpr hother))

/-- All answers about a hint are the same in two sessions. -/
structure AnswersAgree (d : TypeHint) (s s' : Session) : Prop where
  resolve_eq : s.registry.resolve d = s'.registry.resolve d
  isRepresentable_eq : d.isRepresentable (some s.registry) = d.isRepresentable (some s'.registry)
  access_eq : ∀ demand, (access demand d s).1 = (access demand d s').1

/-- All answers are the same in two sessions whose registries agree on the destination of the hint,
if that is a leaf. -/
theorem answersAgree_of_lookup (h : d.destination.classify = none →
    s.registry.lookup d.destination = s'.registry.lookup d.destination) : AnswersAgree d s s' :=
  ⟨Registry.resolve_lookup_congr (Registry.lookup_core_congr h),
    Registry.isRepresentable_lookup_congr h, fun demand => access_lookup_destination_congr demand h⟩

/-- **Answers read one entry.** A hint whose core is a reference resolves alike with all registries,
and one whose core is a leaf with all registries that agree on the leaf. A link therefore changes
what a hint resolves to, or what a demand for anything but output comes to, only if the core is a
leaf that equals its key, and what a demand for output comes to only if the destination is. Links
whose keys are wrappers never change an answer about a hint that can be spelled. -/
theorem answers_read_one_entry :
    (∀ d target : TypeHint, d.core.classify = some ⟨.reference, target⟩ →
      ∀ r r' : Registry, r.resolve d = r'.resolve d) ∧
    (∀ d : TypeHint, d.core.classify = none → ∀ r r' : Registry,
      r.lookup d.core = r'.lookup d.core → r.resolve d = r'.resolve d) ∧
    (∀ (s : Session) (t : TypeHint) (g : SchemaType) (d : TypeHint),
      let linked := (link t g s).2
      (linked.registry.resolve d ≠ s.registry.resolve d ∨
          (∃ demand, (∀ field, demand ≠ .output field) ∧
            (access demand d linked).1 ≠ (access demand d s).1) →
        d.core.classify = none ∧ identityEqual t.stripAnnotated d.core = true) ∧
      ∀ field, (access (.output field) d linked).1 ≠ (access (.output field) d s).1 →
        d.destination.classify = none ∧ identityEqual t.stripAnnotated d.destination = true) ∧
    ∀ d : TypeHint, Spelled d →
      (∀ s s' : Session, s.registry.leafLinks = s'.registry.leafLinks → AnswersAgree d s s') ∧
      ∀ (s : Session) (t : TypeHint) (g : SchemaType), t.isWrapper = true →
        AnswersAgree d (link t g s).2 s := by
  refine ⟨fun d target href r r' => ?_, fun d hleaf r r' h => ?_, fun s t g d => ⟨?_, ?_⟩,
    fun d hd => ⟨fun s s' h => ?_, fun s t g ht => ?_⟩⟩
  · exact Registry.resolve_lookup_congr fun hleaf => by rw [href] at hleaf; cases hleaf
  · exact Registry.resolve_lookup_congr fun _ => h
  · -- Were there no such leaf, the registries would agree on the core.
    intro hchanged
    by_contra hother
    have hagree : d.core.classify = none →
        (link t g s).2.registry.lookup d.core = s.registry.lookup d.core := fun hleaf => by
      by_contra hne
      exact hother ⟨hleaf, identityEqual_of_lookup_ne hne⟩
    obtain hresolve | ⟨demand, hdemand, haccess⟩ := hchanged
    · exact hresolve (Registry.resolve_lookup_congr hagree)
    · exact haccess (access_lookup_congr hdemand hagree)
  · intro field hchanged
    by_contra hother
    refine hchanged (access_lookup_destination_congr _ fun hleaf => ?_)
    by_contra hne
    exact hother ⟨hleaf, identityEqual_of_lookup_ne hne⟩
  · exact answersAgree_of_lookup fun hleaf => Registry.lookup_congr_of_leafLinks hleaf
      (stripAnnotated_destination d) hd.wellFormed.destination h
  · refine answersAgree_of_lookup fun hleaf => ?_
    rw [link_registry]
    exact s.registry.lookup_after_wrapper ht hleaf (stripAnnotated_destination d)
      hd.wellFormed.destination

/-- Names resolve alike with every registry, a link of annotated integers changes what integers
resolve to, and a link of lists of integers does not. -/
theorem answers_read_one_entry_int :
    let int : TypeHint := .cls Class.Builtin.int
    let list : TypeHint := .generic .builtin Class.Builtin.list [int]
    let id : SchemaType := .named (.scalar "ID")
    let s := Session.new true 0
    let linked := (link (.annotated int [text "m"]) id s).2
    (Registry.new true).resolve (.forward "Node") = (Registry.new false).resolve (.forward "Node") ∧
      (Registry.new true).resolve int = (Registry.new false).resolve int ∧
      linked.registry.resolve int ≠ s.registry.resolve int ∧
      identityEqual int int = true ∧
      list.isWrapper = true ∧ Spelled int ∧ AnswersAgree int (link list id s).2 s := by
  intro int list id s linked
  obtain ⟨hreference, hleaf, hlink, hwrapper⟩ := answers_read_one_entry
  have hclassified : (forward "Node").classify = some ⟨.reference, .forward "Node"⟩ := rfl
  have hname : (forward "Node").core.classify = some ⟨.reference, .forward "Node"⟩ := by
    rw [core_of_reference hclassified, classify_stripAnnotated, hclassified]
  have hcore : int.core = int := core_of_leaf rfl
  have hclassify : int.core.classify = none := by rw [hcore]; rfl
  have hspelled : Spelled int := ⟨[Class.Builtin.int], [], .cls "int", _, _, rfl, rfl⟩
  have hself : int.identical int = true := identical_refl int
  have hbefore : s.registry.get? int = some (.named (.scalar "Int")) := by
    change (if int.identical int then _ else _ : Option SchemaType) = _
    rw [hself, if_pos rfl]
  have hafter : linked.registry.get? int = some id := by
    have hentries : linked.registry.entries = Registry.put int id s.registry.entries := by
      rw [link_registry, Registry.after_eq]
      rfl
    rw [Registry.get?, hentries, Registry.find?_put, hself, if_pos rfl]
  have hchanged : linked.registry.resolve int ≠ s.registry.resolve int := by
    rw [Registry.resolve_of_leaf _ rfl, Registry.resolve_of_leaf _ rfl,
      Registry.entry_of_hashable _ rfl, Registry.entry_of_hashable _ rfl,
      show int.stripAnnotated = int from rfl, hbefore, hafter]
    simp [Except.map, Registry.required, SchemaType.isNullable, id, NamedType.scalar]
  refine ⟨hreference _ _ hname _ _, hleaf int hclassify _ _ rfl, hchanged, ?_, rfl, hspelled,
    (hwrapper int hspelled).2 s list id rfl⟩
  have hequal := ((hlink s _ id int).1 (.inl hchanged)).2
  rwa [hcore] at hequal

end Session

end SchemaLink
