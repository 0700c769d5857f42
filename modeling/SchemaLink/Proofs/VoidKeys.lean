import SchemaLink.Proofs.ResolutionTower
import SchemaLink.Proofs.SessionRun
import SchemaLink.Proofs.WrapperKeys

/-!
# The absence of a type as a key

Linking the absence of a type does nothing, but what is written under an annotation is linked under
what the annotation stands around. A registry is therefore free of the absence of a type exactly if
no call of the session links it under an annotation. Being a key is decided by the calls alone: a
hint is one after a run if it was one before, or if a call writes the same key.
-/

namespace SchemaLink

namespace TypeHint

/-- Only itself is the same registry key as the absence of a type. -/
theorem identical_iff_of_isVoid {k t : TypeHint} (ht : t.isVoid = true) :
    identical k t = true ↔ k = t := by
  constructor
  · intro h
    rcases isVoid_iff.mp ht with rfl | rfl
    · have hsame := ((identical_iff_of_isHashable rfl).mp (identical_symm h)).2
      cases SameParts.of_same hsame with
      | value hv => rw [Value.eq_of_same rfl hv]
    · exact same_cls_left ((identical_iff_of_isHashable rfl).mp (identical_symm h)).2
  · rintro rfl
    exact identical_refl k

/-- The absence of a type can be hashed. -/
theorem unhashable?_of_isVoid {t : TypeHint} (ht : t.isVoid = true) :
    t.unhashable? = Option.none := by
  rcases isVoid_iff.mp ht with rfl | rfl <;> rfl

/-- The absence of a type is a leaf, also under annotations. -/
theorem classify_of_isVoid {t : TypeHint} (ht : t.stripAnnotated.isVoid = true) :
    t.classify = Option.none := by
  rcases isVoid_iff.mp ht with h | h
  · rw [classify, h]
    rfl
  · rw [classify, h]
    rfl

end TypeHint

open TypeHint hiding none

namespace Registry

/-- The absence of a type is no key, is not among the linked hints, and resolves to nothing. -/
structure KeepsVoidOut (r : Registry) : Prop where
  not_contained : ∀ t : TypeHint, t.isVoid = true → r.contains t = .ok false
  not_listed : ∀ t ∈ r.types, t.isVoid = false
  /-- Under annotations, too, it resolves to nothing. -/
  unresolved : ∀ t : TypeHint, t.stripAnnotated.isVoid = true → r.resolve t = .ok none

/-- The absence of a type is contained exactly if it is linked. -/
theorem contains_iff_of_isVoid {r : Registry} {t : TypeHint} (ht : t.isVoid = true) :
    r.contains t = .ok true ↔ (r.get? t).isSome = true := by
  rw [contains, r.lookup_of_hashable (unhashable?_of_isVoid ht)]
  exact ⟨Except.ok.inj, congrArg Except.ok⟩

/-- The absence of a type is kept out exactly if it is not contained. -/
theorem keepsVoidOut_iff {r : Registry} :
    r.KeepsVoidOut ↔ ∀ t : TypeHint, t.isVoid = true → ¬ r.contains t = .ok true := by
  constructor
  · intro h t ht hcontains
    exact absurd ((h.not_contained t ht).symm.trans hcontains) nofun
  · intro h
    have hnone (t : TypeHint) (ht : t.isVoid = true) : r.get? t = none := by
      rw [← Option.not_isSome_iff_eq_none, ← contains_iff_of_isVoid ht]
      exact h t ht
    refine ⟨fun t ht => ?_, fun t hmem => ?_, fun t ht => ?_⟩
    · rw [contains, r.lookup_of_hashable (unhashable?_of_isVoid ht), hnone t ht]
      rfl
    · by_contra hvoid
      have hlinked := isSome_get?_iff.mpr ⟨t, hmem, identical_refl t⟩
      rw [hnone t (by simpa using hvoid)] at hlinked
      cases hlinked
    · rw [r.resolve_of_leaf (classify_of_isVoid ht),
        r.entry_of_hashable (unhashable?_of_isVoid ht), hnone _ ht]
      rfl

/-- A new registry does not link the absence of a type. -/
theorem get?_new_of_isVoid (strict : Bool) {t : TypeHint} (ht : t.isVoid = true) :
    (new strict).get? t = none := by
  rw [← Option.not_isSome_iff_eq_none, isSome_get?_iff]
  rintro ⟨k, hk, hsame⟩
  obtain rfl := (identical_iff_of_isVoid ht).mp hsame
  have hprimitives : ∀ k ∈ primitives.map Prod.fst, k.isVoid = false := by decide
  exact absurd ((hprimitives k hk).symm.trans ht) nofun

/-- After a run on a new registry, the absence of a type is contained exactly if a call writes
it. -/
theorem contains_run_of_isVoid (strict : Bool) (calls : List LinkCall) {t : TypeHint}
    (ht : t.isVoid = true) : ((new strict).run calls).contains t = .ok true ↔
      ∃ call ∈ calls, call.writes strict = true ∧ call.key = t := by
  have hsome : (((new strict).run calls).get? t).isSome =
      calls.any fun call => call.writes strict && call.key.identical t := by
    rw [isSome_get?_run, get?_new_of_isVoid strict ht]
    rfl
  simp only [contains_iff_of_isVoid ht, hsome, List.any_eq_true, Bool.and_eq_true,
    identical_iff_of_isVoid ht]

end Registry

namespace Session

/-- **The absence of a type is kept out unless an annotation brings it in.** After any links and
loadings, it is kept out of a registry of either strictness exactly if no call of the session writes
it. It is a key exactly if such a call has been made, and every such call links it under an
annotation. -/
theorem keepsVoidOut_iff_calls (strict : Bool) (threshold : Nat) (steps : List Step) :
    let s := new strict threshold
    let r := (s.through steps).registry
    (r.KeepsVoidOut ↔
      ∀ call ∈ s.callsMade steps, call.writes strict = true → call.key.isVoid = false) ∧
    (∀ t : TypeHint, t.isVoid = true → (r.contains t = .ok true ↔
      ∃ call ∈ s.callsMade steps, call.writes strict = true ∧ call.key = t)) ∧
    ∀ call : LinkCall, call.writes strict = true → call.key.isVoid = true →
      ∃ target metadata, call.hint = .annotated target metadata := by
  intro s r
  have hr : r = (Registry.new strict).run (s.callsMade steps) := s.through_registry steps
  have hcontains (t : TypeHint) (ht : t.isVoid = true) : r.contains t = .ok true ↔
      ∃ call ∈ s.callsMade steps, call.writes strict = true ∧ call.key = t := by
    rw [hr]
    exact Registry.contains_run_of_isVoid strict _ ht
  refine ⟨Registry.keepsVoidOut_iff.trans ⟨fun h call hcall hwrites => ?_, ?_⟩, hcontains,
    fun call hwrites hkey => exists_annotated_of_stripAnnotated_ne fun hbare => ?_⟩
  · by_contra hvoid
    rw [Bool.not_eq_false] at hvoid
    exact h _ hvoid ((hcontains _ hvoid).mpr ⟨call, hcall, hwrites, rfl⟩)
  · rintro h t ht hlinked
    obtain ⟨call, hcall, hwrites, rfl⟩ := (hcontains t ht).mp hlinked
    exact absurd ((h call hcall hwrites).symm.trans ht) nofun
  · rw [LinkCall.key, hbare] at hkey
    simp [LinkCall.writes, hkey] at hwrites

/-- An annotated absence of a type is linked as the absence of a type itself. -/
theorem annotated_void_linked :
    let annotated : TypeHint := .annotated .noneType [.text "m"]
    let r := ((new true 0).through [.link annotated (.named (.scalar "ID"))]).registry
    r.contains .noneType = .ok true ∧ TypeHint.noneType ∈ r.types ∧
      r.resolve annotated = .ok (some (.nonNull (.named (.scalar "ID")))) ∧ ¬ r.KeepsVoidOut := by
  intro annotated r
  have hr : r = (Registry.new true).run [⟨annotated, .named (.scalar "ID")⟩] :=
    (new true 0).through_registry [.link annotated (.named (.scalar "ID"))]
  have hlookup : r.lookup .noneType = .ok (some (.named (.scalar "ID"))) := by
    rw [hr]
    exact (Registry.new true).lookup_key_after ⟨annotated, .named (.scalar "ID")⟩ rfl
  have hcontains : r.contains .noneType = .ok true := by
    rw [Registry.contains, hlookup]
    rfl
  have hvoid : TypeHint.noneType.isVoid = true := rfl
  obtain ⟨k, hk, hsame⟩ :=
    Registry.isSome_get?_iff.mp ((Registry.contains_iff_of_isVoid hvoid).mp hcontains)
  obtain rfl := (identical_iff_of_isVoid hvoid).mp hsame
  have hresolve : r.resolve annotated = (r.entry .noneType).map Registry.required :=
    r.resolve_of_leaf (classify_of_isVoid hvoid)
  refine ⟨hcontains, hk, ?_, fun h => Registry.keepsVoidOut_iff.mp h _ hvoid hcontains⟩
  rw [hresolve, Registry.entry, hlookup]
  rfl

end Session

end SchemaLink
