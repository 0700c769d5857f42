import SchemaLink.Proofs.LinkMap
import SchemaLink.Proofs.ResolutionTower
import SchemaLink.Proofs.WrapperKeys

/-!
# Annotations and keys

A link writes what is below all annotations, and so a key never stands under one. A lookup takes the
hint as it is. What is linked under an annotation is therefore found below it, where resolution
looks for it, and not under the annotation itself. The one annotation under which anything is ever
found is that of a class with itself, which is the same key as the alias of the class to itself.
-/

namespace SchemaLink

namespace TypeHint

/-- Annotations aside, a hint can be hashed if it can be hashed as it is. -/
theorem firstUnhashable_stripAnnotated {t : TypeHint} (h : t.firstUnhashable = Option.none) :
    t.stripAnnotated.firstUnhashable = Option.none := by
  fun_induction stripAnnotated t with
  | case1 target metadata ih => exact ih (firstUnhashable_annotated_eq_none_iff.mp h).1
  | case2 t => exact h

/-- What is left of a key when annotations are stripped can be hashed. -/
theorem unhashable?_stripAnnotated {t : TypeHint} (h : t.unhashable? = Option.none) :
    t.stripAnnotated.unhashable? = Option.none := by
  cases hashable : t.isHashable with
  | true =>
    rw [unhashable?, firstUnhashable_stripAnnotated (firstUnhashable_of_isHashable hashable h)]
    split <;> rfl
  | false =>
    obtain ⟨j, xs, rfl⟩ | ⟨j, keys, xs, rfl⟩ := eq_list_or_dict_of_not_isHashable hashable
    · rfl
    · rfl

/-- Of the hints that stand under no annotation, only the alias of a class to itself is the same
registry key as an annotation, that of the class with itself. -/
theorem identical_annotated_iff {k target : TypeHint} {metadata : List TypeHint}
    (hk : k.stripAnnotated = k) : k.identical (.annotated target metadata) = true ↔
      ∃ c, k = selfAlias c ∧ target = .cls c ∧ metadata = [.cls c] := by
  constructor
  · intro h
    have hsame := ((identical_iff_of_isHashable rfl).mp (identical_symm h)).2
    cases SameParts.of_same hsame with
    | annotated => exact absurd rfl (ne_annotated_of_stripAnnotated hk _ _)
    | annotatedAlias c => exact ⟨c, rfl, rfl, rfl⟩
  · rintro ⟨c, rfl, rfl, rfl⟩
    simp [identical_selfAlias]

end TypeHint

open TypeHint hiding none

namespace Registry

variable {strict : Bool} {r : Registry} {t : TypeHint}

/-- No key of a registry stands under an annotation. -/
theorem Reached.stripAnnotated_key (hr : Reached strict r) :
    ∀ k ∈ r.types, k.stripAnnotated = k := by
  obtain ⟨calls, rfl⟩ := hr
  intro k hk
  rw [types_run] at hk
  obtain ⟨l, hl, rfl⟩ := List.mem_map.mp (mem_of_mem_distinctBeside hk)
  rcases key_of_mem_history hl with ⟨c, hc⟩ | ⟨hkey, -⟩
  · rw [hc]
    rfl
  · exact hkey.1

/-- Under an annotation, a registry finds nothing, or what it finds under the alias of a class to
itself. -/
theorem Reached.get?_annotated (hr : Reached strict r) (ht : t.stripAnnotated ≠ t) :
    r.get? t = none ∨
      ∃ c, t = .annotated (.cls c) [.cls c] ∧ r.get? t = r.get? (selfAlias c) := by
  obtain ⟨target, metadata, rfl⟩ := exists_annotated_of_stripAnnotated_ne ht
  by_cases hself : ∃ c, target = .cls c ∧ metadata = [.cls c]
  · obtain ⟨c, rfl, rfl⟩ := hself
    refine .inr ⟨c, rfl, (r.get?_congr ?_).symm⟩
    exact (identical_annotated_iff rfl).mpr ⟨c, rfl, rfl, rfl⟩
  · left
    rw [← Option.not_isSome_iff_eq_none, isSome_get?_iff]
    rintro ⟨k, hk, hsame⟩
    obtain ⟨c, -, htarget, hmetadata⟩ :=
      (identical_annotated_iff (hr.stripAnnotated_key k hk)).mp hsame
    exact hself ⟨c, htarget, hmetadata⟩

/-- After any link of the first hint that is made on a registry, the type that was linked is found
under the second one. -/
def ReadsBack (t key : TypeHint) : Prop :=
  ∀ (strict : Bool) (r linked : Registry) (g : SchemaType), Reached strict r →
    r.link t g = .ok linked → linked.lookup key = .ok (some g) ∧ linked.contains key = .ok true

/-- A link that is made is read back below all annotations. -/
theorem readsBack_stripAnnotated (hvoid : t.isVoid = false) : ReadsBack t t.stripAnnotated := by
  intro strict r linked g hr hlink
  have hlookup : linked.lookup t.stripAnnotated = .ok (some g) := by
    obtain ⟨h, -⟩ | ⟨-, hwrites, h⟩ | ⟨-, -, e, h⟩ := r.link_cases ⟨t, g⟩
    · cases hvoid.symm.trans h
    · have hafter : r.after ⟨t, g⟩ = linked := by rw [after, hlink]
      rw [← hafter]
      exact r.lookup_key_after ⟨t, g⟩ hwrites
    · cases hlink.symm.trans h
  exact ⟨hlookup, (contains_eq_true_iff linked _).mpr ⟨g, hlookup⟩⟩

/-- A new registry takes the link of a hint that can be hashed and is not the absence of a type. -/
theorem link_first (hvoid : t.isVoid = false) (hhash : t.unhashable? = none) :
    (new true).link t (.named (.scalar "ID")) =
      .ok ((new true).run [⟨t, .named (.scalar "ID")⟩]) := by
  have hwrites : LinkCall.writes true ⟨t, .named (.scalar "ID")⟩ = true := by
    simp [LinkCall.writes, LinkCall.key, hvoid, unhashable?_stripAnnotated hhash,
      SchemaType.isType, SchemaType.isNullable]
  obtain ⟨h, -⟩ | ⟨-, -, h⟩ | ⟨-, hw, -⟩ := (new true).link_cases ⟨t, .named (.scalar "ID")⟩
  · cases hvoid.symm.trans h
  · simp [run, after, h]
  · cases hw.symm.trans hwrites

/-- A first link under an annotation is not found under it. -/
theorem get?_first_annotated (strict : Bool) (g : SchemaType) (ht : t.stripAnnotated ≠ t) :
    ((new strict).run [⟨t, g⟩]).get? t = none := by
  obtain ⟨target, metadata, rfl⟩ := exists_annotated_of_stripAnnotated_ne ht
  rw [← Option.not_isSome_iff_eq_none, isSome_get?_iff]
  rintro ⟨k, hk, hsame⟩
  obtain ⟨c, rfl, rfl, rfl⟩ :=
    (identical_annotated_iff (Reached.stripAnnotated_key ⟨_, rfl⟩ k hk)).mp hsame
  -- The keys are the primitive classes and the class below the annotation.
  rw [types_run] at hk
  obtain ⟨l, hl, hlk⟩ := List.mem_map.mp (mem_of_mem_distinctBeside hk)
  rcases key_of_mem_history hl with ⟨d, hd⟩ | ⟨-, call, hcall, hkey⟩
  · exact absurd (hd.symm.trans hlk) nofun
  · obtain rfl := List.mem_singleton.mp hcall
    exact absurd (hkey.symm.trans hlk) nofun

/-- **What is linked is read back below its annotations.** On every registry that was reached by
linking, a link of a hint that can be hashed and is not the absence of a type is found, if it is
made, below all annotations of the hint. It is found under the hint itself, and lookup and
membership answer alike above and below the annotations, exactly if the hint is not annotated. An
annotated hint is found under no key but the alias of a class to itself, whatever was linked.
Resolution looks a leaf up below its annotations. -/
theorem link_reads_back_below_annotations (hvoid : t.isVoid = false)
    (hhash : t.unhashable? = none) :
    ReadsBack t t.stripAnnotated ∧ (ReadsBack t t ↔ t.stripAnnotated = t) ∧
    ((∀ (strict : Bool) (r : Registry), Reached strict r →
        r.lookup t = r.lookup t.stripAnnotated ∧ r.contains t = r.contains t.stripAnnotated) ↔
      t.stripAnnotated = t) ∧
    (∀ (strict : Bool) (r : Registry), Reached strict r → t.stripAnnotated ≠ t →
      r.lookup t = .ok none ∨
        ∃ c, t = .annotated (.cls c) [.cls c] ∧ r.lookup t = r.lookup (selfAlias c)) ∧
    ∀ r : Registry, t.classify = none → r.resolve t = (r.entry t.stripAnnotated).map required := by
  have hstripped := readsBack_stripAnnotated hvoid
  have hlink := link_first hvoid hhash
  have hlinked := hstripped true _ _ _ ⟨[], rfl⟩ hlink
  have hreached : Reached true ((new true).run [⟨t, .named (.scalar "ID")⟩]) := ⟨_, rfl⟩
  have hmissed (ht : t.stripAnnotated ≠ t) :
      ((new true).run [⟨t, .named (.scalar "ID")⟩]).lookup t = .ok none := by
    rw [lookup_of_hashable _ hhash, get?_first_annotated true _ ht]
  refine ⟨hstripped, ⟨fun h => ?_, fun h => ?_⟩, ⟨fun h => ?_, fun h => ?_⟩,
    fun strict r hr ht => ?_, fun r => r.resolve_of_leaf⟩
  · by_contra ht
    have hread := (h true _ _ _ ⟨[], rfl⟩ hlink).1
    rw [hmissed ht] at hread
    cases hread
  · rwa [h] at hstripped
  · by_contra ht
    have hagree := (h true _ hreached).1
    rw [hmissed ht, hlinked.1] at hagree
    cases hagree
  · intro strict r _
    rw [h]
    exact ⟨rfl, rfl⟩
  · rw [r.lookup_of_hashable hhash]
    rcases hr.get?_annotated ht with hnone | ⟨c, hself, hget⟩
    · exact .inl (by rw [hnone])
    · exact .inr ⟨c, hself, by rw [hget]; rfl⟩

/-- A link of annotated dates is read back below the annotation. -/
theorem link_reads_back_below_annotations_date :
    let annotated : TypeHint := .annotated (.cls Class.Builtin.date) [.text "m"]
    let linked := (new true).run [⟨annotated, .named (.scalar "Date")⟩]
    annotated.isVoid = false ∧ annotated.unhashable? = none ∧
      linked.lookup (.cls Class.Builtin.date) = .ok (some (.named (.scalar "Date"))) := by
  intro annotated linked
  have hvoid : annotated.isVoid = false := rfl
  have hhash : annotated.unhashable? = none := rfl
  have hlink : (new true).link annotated (.named (.scalar "Date")) = .ok linked := rfl
  have hread := (link_reads_back_below_annotations hvoid hhash).1
  exact ⟨hvoid, hhash, (hread true (new true) linked _ ⟨[], rfl⟩ hlink).1⟩

/-- A link of annotated dates is not found under the annotation. -/
theorem annotated_date_not_found :
    let annotated : TypeHint := .annotated (.cls Class.Builtin.date) [.text "m"]
    let linked := (new true).run [⟨annotated, .named (.scalar "Date")⟩]
    (new true).link annotated (.named (.scalar "Date")) = .ok linked ∧
      linked.lookup annotated = .ok none ∧ linked.contains annotated = .ok false ∧
      linked.lookup annotated ≠ linked.lookup annotated.stripAnnotated := by
  intro annotated linked
  have hlink : (new true).link annotated (.named (.scalar "Date")) = .ok linked := rfl
  have hstrip : annotated.stripAnnotated ≠ annotated :=
    fun h => ne_annotated_of_stripAnnotated h _ _ rfl
  have hlookup : linked.lookup annotated = .ok none := by
    rw [lookup_of_hashable _ rfl, get?_first_annotated true _ hstrip]
  have hstripped := (readsBack_stripAnnotated rfl true _ linked _ ⟨[], rfl⟩ hlink).1
  refine ⟨hlink, hlookup, by rw [contains, hlookup]; rfl, ?_⟩
  simp [hlookup, hstripped]

end Registry

end SchemaLink
