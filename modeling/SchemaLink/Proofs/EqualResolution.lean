import SchemaLink.Proofs.EqualWalks
import SchemaLink.Proofs.SchemaLayers

/-!
# Equal hints resolve alike

Whoever takes equal hints for the same type expects them to resolve alike. They do so with all
registries exactly if they are aligned. Hints that are not aligned are told apart by a registry with
a single link more than a new one: of the core of one of them, if the cores are different keys, or
of the class below both, if one of them passes one list more.
-/

namespace SchemaLink

open TypeHint hiding none

/-- A tower has as many list layers as it is made with. -/
theorem SchemaType.count_layers_tower (lists : Nat) (optional : Bool) (g : NamedType) :
    (tower lists optional (.named g)).layers.count .list = lists := by
  rw [tower]
  induction lists with
  | zero => cases optional <;> rfl
  | succ n ih =>
    rw [listLayers, layers, List.count_cons_self, ih]

namespace Registry

/-- Two resolutions give the same type, or nothing, or both fail for the element of a list. -/
inductive ResolvedAlike : Except ResolveError (Option SchemaType) →
    Except ResolveError (Option SchemaType) → Prop where
  | ok (g : Option SchemaType) : ResolvedAlike (.ok g) (.ok g)
  | listElement (m n : String) :
      ResolvedAlike (.error (.listElement m)) (.error (.listElement n))

variable {t u : TypeHint}

/-- Two resolutions are alike in either order. -/
theorem ResolvedAlike.symm {x y : Except ResolveError (Option SchemaType)}
    (h : ResolvedAlike x y) : ResolvedAlike y x := by
  cases h with
  | ok g => exact .ok g
  | listElement m n => exact .listElement n m

/-- Wrappers that take the same steps settle a type alike. -/
theorem settle_resolvedAlike (h : t.steps = u.steps) (linked : Option SchemaType) :
    ResolvedAlike (settle t linked) (settle u linked) := by
  cases linked with
  | none => exact .ok none
  | some g =>
    rw [settle, settle, endsOptional, endsOptional, listDepth, listDepth, h]
    split
    · exact .ok _
    · split
      · exact .ok none
      · exact .listElement _ _

/-- A core that can be hashed has an entry or stands for a deferred type. -/
theorem exists_coreEntry (r : Registry) {core : TypeHint} (h : core.unhashable? = none) :
    ∃ linked, r.coreEntry core = .ok linked := by
  unfold coreEntry
  split
  · exact ⟨_, rfl⟩
  · exact ⟨_, r.entry_of_hashable h⟩

/-- Aligned hints resolve alike, if their cores can be hashed. -/
theorem resolvedAlike_of_aligned (r : Registry) (h : Aligned t u)
    (hhash : t.core.unhashable? = none ∧ u.core.unhashable? = none)
    (hkind : t.core.classify = none ∧ u.core.classify = none ∨ t.core = u.core) :
    ResolvedAlike (r.resolve t) (r.resolve u) := by
  have hentries : r.coreEntry t.core = r.coreEntry u.core := by
    rcases hkind with ⟨ht, hu⟩ | hcores
    · rw [r.coreEntry_of_leaf ht, r.coreEntry_of_leaf hu, r.entry_of_hashable hhash.1,
        r.entry_of_hashable hhash.2, r.get?_congr h.2]
    · rw [hcores]
  obtain ⟨linked, hlinked⟩ := r.exists_coreEntry hhash.2
  rw [r.resolve_eq_settle, r.resolve_eq_settle, hentries, hlinked]
  exact settle_resolvedAlike h.1 linked

/-- A new registry with one more link, under the given key. -/
def linkedTo (strict : Bool) (key : TypeHint) (g : SchemaType) : Registry :=
  (new strict).run [⟨.annotated key [.noneType], g⟩]

/-- A new registry finds the one link made under its key, and otherwise what it starts with. -/
theorem get?_linkedTo (strict : Bool) {key : TypeHint} (hkey : key.stripAnnotated = key)
    (hhash : key.unhashable? = none) (g : NamedType) (t : TypeHint) :
    (linkedTo strict key (.named g)).get? t =
      if key.identical t then some (.named g) else (new strict).get? t := by
  have hwritten : LinkCall.key ⟨.annotated key [.noneType], .named g⟩ = key := hkey
  have hwrites :
      LinkCall.writes (new strict).strict ⟨.annotated key [.noneType], .named g⟩ = true := by
    rw [LinkCall.writes, hwritten, hhash]
    simp [isVoid, isNoneType, SchemaType.isType, SchemaType.isNullable]
  exact (get?_after _ _ t).trans (by rw [hwrites, hwritten, Bool.true_and])

/-- A hint whose core is linked to a named type resolves to a tower around the type. -/
theorem resolve_of_linked {r : Registry} {g : NamedType} (hleaf : t.core.classify = none)
    (hhash : t.core.unhashable? = none) (h : r.get? t.core = some (.named g)) :
    r.resolve t = .ok (some (.tower t.listDepth t.endsOptional (.named g))) := by
  have hnull : ∀ g', r.get? t.core = some g' → g'.isNullable = true := by
    intro g' hg'
    rw [h] at hg'
    cases hg'
    rfl
  rw [r.resolve_eq_tower fun _ => ⟨hhash, hnull⟩, r.coreType_of_leaf hleaf, h]
  rfl

/-- A new registry knows no type of identifiers. -/
theorem ne_id_of_get?_new {strict : Bool} {g : SchemaType} (h : (new strict).get? t = some g) :
    g.innermost ≠ .named (.scalar "ID") := by
  refine stored_of_get? (p := fun g => g.innermost ≠ .named (.scalar "ID")) ?_ h
  simp [new, primitives, SchemaType.innermost, NamedType.scalar]

/-- Of two hints that end at different leaves, only the first one resolves to a type that is linked
to its core. -/
theorem not_resolvedAlike_of_leaves (strict : Bool)
    (hleaf : t.core.classify = none ∧ u.core.classify = none)
    (hhash : t.core.unhashable? = none ∧ u.core.unhashable? = none)
    (h : t.core.identical u.core = false) :
    let r := linkedTo strict t.core (.named (.scalar "ID"))
    ¬ ResolvedAlike (r.resolve t) (r.resolve u) := by
  intro r halike
  have hget := get?_linkedTo strict (stripAnnotated_core t) hhash.1 (.scalar "ID")
  have ht : r.resolve t = .ok (some (.tower t.listDepth t.endsOptional (.named (.scalar "ID")))) :=
    resolve_of_linked hleaf.1 hhash.1 (by rw [hget, identical_refl, if_pos rfl])
  rw [ht] at halike
  generalize hu : r.resolve u = answer at halike
  cases halike with
  | ok =>
    obtain ⟨linked, hlinked, htower⟩ := r.exists_tower_of_resolve hu
    have hinnermost := congrArg SchemaType.innermost htower
    rw [SchemaType.innermost_tower, SchemaType.innermost_tower] at hinnermost
    rw [r.coreEntry_of_leaf hleaf.2, r.entry_of_hashable hhash.2, hget, h,
      if_neg Bool.false_ne_true] at hlinked
    exact ne_id_of_get?_new (Except.ok.inj hlinked) hinnermost.symm

/-- A hint that passes one list more than another one resolves to one list more, if the class below
both is linked. -/
theorem not_resolvedAlike_of_passes (strict : Bool) {c : Class} (h : Passes c t u) :
    let r := linkedTo strict (.cls c) (.named (.scalar "ID"))
    ¬ ResolvedAlike (r.resolve t) (r.resolve u) := by
  intro r halike
  obtain ⟨ht, hu⟩ := h.core_eq
  have hget : r.get? (.cls c) = some (.named (.scalar "ID")) := by
    rw [get?_linkedTo strict rfl rfl, identical_refl, if_pos rfl]
  have resolve {v : TypeHint} (hv : v.core = .cls c) :=
    resolve_of_linked (r := r) (t := v) (by rw [hv]; rfl) (by rw [hv]; rfl) (by rw [hv, hget])
  rw [resolve ht, resolve hu] at halike
  generalize hlayers : SchemaType.tower u.listDepth u.endsOptional _ = answer at halike
  cases halike with
  | ok =>
    have hdepth := congrArg (fun g : SchemaType => g.layers.count .list) hlayers
    simp only [SchemaType.count_layers_tower] at hdepth
    rw [listDepth, listDepth, h.steps_eq, List.count_append] at hdepth
    simp at hdepth

/-- Hints whose ways down end, but that are not aligned, resolve differently with some registry. -/
theorem exists_not_resolvedAlike (strict : Bool) (hwalk : Walk t u) (h : ¬ Aligned t u) :
    ∃ r, Reached strict r ∧ ¬ ResolvedAlike (r.resolve t) (r.resolve u) := by
  cases hwalk with
  | together hsteps hcores hkind =>
    have hother : t.core.identical u.core = false := Bool.eq_false_iff.mpr fun hsame =>
      h ⟨hsteps, hsame⟩
    rcases hkind with hleaf | hsame
    · have hhash := hcores.unhashable?_eq (stripAnnotated_core t) (stripAnnotated_core u)
      exact ⟨_, ⟨_, rfl⟩, not_resolvedAlike_of_leaves strict hleaf hhash hother⟩
    · rw [hsame, identical_refl] at hother
      cases hother
  | left c h => exact ⟨_, ⟨_, rfl⟩, not_resolvedAlike_of_passes strict h⟩
  | right c h => exact ⟨_, ⟨_, rfl⟩, fun halike => not_resolvedAlike_of_passes strict h halike.symm⟩

/-- Hints that are equal as keys resolve alike with every registry if they are aligned. -/
theorem resolvedAlike_of_met (r : Registry) (h : Met t u) (ht : t.Unmarked) (hu : u.Unmarked)
    (haligned : Aligned t u) : ResolvedAlike (r.resolve t) (r.resolve u) := by
  cases walk_of_met h ht hu with
  | left c h => exact absurd haligned h.not_aligned
  | right c h => exact absurd haligned.symm h.not_aligned
  | together hsteps hcores hkind =>
    have hhash := hcores.unhashable?_eq (stripAnnotated_core t) (stripAnnotated_core u)
    exact r.resolvedAlike_of_aligned haligned hhash hkind

/-- **Equal hints resolve alike where they are aligned.** Two hints that are equal as keys, can be
spelled and hashed, and have no marker of references on their spines, are classified alike and
resolve alike with all registries of either strictness exactly if they lead over the same steps to
cores that are the same key. That is so whenever neither of them has the alias of a class to itself
around its core or in it. -/
theorem alike_iff_aligned (ht : t.Spelled) (hu : u.Spelled) (hhash : t.unhashable? = none)
    (hhash' : u.unhashable? = none) (hmarker : t.Unmarked) (hmarker' : u.Unmarked)
    (h : identityEqual t u = true) :
    (∀ strict : Bool, (ClassifiedAlike t u ∧ ∀ r : Registry, Reached strict r →
      ResolvedAlike (r.resolve t) (r.resolve u)) ↔ Aligned t u) ∧
    (t.SelfAliasFree → u.SelfAliasFree → ClassifiedAlike t u ∧
      ∀ r : Registry, ResolvedAlike (r.resolve t) (r.resolve u)) := by
  rcases met_or_container ht.wellFormed hu.wellFormed hhash hhash' h with
    hmet | ⟨hsame, ⟨hleaf, hcore⟩, hleaf', hcore'⟩
  · have hwalk := walk_of_met hmet hmarker hmarker'
    have halike (haligned : Aligned t u) : ClassifiedAlike t u ∧
        ∀ r : Registry, ResolvedAlike (r.resolve t) (r.resolve u) :=
      ⟨classifiedAlike_of_met hmet hmarker hmarker' haligned,
        fun r => r.resolvedAlike_of_met hmet hmarker hmarker' haligned⟩
    refine ⟨fun strict => ⟨fun hall => ?_, fun haligned => ?_⟩,
      fun hfree hfree' => halike (hwalk.aligned hfree hfree')⟩
    · by_contra hother
      obtain ⟨r, hr, hdifferent⟩ := exists_not_resolvedAlike strict hwalk hother
      exact hdifferent (hall.2 r hr)
    · exact ⟨(halike haligned).1, fun r _ => (halike haligned).2 r⟩
  · -- A raw list or mapping is a leaf and its own core.
    have haligned : Aligned t u :=
      ⟨by rw [steps_of_leaf hleaf, steps_of_leaf hleaf'], by rwa [hcore, hcore']⟩
    have hclassified : ClassifiedAlike t u := by
      rw [ClassifiedAlike, hleaf, hleaf']
      exact .none
    have halike (r : Registry) : ResolvedAlike (r.resolve t) (r.resolve u) :=
      r.resolvedAlike_of_aligned haligned (by rw [hcore, hcore']; exact ⟨hhash, hhash'⟩)
        (.inl (by rw [hcore, hcore']; exact ⟨hleaf, hleaf'⟩))
    exact ⟨fun strict => iff_of_true ⟨hclassified, fun r _ => halike r⟩ haligned,
      fun _ _ => ⟨hclassified, halike⟩⟩

/-- Optional lists of integers, in the two families of unions and with the absence of a value in the
two places, are equal and resolve alike. -/
theorem alike_iff_aligned_optional :
    let list : TypeHint := .generic .builtin Class.Builtin.list [.cls Class.Builtin.int]
    let t : TypeHint := .union .typing [list, noneType]
    let u : TypeHint := .union .operator [noneType, list]
    t.Spelled ∧ u.Spelled ∧ t.unhashable? = none ∧ u.unhashable? = none ∧ t.Unmarked ∧ u.Unmarked ∧
      identityEqual t u = true ∧ t.SelfAliasFree ∧ u.SelfAliasFree ∧ ClassifiedAlike t u ∧
      (new true).resolve t = .ok (some (.list (.nonNull (.named (.scalar "Int"))))) ∧
      (new true).resolve u = .ok (some (.list (.nonNull (.named (.scalar "Int"))))) := by
  intro list t u
  let w : Workshop := { classes := [Class.Builtin.list, Class.Builtin.int] }
  have hspelled : t.Spelled :=
    ⟨w.classes, [], .optional (.subscript "list" [.cls "int"]), w, w, rfl,
      by with_unfolding_all rfl⟩
  have hspelled' : u.Spelled :=
    ⟨w.classes, [], .either [.value .none, .subscript "list" [.cls "int"]], w, w, rfl,
      by with_unfolding_all rfl⟩
  have hequal : identityEqual t u = true := by decide +kernel
  have hlist : list.classify = some ⟨.list, .cls Class.Builtin.int⟩ := rfl
  have hint : (cls Class.Builtin.int).classify = none := rfl
  have hsteps : list.steps ≠ [] := by simp [steps_of_list hlist]
  have hinner : list.innermostWrapper = list := by
    rw [innermostWrapper_of_step hlist nofun, if_pos (steps_of_leaf hint)]
  have hspine {v : TypeHint} (hv : v.classify = some ⟨.optional, list⟩) :
      v.Unmarked ∧ v.SelfAliasFree := by
    have hcore : v.core = .cls Class.Builtin.int := by
      rw [core_of_optional hv, core_of_list hlist, core_of_leaf hint]
      rfl
    refine ⟨.inl (by rw [hcore]; rfl), by rw [hcore]; rfl, fun c => ?_⟩
    rw [innermostWrapper_of_step hv nofun, if_neg hsteps, hinner]
    nofun
  obtain ⟨hmarker, hfree⟩ := hspine (v := t) rfl
  obtain ⟨hmarker', hfree'⟩ := hspine (v := u) rfl
  obtain ⟨hclassified, halike⟩ :=
    (alike_iff_aligned hspelled hspelled' rfl rfl hmarker hmarker' hequal).2 hfree hfree'
  have hentry :
      (new true).entry (.cls Class.Builtin.int) = .ok (some (.named (.scalar "Int"))) := by
    have hself : identical (cls Class.Builtin.int) (.cls Class.Builtin.int) = true :=
      identical_refl _
    rw [entry_of_hashable _ rfl]
    change Except.ok (if identical _ _ then _ else _) = _
    rw [hself, if_pos rfl]
  have hoptional : t.classify = some ⟨.optional, list⟩ := rfl
  have hresolve :
      (new true).resolve t = .ok (some (.list (.nonNull (.named (.scalar "Int"))))) := by
    rw [resolve_of_optional_wrapper _ hoptional hlist nofun, resolve_of_list_leaf _ hlist hint,
      hentry]
    rfl
  have halike := halike (new true)
  rw [hresolve] at halike
  refine ⟨hspelled, hspelled', rfl, rfl, hmarker, hmarker', hequal, hfree, hfree', hclassified,
    hresolve, ?_⟩
  generalize (new true).resolve u = answer at halike ⊢
  cases halike
  rfl

/-- The alias of lists to themselves equals an annotation of lists, is a list and resolves to one,
which the annotation does not. -/
theorem equal_alias_not_alike :
    let t : TypeHint := selfAlias Class.Builtin.list
    let u : TypeHint := .annotated (.cls Class.Builtin.list) [text "m"]
    let id : SchemaType := .named (.scalar "ID")
    let r := (new true).run [⟨.cls Class.Builtin.list, id⟩]
    t.Spelled ∧ u.Spelled ∧ t.unhashable? = none ∧ u.unhashable? = none ∧ t.Unmarked ∧ u.Unmarked ∧
      identityEqual t u = true ∧ ¬ ClassifiedAlike t u ∧
      r.resolve t = .ok (some (.list (.nonNull id))) ∧ r.resolve u = .ok (some (.nonNull id)) ∧
      ¬ ResolvedAlike (r.resolve t) (r.resolve u) := by
  intro t u id r
  let w : Workshop := { classes := [Class.Builtin.list] }
  have hspelled : t.Spelled := ⟨w.classes, [], .apply "List" [.cls "list"], w, w, rfl, rfl⟩
  have hspelled' : u.Spelled :=
    ⟨w.classes, [], .annotated (.cls "list") [.value (.text "m")], w, w, rfl, rfl⟩
  have hlist : t.classify = some ⟨.list, .cls Class.Builtin.list⟩ := rfl
  have hleaf : (cls Class.Builtin.list).classify = none := rfl
  have hleaf' : u.classify = none := rfl
  have hmarker : t.Unmarked :=
    .inl (by rw [core_of_list hlist, core_of_leaf hleaf]; rfl)
  have hmarker' : u.Unmarked := .inl (by rw [core_of_leaf hleaf']; rfl)
  have hentry : r.entry (.cls Class.Builtin.list) = .ok (some id) := by
    have hlookup : r.lookup (.cls Class.Builtin.list) = .ok (some id) :=
      (new true).lookup_key_after ⟨.cls Class.Builtin.list, id⟩ rfl
    rw [entry, hlookup]
    rfl
  have hresolve : r.resolve t = .ok (some (.list (.nonNull id))) := by
    rw [r.resolve_of_list_leaf hlist hleaf, hentry]
    rfl
  have hresolve' : r.resolve u = .ok (some (.nonNull id)) := by
    have hstrip : u.stripAnnotated = .cls Class.Builtin.list := rfl
    rw [r.resolve_of_leaf hleaf', hstrip, hentry]
    rfl
  refine ⟨hspelled, hspelled', rfl, rfl, hmarker, hmarker', identityEqual_selfAlias _ _, ?_,
    hresolve, hresolve', ?_⟩
  · rw [ClassifiedAlike, hlist, hleaf']
    intro h
    cases h
  · rw [hresolve, hresolve']
    intro h
    cases h

end Registry

end SchemaLink
