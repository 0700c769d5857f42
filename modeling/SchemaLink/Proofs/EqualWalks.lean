import SchemaLink.Proofs.EqualWrappers

/-!
# The ways down from equal hints

Two equal hints that can be hashed lead down side by side, step by step, to cores that are equal as
well, unless the alias of a class to itself is compared on the way with the class: the way of the
alias may then be one list longer. The hints are aligned if the ways take the same steps and end at
cores that are the same key. Aligned hints are classified alike, and hints are aligned wherever no
alias of a class to itself comes up around their cores or in them.
-/

namespace SchemaLink

namespace TypeHint

/-- No marker of references stands on the spine: the core is a leaf or a name on its own. -/
def Unmarked (t : TypeHint) : Prop := t.core.classify = Option.none ∨ t.core.isName = true

/-- Two hints lead over the same steps to cores that are the same key. -/
def Aligned (t u : TypeHint) : Prop := t.steps = u.steps ∧ t.core.identical u.core = true

/-- The alias of a class to itself is neither the wrapper around the core nor a part of the core. -/
def SelfAliasFree (t : TypeHint) : Prop :=
  t.core.holdsSelfAlias = false ∧ ∀ c, t.innermostWrapper.stripAnnotated ≠ selfAlias c

/-- The first hint passes one list more than the second one, the alias of a class to itself around
the class. -/
structure Passes (c : Class) (t u : TypeHint) : Prop where
  core_eq : t.core = .cls c ∧ u.core = .cls c
  steps_eq : t.steps = u.steps ++ [.list]
  alias_eq : t.innermostWrapper.stripAnnotated = selfAlias c

/-- How the ways down from two hints end. -/
inductive Walk (t u : TypeHint) : Prop where
  | together (steps_eq : t.steps = u.steps) (cores : Met t.core u.core)
      (kind : t.core.classify = Option.none ∧ u.core.classify = Option.none ∨ t.core = u.core)
  | left (c : Class) (h : Passes c t u)
  | right (c : Class) (h : Passes c u t)

section Steps

variable {t u : TypeHint} {w w' : Wrapper}

/-- An optional hint or a list takes one step more than the hint inside and has its core. -/
theorem steps_core_of_wrapper (h : t.classify = some w) (hm : w.modifier ≠ .reference) :
    t.steps = w.modifier :: w.wrapped.steps ∧ t.core = w.wrapped.core := by
  obtain ⟨modifier, wrapped⟩ := w
  cases modifier with
  | reference => exact absurd rfl hm
  | optional => exact ⟨steps_of_optional h, core_of_optional h⟩
  | list => exact ⟨steps_of_list h, core_of_list h⟩

/-- A hint that passes one list more than another one does so inside a step of both. -/
theorem Passes.step {c : Class} (h : Passes c w.wrapped w'.wrapped) (ht : t.classify = some w)
    (hu : u.classify = some w') (hmodifier : w.modifier = w'.modifier)
    (hm : w.modifier ≠ .reference) : Passes c t u := by
  obtain ⟨hsteps, hcore⟩ := steps_core_of_wrapper ht hm
  obtain ⟨hsteps', hcore'⟩ := steps_core_of_wrapper hu (hmodifier ▸ hm)
  have hne : w.wrapped.steps ≠ [] := by
    rw [h.steps_eq]
    exact List.append_ne_nil_of_right_ne_nil _ (List.cons_ne_nil _ _)
  refine ⟨by rw [hcore, hcore']; exact h.core_eq, ?_, ?_⟩
  · rw [hsteps, hsteps', h.steps_eq, hmodifier, List.cons_append]
  · rw [innermostWrapper_of_step ht hm, if_neg hne, h.alias_eq]

/-- Ways down end inside a step of both as they do with it. -/
theorem Walk.step (h : Walk w.wrapped w'.wrapped) (ht : t.classify = some w)
    (hu : u.classify = some w') (hmodifier : w.modifier = w'.modifier)
    (hm : w.modifier ≠ .reference) : Walk t u := by
  obtain ⟨hsteps, hcore⟩ := steps_core_of_wrapper ht hm
  obtain ⟨hsteps', hcore'⟩ := steps_core_of_wrapper hu (hmodifier ▸ hm)
  cases h with
  | together heq hcores hkind =>
    refine .together ?_ ?_ ?_
    · rw [hsteps, hsteps', hmodifier, heq]
    · rwa [hcore, hcore']
    · rwa [hcore, hcore']
  | left c h => exact .left c (h.step ht hu hmodifier hm)
  | right c h => exact .right c (h.step hu ht hmodifier.symm (hmodifier ▸ hm))

/-- The alias of a class to itself is one list around the class, or a leaf, or a marker. -/
theorem classify_of_selfAlias {c : Class} (h : t.stripAnnotated = selfAlias c) : t.classify =
    if c = Class.Builtin.reference then some ⟨.reference, .cls c⟩
    else if c ∈ listOrigins then some ⟨.list, .cls c⟩ else Option.none := by
  rw [classify, h]
  rfl

/-- A hint inside a step of an unmarked hint is unmarked. -/
theorem Unmarked.wrapped (h : t.Unmarked) (hw : t.classify = some w)
    (hm : w.modifier ≠ .reference) : w.wrapped.Unmarked := by
  rwa [Unmarked, (steps_core_of_wrapper hw hm).2] at h

/-- An unmarked reference is a name and holds itself. -/
theorem Unmarked.isName_of_reference {target : TypeHint} (h : t.Unmarked)
    (hw : t.classify = some ⟨.reference, target⟩) :
    t.stripAnnotated.isName = true ∧ target = t.stripAnnotated := by
  have hname : t.stripAnnotated.isName = true := by
    rw [Unmarked, core_of_reference hw, classify_stripAnnotated, hw] at h
    exact h.resolve_left nofun
  rw [← classify_stripAnnotated, classify_of_isName hname] at hw
  cases hw
  exact ⟨hname, rfl⟩

/-- From the alias of a class to itself and from the class, the ways down end with one list more or
at different leaves. -/
theorem passes_or_leaves {c : Class} (ht : t.stripAnnotated = selfAlias c)
    (hu : u.stripAnnotated = .cls c) (hmarker : t.Unmarked) : Passes c t u ∨
      t.steps = [] ∧ u.steps = [] ∧ t.core = selfAlias c ∧ u.core = .cls c ∧
        (selfAlias c).classify = Option.none := by
  have hleaf : u.classify = Option.none := by
    rw [classify, hu]
    rfl
  have hcore : u.core = .cls c := by rw [core_of_leaf hleaf, hu]
  have hsteps := steps_of_leaf hleaf
  have hclassify := classify_of_selfAlias ht
  split at hclassify
  case isTrue =>
    have hname := (hmarker.isName_of_reference hclassify).1
    rw [ht] at hname
    cases hname
  case isFalse =>
    split at hclassify
    case isTrue hlist =>
      have hclass : (cls c).classify = Option.none := rfl
      left
      refine ⟨⟨?_, hcore⟩, ?_, ?_⟩
      · rw [core_of_list hclassify, core_of_leaf hclass]
        rfl
      · rw [steps_of_list hclassify, steps_of_leaf hclass, hsteps]
        rfl
      · rw [innermostWrapper_of_step hclassify (by simp), if_pos (steps_of_leaf hclass), ht]
    case isFalse =>
      right
      refine ⟨steps_of_leaf hclassify, hsteps, by rw [core_of_leaf hclassify, ht], hcore, ?_⟩
      rw [← ht, classify_stripAnnotated, hclassify]

/-- Equal names are one name. -/
theorem Matched.eq_of_isName (h : Matched t u) (hname : t.isName = true) : t = u := by
  cases EqualParts.of_equals h.hashable.1 h.hashable.2 h.equal with
  | name => rfl
  | leaf ht => rw [classify_of_isName hname] at ht; cases ht.1
  | _ => cases hname

/-- A name is neither a class nor an alias. -/
theorem Crossed.isName_eq_false (h : Crossed t u) : t.isName = false := by
  obtain ⟨c, ⟨rfl, -⟩ | ⟨rfl, -⟩⟩ := h <;> rfl

/-- Hints without annotations around them that are equal wrap alike. -/
theorem classify_rel_of_matched (h : Matched t.stripAnnotated u.stripAnnotated) :
    Option.Rel (Wrapper.Related Met) t.classify u.classify := by
  have hrel := h.classify_rel (stripAnnotated_stripAnnotated t) (stripAnnotated_stripAnnotated u)
  rwa [classify_stripAnnotated, classify_stripAnnotated] at hrel

end Steps

/-- From the alias of a class to itself and the class, the ways down end together or one list apart,
in either order. -/
theorem walk_of_selfAlias {t u : TypeHint} {c : Class} (ht : t.stripAnnotated = selfAlias c)
    (hu : u.stripAnnotated = .cls c) (hmarker : t.Unmarked) : Walk t u ∧ Walk u t := by
  have hclass : (cls c).classify = Option.none := rfl
  rcases passes_or_leaves ht hu hmarker with h | ⟨hsteps, hsteps', hcore, hcore', hleaf⟩
  · exact ⟨.left c h, .right c h⟩
  · have hcores : Met t.core u.core ∧ Met u.core t.core := by
      rw [hcore, hcore']
      exact ⟨.inr ⟨c, .inl ⟨rfl, rfl⟩⟩, .inr ⟨c, .inr ⟨rfl, rfl⟩⟩⟩
    rw [← hcore] at hleaf
    rw [← hcore'] at hclass
    exact ⟨.together (hsteps.trans hsteps'.symm) hcores.1 (.inl ⟨hleaf, hclass⟩),
      .together (hsteps'.trans hsteps.symm) hcores.2 (.inl ⟨hclass, hleaf⟩)⟩

/-- From crossed hints, the ways down end together or one list apart. -/
theorem walk_of_crossed {t u : TypeHint} (h : Crossed t.stripAnnotated u.stripAnnotated)
    (ht : t.Unmarked) (hu : u.Unmarked) : Walk t u := by
  obtain ⟨c, ⟨halias, hclass⟩ | ⟨hclass, halias⟩⟩ := h
  · exact (walk_of_selfAlias halias hclass ht).1
  · exact (walk_of_selfAlias halias hclass hu).2

section Matched

variable {t u : TypeHint}

/-- From a leaf and an equal hint there are no steps. -/
theorem walk_of_leaf (h : Matched t.stripAnnotated u.stripAnnotated)
    (hleaf : t.classify = Option.none) : Walk t u := by
  have hrel := classify_rel_of_matched h
  rw [hleaf] at hrel
  match hleaf' : u.classify, hrel with
  | Option.none, .none =>
    refine .together ?_ ?_ (.inl ?_)
    · rw [steps_of_leaf hleaf, steps_of_leaf hleaf']
    · rw [core_of_leaf hleaf, core_of_leaf hleaf']
      exact met_stripAnnotated.mpr (.inl h)
    · rw [core_of_leaf hleaf, core_of_leaf hleaf', classify_stripAnnotated,
        classify_stripAnnotated]
      exact ⟨hleaf, hleaf'⟩

/-- From an unmarked reference and an equal hint there are no steps, and both are one name. -/
theorem walk_of_reference {target : TypeHint} (h : Matched t.stripAnnotated u.stripAnnotated)
    (ht : t.Unmarked) (hreference : t.classify = some ⟨.reference, target⟩) : Walk t u := by
  have hrel := classify_rel_of_matched h
  rw [hreference] at hrel
  match hreference' : u.classify, hrel with
  | some ⟨_, target'⟩, .some ⟨rfl, _⟩ =>
    have hcore := core_of_reference hreference
    have hname := (ht.isName_of_reference hreference).1
    refine .together ?_ ?_ (.inr ?_)
    · rw [steps_of_reference hreference, steps_of_reference hreference']
    · rw [hcore, core_of_reference hreference']
      exact met_stripAnnotated.mpr (.inl h)
    · rw [hcore, core_of_reference hreference', h.eq_of_isName hname]

/-- From an optional hint or a list and an equal hint, the ways down go on inside. -/
theorem walk_of_step {w : Wrapper} (h : Matched t.stripAnnotated u.stripAnnotated)
    (ht : t.Unmarked) (hu : u.Unmarked) (hw : t.classify = some w) (hm : w.modifier ≠ .reference)
    (inside : ∀ {v : TypeHint}, Met w.wrapped v → w.wrapped.Unmarked → v.Unmarked →
      Walk w.wrapped v) : Walk t u := by
  have hrel := classify_rel_of_matched h
  rw [hw] at hrel
  match hw' : u.classify, hrel with
  | some w', .some ⟨hmodifier, hmet⟩ =>
    have hm' : w'.modifier ≠ .reference := hmodifier ▸ hm
    exact (inside hmet (ht.wrapped hw hm) (hu.wrapped hw' hm')).step hw hw' hmodifier hm

/-- From hints that meet and are unmarked, the ways down end together or one list apart. -/
theorem walk_of_met (h : Met t u) (ht : t.Unmarked) (hu : u.Unmarked) : Walk t u := by
  -- The second hint follows the spine of the first one until they are crossed.
  induction t using spine_induction generalizing u with
  | leaf t hleaf => exact h.elim (walk_of_leaf · hleaf) (walk_of_crossed · ht hu)
  | reference t target hw => exact h.elim (walk_of_reference · ht hw) (walk_of_crossed · ht hu)
  | optional t wrapped hw ih =>
    exact h.elim (walk_of_step · ht hu hw nofun ih) (walk_of_crossed · ht hu)
  | list t wrapped hw ih =>
    exact h.elim (walk_of_step · ht hu hw nofun ih) (walk_of_crossed · ht hu)

end Matched

section Aligned

variable {t u : TypeHint}

/-- Hints are aligned in either order. -/
theorem Aligned.symm (h : Aligned t u) : Aligned u t := ⟨h.1.symm, identical_symm h.2⟩

/-- Hints of which one passes one list more are not aligned. -/
theorem Passes.not_aligned {c : Class} (h : Passes c t u) : ¬ Aligned t u := by
  intro haligned
  have hlength := congrArg List.length (h.steps_eq.symm.trans haligned.1)
  simp at hlength

/-- The alias of a class to itself and the class are not aligned. -/
theorem not_aligned_of_selfAlias {c : Class} (ht : t.stripAnnotated = selfAlias c)
    (hu : u.stripAnnotated = .cls c) (hmarker : t.Unmarked) : ¬ Aligned t u := by
  rcases passes_or_leaves ht hu hmarker with h | ⟨-, -, hcore, hcore', -⟩
  · exact h.not_aligned
  · rintro ⟨-, hsame⟩
    have hother : identical (selfAlias c) (.cls c) = false := by
      simp [selfAlias, identical, isHashable, same]
    rw [hcore, hcore', hother] at hsame
    cases hsame

/-- Crossed hints are not aligned. -/
theorem not_aligned_of_crossed (h : Crossed t.stripAnnotated u.stripAnnotated) (ht : t.Unmarked)
    (hu : u.Unmarked) : ¬ Aligned t u := by
  obtain ⟨c, ⟨halias, hclass⟩ | ⟨hclass, halias⟩⟩ := h
  · exact not_aligned_of_selfAlias halias hclass ht
  · exact fun haligned => not_aligned_of_selfAlias halias hclass hu haligned.symm

/-- A hint in which everything can be hashed is no raw list or mapping. -/
theorem isHashable_of_firstUnhashable (h : t.firstUnhashable = Option.none) :
    t.isHashable = true := by
  cases t with
  | list token items => cases h
  | dict token keys values => cases h
  | _ => rfl

/-- Matched hints are equal as keys of a registry. -/
theorem Matched.identityEqual (h : Matched t u) : identityEqual t u = true := by
  simp [TypeHint.identityEqual, denotesSame, isHashable_of_firstUnhashable h.hashable.1,
    isHashable_of_firstUnhashable h.hashable.2, h.equal]

/-- Two hints are wrappers of one kind that hold equal hints, or both are leaves. -/
def ClassifiedAlike (t u : TypeHint) : Prop :=
  Option.Rel (Wrapper.Related fun a b => identityEqual a b = true) t.classify u.classify

/-- Inside a step of both, aligned hints are aligned. -/
theorem Aligned.wrapped {w w' : Wrapper} (h : Aligned t u) (hw : t.classify = some w)
    (hw' : u.classify = some w') (hm : w.modifier ≠ .reference) (hm' : w'.modifier ≠ .reference) :
    Aligned w.wrapped w'.wrapped := by
  obtain ⟨hsteps, hcore⟩ := steps_core_of_wrapper hw hm
  obtain ⟨hsteps', hcore'⟩ := steps_core_of_wrapper hw' hm'
  rw [Aligned, hsteps, hsteps', hcore, hcore'] at h
  exact ⟨(List.cons.inj h.1).2, h.2⟩

/-- Aligned hints that meet are classified alike. -/
theorem classifiedAlike_of_met (h : Met t u) (ht : t.Unmarked) (hu : u.Unmarked)
    (haligned : Aligned t u) : ClassifiedAlike t u := by
  rcases h with hmatched | hcrossed
  · have hrel := classify_rel_of_matched hmatched
    rw [ClassifiedAlike]
    match hw : t.classify, hw' : u.classify, hrel with
    | Option.none, Option.none, .none => exact .none
    | some w, some w', .some ⟨hmodifier, hmet⟩ =>
      refine .some ⟨hmodifier, ?_⟩
      rcases hmet with hinner | hcrossed
      · rw [stripAnnotated_wrapped hw, stripAnnotated_wrapped hw'] at hinner
        exact hinner.identityEqual
      · by_cases hm : w.modifier = .reference
        · obtain ⟨_, target⟩ := w
          subst hm
          obtain ⟨hname, rfl⟩ := ht.isName_of_reference hw
          have hother := hcrossed.isName_eq_false
          rw [stripAnnotated_stripAnnotated, hname] at hother
          cases hother
        · have hm' := hmodifier ▸ hm
          exact absurd (haligned.wrapped hw hw' hm hm')
            (not_aligned_of_crossed hcrossed (ht.wrapped hw hm) (hu.wrapped hw' hm'))
  · exact absurd haligned (not_aligned_of_crossed hcrossed ht hu)

/-- Below annotations, hints that meet can be hashed. -/
theorem Met.unhashable?_eq (h : Met t u) (ht : t.stripAnnotated = t) (hu : u.stripAnnotated = u) :
    t.unhashable? = Option.none ∧ u.unhashable? = Option.none := by
  rw [Met, ht, hu] at h
  rcases h with hmatched | ⟨c, ⟨rfl, rfl⟩ | ⟨rfl, rfl⟩⟩
  · simp [unhashable?, hmatched.hashable]
  · exact ⟨rfl, rfl⟩
  · exact ⟨rfl, rfl⟩

/-- Where no alias of a class to itself comes up, the core is none. -/
theorem SelfAliasFree.core_ne (h : t.SelfAliasFree) (c : Class) : t.core ≠ selfAlias c := by
  intro halias
  have hself : (selfAlias c).holdsSelfAlias = true := by simp [selfAlias, holdsSelfAlias]
  rw [← halias, h.1] at hself
  cases hself

/-- Hints whose ways down end are aligned if no alias of a class to itself comes up there. -/
theorem Walk.aligned (h : Walk t u) (ht : t.SelfAliasFree) (hu : u.SelfAliasFree) :
    Aligned t u := by
  cases h with
  | left c h => exact absurd h.alias_eq (ht.2 c)
  | right c h => exact absurd h.alias_eq (hu.2 c)
  | together hsteps hcores hkind =>
    obtain ⟨hhash, hhash'⟩ := hcores.unhashable?_eq (stripAnnotated_core t) (stripAnnotated_core u)
    rw [Met, stripAnnotated_core, stripAnnotated_core] at hcores
    refine ⟨hsteps, ?_⟩
    rcases hcores with hmatched | ⟨c, ⟨halias, -⟩ | ⟨-, halias⟩⟩
    · exact identical_of_identityEqual hhash hhash' ht.1 hu.1 hmatched.identityEqual
    · exact absurd halias (ht.core_ne c)
    · exact absurd halias (hu.core_ne c)

/-- Equal keys meet, unless they are one raw list or mapping. -/
theorem met_or_container (ht : t.WellFormed) (hu : u.WellFormed)
    (hhash : t.unhashable? = Option.none) (hhash' : u.unhashable? = Option.none)
    (h : identityEqual t u = true) : Met t u ∨ identical t u = true ∧
      (t.classify = Option.none ∧ t.core = t) ∧ u.classify = Option.none ∧ u.core = u := by
  cases hashable : t.isHashable && u.isHashable with
  | true =>
    obtain ⟨hashable, hashable'⟩ := Bool.and_eq_true_iff.mp hashable
    have hequal : equals t u = .ok true := by
      rw [identityEqual, denotesSame, hashable, hashable', Bool.and_self, if_pos rfl] at h
      split at h
      case h_1 answer heq => rwa [h] at heq
      case h_2 => cases h
    have hmatched : Matched t u :=
      { hashable := ⟨firstUnhashable_of_isHashable hashable hhash,
          firstUnhashable_of_isHashable hashable' hhash'⟩
        wellFormed := ⟨ht, hu⟩
        equal := hequal }
    exact .inl hmatched.met
  | false =>
    right
    have hsame : identical t u = true := by simpa [identityEqual, denotesSame, hashable] using h
    have hcontainer : t.isHashable = false := by
      by_contra hother
      have hashable' := (identical_iff_of_isHashable (Bool.not_eq_false _ ▸ hother)).mp hsame
      simp_all
    obtain ⟨j, xs, rfl⟩ | ⟨j, keys, xs, rfl⟩ := eq_list_or_dict_of_not_isHashable hcontainer
    · obtain ⟨ys, rfl⟩ := identical_list_iff.mp hsame
      exact ⟨hsame, ⟨rfl, core_of_leaf rfl⟩, rfl, core_of_leaf rfl⟩
    · obtain ⟨ls, ys, rfl⟩ := identical_dict_iff.mp hsame
      exact ⟨hsame, ⟨rfl, core_of_leaf rfl⟩, rfl, core_of_leaf rfl⟩

end Aligned

end TypeHint

end SchemaLink
