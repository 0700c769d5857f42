import SchemaLink.Proofs.HintOutline
import SchemaLink.Proofs.SpelledHints

/-!
# Wrappers as keys

A registry may hold wrappers as keys, but only leaves are ever looked up for a resolution. A
well-formed leaf that can be hashed is never the same key as a wrapper: the comparison of keys looks
at the parts that make a hint a wrapper, and the members of a well-formed union are too few to hide
that it is optional.
-/

namespace SchemaLink

/-- A constant that is no number is only ever the same as itself. -/
theorem Value.eq_of_same {v w : Value} (hv : v.magnitude? = Option.none) (h : v.same w = true) :
    w = v := by
  have hcomparand := same_iff.mp h
  simp only [comparand, hv] at hcomparand
  split at hcomparand
  · cases hcomparand
  · exact (Sum.inr.inj hcomparand).symm

namespace TypeHint

section Members

variable {xs ys : List TypeHint} {m : TypeHint}

/-- The member of an optional union is the only one that is not the class of absent values, and
there are others. -/
theorem optionalMember?_eq_some_iff : optionalMember? xs = some m ↔
    (xs.filter fun x => !x.isNoneType) = [m] ∧ 1 < xs.length := by
  unfold optionalMember?
  split
  case h_1 single heq => simp [heq, and_comm]
  case h_2 hother =>
    constructor
    · nofun
    · rintro ⟨heq, -⟩
      exact absurd heq (hother m)

/-- The member of an optional union is one of its members. -/
theorem mem_of_optionalMember? (h : optionalMember? xs = some m) : m ∈ xs := by
  have hm : m ∈ xs.filter fun x => !x.isNoneType := by
    rw [(optionalMember?_eq_some_iff.mp h).1]
    exact List.mem_singleton_self m
  exact (List.mem_filter.mp hm).1

/-- An optional union has the class of absent values for a member. -/
theorem noneType_mem_of_optionalMember? (h : optionalMember? xs = some m) : noneType ∈ xs := by
  obtain ⟨heq, hlength⟩ := optionalMember?_eq_some_iff.mp h
  have hshorter : (xs.filter fun x => !x.isNoneType).length < xs.length := by rwa [heq]
  obtain ⟨x, hx, hnone⟩ := List.length_filter_lt_length_iff_exists.mp hshorter
  simp only [Bool.not_eq_true, Bool.not_eq_false', isNoneType_iff] at hnone
  exact hnone ▸ hx

/-- Hints that are the same key are both the class of absent values, or neither is. -/
theorem isNoneType_congr {x y : TypeHint} (h : same x y = true) :
    x.isNoneType = y.isNoneType := by
  rw [Bool.eq_iff_iff, isNoneType_iff, isNoneType_iff]
  constructor
  · rintro rfl
    exact same_cls_left h
  · rintro rfl
    exact same_cls_right h

/-- A union of distinct members is optional if it is the same key as an optional one. -/
theorem exists_optionalMember?_of_same (h : optionalMember? xs = some m)
    (hxs : ∀ x ∈ xs, ∃ y ∈ ys, same x y = true) (hys : ∀ y ∈ ys, ∃ x ∈ xs, same x y = true)
    (hdistinct : ys.Pairwise fun y z => same z y = false) :
    ∃ m', optionalMember? ys = some m' := by
  obtain ⟨hfilter, -⟩ := optionalMember?_eq_some_iff.mp h
  -- Every member of `ys` but the class of absent values is the same key as `m`.
  have hsame : ∀ y ∈ ys.filter fun y => !y.isNoneType, same m y = true := by
    intro y hy
    obtain ⟨hy, hother⟩ := List.mem_filter.mp hy
    obtain ⟨x, hx, hxy⟩ := hys y hy
    have hx' : x ∈ xs.filter fun x => !x.isNoneType :=
      List.mem_filter.mpr ⟨hx, by rwa [isNoneType_congr hxy]⟩
    rw [hfilter] at hx'
    rwa [List.mem_singleton.mp hx'] at hxy
  have hlength : (ys.filter fun y => !y.isNoneType).length < ys.length := by
    obtain ⟨y, hy, hsame⟩ := hxs noneType (noneType_mem_of_optionalMember? h)
    obtain rfl := same_cls_left hsame
    exact List.length_filter_lt_length_iff_exists.mpr ⟨_, hy, by simp⟩
  match hkept : ys.filter fun y => !y.isNoneType with
  | [] =>
    obtain ⟨y, hy, hmy⟩ := hxs m (mem_of_optionalMember? h)
    have hm : m ∈ xs.filter fun x => !x.isNoneType := by
      rw [hfilter]
      exact List.mem_singleton_self m
    have hy' : y ∈ ys.filter fun y => !y.isNoneType :=
      List.mem_filter.mpr ⟨hy, by rw [← isNoneType_congr hmy]; exact (List.mem_filter.mp hm).2⟩
    rw [hkept] at hy'
    cases hy'
  | [m'] =>
    rw [hkept] at hlength
    exact ⟨m', optionalMember?_eq_some_iff.mpr ⟨hkept, hlength⟩⟩
  | y :: z :: rest =>
    have hpair := hdistinct.sublist (List.filter_sublist (p := fun y => !y.isNoneType))
    rw [hkept] at hsame hpair
    have hzy := same_trans (same_symm (hsame z (by simp))) (hsame y (by simp))
    have hother := List.rel_of_pairwise_cons hpair List.mem_cons_self
    rw [hzy] at hother
    cases hother

end Members

section WellFormed

variable {t : TypeHint} {w : Wrapper}

/-- A wrapper that is no name wraps one of its parts, but for annotations. -/
theorem exists_part_of_classify (hw : t.classify = some w) :
    t.stripAnnotated.isName = true ∧ w.wrapped = t.stripAnnotated ∨
      ∃ p ∈ t.stripAnnotated.parts, w.wrapped = p.stripAnnotated := by
  unfold classify classifyBare at hw
  split at hw
  case h_1 s heq =>
    obtain rfl := Option.some.inj hw
    exact .inl ⟨by rw [heq]; rfl, rfl⟩
  case h_2 name heq =>
    obtain rfl := Option.some.inj hw
    exact .inl ⟨by rw [heq]; rfl, rfl⟩
  case h_3 flavour members heq =>
    obtain ⟨m, hm, rfl⟩ := Option.map_eq_some_iff.mp hw
    rw [heq]
    exact .inr ⟨m, mem_of_optionalMember? hm, rfl⟩
  case h_4 flavour origin args heq =>
    rw [heq]
    unfold classifyAlias at hw
    split at hw
    · next arg =>
      refine .inr ⟨arg, List.mem_cons_self, ?_⟩
      split at hw
      · exact (Option.some.inj hw) ▸ rfl
      · split at hw
        · exact (Option.some.inj hw) ▸ rfl
        · cases hw
    · next arg =>
      refine .inr ⟨arg, List.mem_cons_self, ?_⟩
      split at hw
      · exact (Option.some.inj hw) ▸ rfl
      · cases hw
    · cases hw
  case h_5 => cases hw

/-- What a well-formed hint wraps is well-formed. -/
theorem WellFormed.wrapped (h : t.WellFormed) (hw : t.classify = some w) :
    w.wrapped.WellFormed := by
  obtain ⟨-, heq⟩ | ⟨p, hp, heq⟩ := exists_part_of_classify hw
  · rw [heq]
    exact h.stripAnnotated
  · rw [heq]
    exact (h.stripAnnotated.parts p hp).stripAnnotated

/-- A well-formed hint is well-formed with a text as a forward reference. -/
theorem WellFormed.asForward (h : t.WellFormed) : t.asForward.WellFormed := by
  unfold TypeHint.asForward
  split
  · exact wellFormed_of_parts_eq_nil rfl
  · exact h

/-- The destination of a well-formed hint is well-formed. -/
theorem WellFormed.destination (h : t.WellFormed) : t.destination.WellFormed := by
  induction t using target_induction with
  | leaf t hw => rw [destination_of_leaf hw]; exact h.stripAnnotated
  | name t hname =>
    rw [← destination_stripAnnotated, destination_of_isName hname]
    exact h.stripAnnotated.asForward
  | wrapper t w hw ih => rw [destination_of_wrapper hw]; exact ih (h.wrapped hw)

end WellFormed

/-- A list that holds the same hints as a list of one hint has one hint. -/
theorem exists_of_sameList_singleton {x : TypeHint} {ys : List TypeHint}
    (h : sameList [x] ys = true) : ∃ y, ys = [y] := by
  match ys with
  | [] => simp [sameList] at h
  | [y] => exact ⟨y, rfl⟩
  | _ :: _ :: _ => simp [sameList] at h

/-- A list that holds the same hints as a list of a hint and an ellipsis ends in an ellipsis too. -/
theorem exists_of_sameList_ellipsis {x : TypeHint} {ys : List TypeHint}
    (h : sameList [x, .value .ellipsis] ys = true) : ∃ y, ys = [y, .value .ellipsis] := by
  match ys with
  | [] => simp [sameList] at h
  | y :: ys =>
    simp only [sameList, Bool.and_eq_true] at h
    obtain ⟨z, rfl⟩ := exists_of_sameList_singleton h.2
    simp only [sameList, Bool.and_true] at h
    cases SameParts.of_same h.2 with
    | value hv => exact ⟨y, by rw [Value.eq_of_same rfl hv]⟩

/-- An alias wraps if its arguments are the same keys as those of an alias that wraps. -/
theorem isSome_classifyAlias_of_sameList {origin : Class} {xs ys : List TypeHint}
    (h : (classifyAlias origin xs).isSome = true) (hsame : sameList xs ys = true) :
    (classifyAlias origin ys).isSome = true := by
  unfold classifyAlias at h
  split at h
  case h_1 x =>
    obtain ⟨y, rfl⟩ := exists_of_sameList_singleton hsame
    rw [classifyAlias]
    split
    · rfl
    · split
      · rfl
      · simp_all
  case h_2 x =>
    obtain ⟨y, rfl⟩ := exists_of_sameList_ellipsis hsame
    rw [classifyAlias]
    split
    · rfl
    · simp_all
  case h_3 => cases h

/-- A hint that is left when annotations are stripped is no annotation. -/
theorem ne_annotated_of_stripAnnotated {t : TypeHint} (h : t.stripAnnotated = t)
    (target : TypeHint) (metadata : List TypeHint) : t ≠ .annotated target metadata := by
  rintro rfl
  have hle := sizeOf_stripAnnotated_le target
  rw [show target.stripAnnotated = .annotated target metadata from h] at hle
  simp at hle
  omega

/-- Only an annotation is not left as it is when annotations are stripped. -/
theorem exists_annotated_of_stripAnnotated_ne {t : TypeHint} (h : t.stripAnnotated ≠ t) :
    ∃ target metadata, t = .annotated target metadata := by
  cases t with
  | annotated target metadata => exact ⟨target, metadata, rfl⟩
  | _ => exact absurd rfl h

/-- A hint without annotations around it wraps if it is the same key as a wrapper, is well-formed
and can be hashed. -/
theorem isWrapper_of_same {k t : TypeHint} (hk : k.isWrapper = true) (h : same k t = true)
    (hstrip : t.stripAnnotated = t) (ht : t.WellFormed) (hhash : t.firstUnhashable = Option.none) :
    t.isWrapper = true := by
  have hbare := ne_annotated_of_stripAnnotated hstrip
  cases SameParts.of_same h with
  | @value v w hv =>
    cases v with
    | text s => rw [Value.eq_of_same rfl hv]; rfl
    | _ => cases hk
  | forward n => rfl
  | generic f c hargs => exact isSome_classifyAlias_of_sameList hk hargs
  | @union f g xs ys hxs hys =>
    obtain ⟨m, hm⟩ : ∃ m, optionalMember? xs = some m := by
      rw [← Option.isSome_iff_exists, ← Option.isSome_map]
      exact hk
    have hmembers : firstUnhashableOf ys = Option.none := by rwa [firstUnhashable] at hhash
    obtain ⟨m', hm'⟩ := exists_optionalMember?_of_same hm hxs hys (ht.distinct hmembers)
    rw [isWrapper, classify, hstrip, classifyBare, hm']
    rfl
  | annotated _ _ => exact absurd rfl (hbare _ _)
  | aliasAnnotated c => exact absurd rfl (hbare _ _)
  | _ => cases hk

/-- A well-formed leaf is not the same registry key as a wrapper, if it can be hashed. -/
theorem identical_eq_false_of_leaf {k t : TypeHint} (hk : k.isWrapper = true)
    (hleaf : t.classify = Option.none) (hstrip : t.stripAnnotated = t) (ht : t.WellFormed)
    (hhash : t.unhashable? = Option.none) : k.identical t = false := by
  refine Bool.eq_false_iff.mpr fun hsame => ?_
  have hashable : k.isHashable = true := by
    cases k with
    | list token items => cases hk
    | dict token keys values => cases hk
    | _ => rfl
  obtain ⟨hashable', hsame⟩ := (identical_iff_of_isHashable hashable).mp hsame
  have hwrapper := isWrapper_of_same hk hsame hstrip ht
    (firstUnhashable_of_isHashable hashable' hhash)
  rw [isWrapper, hleaf] at hwrapper
  cases hwrapper

end TypeHint

end SchemaLink
