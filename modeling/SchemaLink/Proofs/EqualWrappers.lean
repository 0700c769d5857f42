import Mathlib.Data.List.Forall2
import SchemaLink.Proofs.AnnotatedKeys
import SchemaLink.Proofs.EqualityParts
import SchemaLink.Proofs.SingleEntry

/-!
# Equal hints as wrappers

Two hints that are equal and can be hashed wrap in the same way, and what they wrap is equal again.
There is one exception: equality takes an annotation of a class for an alias of that class, so that
an annotation may equal the alias of the class to itself, which wraps differently or not at all. The
walk down from two equal hints goes on side by side until it reaches their cores, or such a pair.
-/

namespace SchemaLink

namespace TypeHint

/-- Two hints are equal where both are well-formed and can be hashed. -/
structure Matched (t u : TypeHint) : Prop where
  hashable : t.firstUnhashable = Option.none ∧ u.firstUnhashable = Option.none
  wellFormed : t.WellFormed ∧ u.WellFormed
  equal : equals t u = .ok true

/-- One hint is the alias of a class to itself, and the other one is the class. -/
def Crossed (t u : TypeHint) : Prop :=
  ∃ c, t = selfAlias c ∧ u = .cls c ∨ t = .cls c ∧ u = selfAlias c

/-- Two hints are equal below annotations, or one is the alias to itself of the class that the other
one is there. -/
def Met (t u : TypeHint) : Prop :=
  Matched t.stripAnnotated u.stripAnnotated ∨ Crossed t.stripAnnotated u.stripAnnotated

/-- Two wrappers are of one kind, with related hints inside. -/
def Wrapper.Related (R : TypeHint → TypeHint → Prop) (w w' : Wrapper) : Prop :=
  w.modifier = w'.modifier ∧ R w.wrapped w'.wrapped

/-- Annotations do not matter for where hints meet. -/
theorem met_stripAnnotated {t u : TypeHint} : Met t.stripAnnotated u.stripAnnotated ↔ Met t u := by
  simp only [Met, stripAnnotated_stripAnnotated]

section Lists

variable {xs ys : List TypeHint}

/-- Lists that are equal one by one hold equal hints, if these are well-formed and can be hashed. -/
theorem forall₂_of_equalsEach (hashable : firstUnhashableOf xs = Option.none ∧
    firstUnhashableOf ys = Option.none) (hxs : ∀ x ∈ xs, x.WellFormed)
    (hys : ∀ y ∈ ys, y.WellFormed) (h : equalsEach xs ys = .ok true) :
    List.Forall₂ Matched xs ys := by
  rw [firstUnhashableOf_eq_none_iff, firstUnhashableOf_eq_none_iff] at hashable
  induction xs generalizing ys with
  | nil =>
    cases ys with
    | nil => exact .nil
    | cons y ys => simp [equalsEach] at h
  | cons x xs ih =>
    cases ys with
    | nil => simp [equalsEach] at h
    | cons y ys =>
      simp only [List.forall_mem_cons] at hashable hxs hys
      rw [equalsEach] at h
      split at h
      case h_1 hequal =>
        exact .cons ⟨⟨hashable.1.1, hashable.2.1⟩, ⟨hxs.1, hys.1⟩, hequal⟩
          (ih ⟨hashable.1.2, hashable.2.2⟩ hxs.2 hys.2 h)
      case h_2 hne => exact absurd h hne

/-- Unions of distinct members that are the same key are both optional or both not, and the members
that they make optional are the same key. -/
theorem optionalMember?_rel (hxs : ∀ x ∈ xs, ∃ y ∈ ys, same x y = true)
    (hys : ∀ y ∈ ys, ∃ x ∈ xs, same x y = true)
    (hdistinct : xs.Pairwise (fun m n => same n m = false) ∧
      ys.Pairwise fun m n => same n m = false) :
    Option.Rel (fun m n => m ∈ xs ∧ n ∈ ys ∧ same m n = true) (optionalMember? xs)
      (optionalMember? ys) := by
  have back : ∀ y ∈ ys, ∃ x ∈ xs, same y x = true := fun y hy =>
    (hys y hy).imp fun x hx => ⟨hx.1, same_symm hx.2⟩
  have forth : ∀ x ∈ xs, ∃ y ∈ ys, same y x = true := fun x hx =>
    (hxs x hx).imp fun y hy => ⟨hy.1, same_symm hy.2⟩
  match hx : optionalMember? xs, hy : optionalMember? ys with
  | Option.none, Option.none => exact .none
  | some m, Option.none =>
    obtain ⟨n, hn⟩ := exists_optionalMember?_of_same hx hxs hys hdistinct.2
    cases hn.symm.trans hy
  | Option.none, some n =>
    obtain ⟨m, hm⟩ := exists_optionalMember?_of_same hy back forth hdistinct.1
    cases hm.symm.trans hx
  | some m, some n =>
    refine .some ⟨mem_of_optionalMember? hx, mem_of_optionalMember? hy, ?_⟩
    obtain ⟨hm, -⟩ := optionalMember?_eq_some_iff.mp hx
    obtain ⟨hn, -⟩ := optionalMember?_eq_some_iff.mp hy
    have hpresent : m.isNoneType = false := by
      have hmem : m ∈ xs.filter fun x => !x.isNoneType := by
        rw [hm]
        exact List.mem_singleton_self m
      simpa using (List.mem_filter.mp hmem).2
    obtain ⟨y, hy, hsame⟩ := hxs m (mem_of_optionalMember? hx)
    have hkept : y ∈ ys.filter fun y => !y.isNoneType :=
      List.mem_filter.mpr ⟨hy, by rw [← isNoneType_congr hsame, hpresent]; rfl⟩
    rw [hn] at hkept
    rwa [← List.mem_singleton.mp hkept]

end Lists

/-- How two hints come to be equal, as far as wrappers and annotations go. -/
inductive EqualParts : TypeHint → TypeHint → Prop where
  | name (t : TypeHint) (h : t.isName = true) : EqualParts t t
  | generic (f : AliasFlavour) (c : Class) {xs ys : List TypeHint}
      (h : equalsEach xs ys = .ok true) : EqualParts (.generic f c xs) (.generic f c ys)
  | union (f g : UnionFlavour) {xs ys : List TypeHint}
      (h : same (.union f xs) (.union g ys) = true) : EqualParts (.union f xs) (.union g ys)
  | annotated {t u : TypeHint} (ms ns : List TypeHint) (h : equals t u = .ok true) :
      EqualParts (.annotated t ms) (.annotated u ns)
  /-- An alias of a class to itself equals every annotation of the class. -/
  | aliasAnnotated (c : Class) (ms : List TypeHint) :
      EqualParts (selfAlias c) (.annotated (.cls c) ms)
  | annotatedAlias (c : Class) (ms : List TypeHint) :
      EqualParts (.annotated (.cls c) ms) (selfAlias c)
  | leaf {t u : TypeHint} (ht : t.classify = Option.none ∧ t.stripAnnotated = t)
      (hu : u.classify = Option.none ∧ u.stripAnnotated = u) : EqualParts t u

/-- Only a text is the same constant as a text. -/
theorem equalParts_of_value {v w : Value} (h : v.same w = true) :
    EqualParts (.value v) (.value w) := by
  cases v with
  | text s =>
    rw [Value.eq_of_same rfl h]
    exact .name _ rfl
  | _ =>
    cases w with
    | text s => cases Value.eq_of_same rfl ((Value.same_symm _ _).trans h)
    | _ => exact .leaf ⟨rfl, rfl⟩ ⟨rfl, rfl⟩

/-- Equal hints that can be hashed have equal parts. -/
theorem EqualParts.of_equals {t u : TypeHint} (ht : t.firstUnhashable = Option.none)
    (hu : u.firstUnhashable = Option.none) (h : equals t u = .ok true) : EqualParts t u := by
  have htparts := firstUnhashable_of_mem_comparedParts ht
  have huparts := firstUnhashable_of_mem_comparedParts hu
  have compared (x) (hx : x ∈ t.comparedParts) (y) (hy : y ∈ u.comparedParts) : Compared x y :=
    Comparable.compared (comparable_of_firstUnhashable (htparts x hx))
      (comparable_of_firstUnhashable (huparts y hy))
  have hparts := Comparable.decides_equals (comparable_of_firstUnhashable ht)
    (comparable_of_firstUnhashable hu)
  cases hparts.eq_ok_true_iff.mp h with
  | atom hatom hsame =>
    cases SameParts.of_same hsame with
    | value hvalue => exact equalParts_of_value hvalue
    | forward n => exact .name _ rfl
    | _ => first | exact .leaf ⟨rfl, rfl⟩ ⟨rfl, rfl⟩ | cases hatom
  | generic f c heach => exact .generic f c ((decides_equalsEach compared).eq_ok_true_iff.mpr heach)
  | annotated htarget _ =>
    have htargets := compared _ List.mem_cons_self _ List.mem_cons_self
    exact .annotated _ _ (htargets.eq_ok_true_iff.mpr htarget)
  | aliasAnnotated c ms => exact .aliasAnnotated c ms
  | annotatedAlias c ms => exact .annotatedAlias c ms
  | keyedUnion f g _ hsame => exact .union f g hsame
  | union _ unhashable => exact absurd (firstUnhashableMember_eq_none_iff.mpr ⟨ht, hu⟩) unhashable
  | list => cases ht
  | dict => cases ht
  | formAlias => exact .leaf ⟨rfl, rfl⟩ ⟨rfl, rfl⟩
  | tuple => exact .leaf ⟨rfl, rfl⟩ ⟨rfl, rfl⟩

/-- Only an ellipsis equals an ellipsis. -/
theorem eq_ellipsis_iff_of_equals {x y : TypeHint} (h : equals x y = .ok true) :
    x = .value .ellipsis ↔ y = .value .ellipsis := by
  constructor
  · rintro rfl
    cases y with
    | value w =>
      have hsame : Value.same .ellipsis w = true := by simpa [equals, same] using h
      rw [Value.eq_of_same rfl hsame]
    | _ => simp [equals, same] at h
  · rintro rfl
    cases x with
    | value v =>
      have hsame : v.same .ellipsis = true := by simpa [equals, same] using h
      rw [Value.eq_of_same rfl ((Value.same_symm _ _).trans hsame)]
    | _ => simp [equals, same] at h

section Matched

variable {t u : TypeHint}

/-- Below annotations, equal hints are equal or crossed. -/
theorem Matched.met {t u : TypeHint} (h : Matched t u) : Met t u := by
  have hself (ht : t.stripAnnotated = t) (hu : u.stripAnnotated = u) : Met t u :=
    .inl (by rwa [ht, hu])
  cases EqualParts.of_equals h.hashable.1 h.hashable.2 h.equal with
  | name t hname =>
    have hstrip := stripAnnotated_of_isName hname
    exact hself hstrip hstrip
  | generic f c heach => exact hself rfl rfl
  | union f g hsame => exact hself rfl rfl
  | leaf ht hu => exact hself ht.2 hu.2
  | aliasAnnotated c ms => exact .inr ⟨c, .inl ⟨rfl, rfl⟩⟩
  | annotatedAlias c ms => exact .inr ⟨c, .inr ⟨rfl, rfl⟩⟩
  | @annotated target target' ms ns hequal =>
    have htargets : Matched target target' :=
      { hashable := ⟨(firstUnhashable_annotated_eq_none_iff.mp h.hashable.1).1,
          (firstUnhashable_annotated_eq_none_iff.mp h.hashable.2).1⟩
        wellFormed := ⟨h.wellFormed.1.parts _ List.mem_cons_self,
          h.wellFormed.2.parts _ List.mem_cons_self⟩
        equal := hequal }
    exact htargets.met
termination_by sizeOf t

end Matched

section Classify

/-- Aliases of one origin with equal arguments wrap alike. -/
theorem classifyAlias_rel {R : TypeHint → TypeHint → Prop} (origin : Class) {xs ys : List TypeHint}
    (h : List.Forall₂ (fun x y => R x.stripAnnotated y.stripAnnotated ∧
      (x = .value .ellipsis ↔ y = .value .ellipsis)) xs ys) :
    Option.Rel (Wrapper.Related R) (classifyAlias origin xs) (classifyAlias origin ys) := by
  cases h with
  | nil => exact .none
  | @cons x y xs ys hxy h =>
    cases h with
    | nil =>
      simp only [classifyAlias]
      split
      · exact .some ⟨rfl, hxy.1⟩
      · split
        · exact .some ⟨rfl, hxy.1⟩
        · exact .none
    | @cons x' y' xs ys hxy' h =>
      cases h with
      | nil =>
        by_cases hx : x' = .value .ellipsis
        · obtain rfl := hx
          obtain rfl := hxy'.2.mp rfl
          simp only [classifyAlias]
          split
          · exact .some ⟨rfl, hxy.1⟩
          · exact .none
        · have hy := mt hxy'.2.mpr hx
          rw [classifyAlias_eq_none (by simp) (by simp [hx]),
            classifyAlias_eq_none (by simp) (by simp [hy])]
          exact .none
      | cons =>
        rw [classifyAlias_eq_none (by simp) (by simp), classifyAlias_eq_none (by simp) (by simp)]
        exact .none

/-- Equal hints without annotations around them wrap alike, and what they wrap is equal or
crossed. -/
theorem Matched.classify_rel {t u : TypeHint} (h : Matched t u) (ht : t.stripAnnotated = t)
    (hu : u.stripAnnotated = u) :
    Option.Rel (Wrapper.Related Met) t.classify u.classify := by
  cases EqualParts.of_equals h.hashable.1 h.hashable.2 h.equal with
  | name t hname =>
    rw [classify_of_isName hname]
    exact .some ⟨rfl, h.met⟩
  | generic f c heach =>
    refine classifyAlias_rel c ?_
    refine (forall₂_of_equalsEach h.hashable h.wellFormed.1.parts h.wellFormed.2.parts heach).imp ?_
    exact fun x y hxy => ⟨met_stripAnnotated.mpr hxy.met, eq_ellipsis_iff_of_equals hxy.equal⟩
  | @union f g xs ys hsame =>
    cases SameParts.of_same hsame with
    | union _ _ hxs hys =>
      have hdistinct := And.intro (h.wellFormed.1.distinct h.hashable.1)
        (h.wellFormed.2.distinct h.hashable.2)
      have hmembers := optionalMember?_rel hxs hys hdistinct
      change Option.Rel _ ((optionalMember? xs).map _) ((optionalMember? ys).map _)
      generalize optionalMember? xs = member, optionalMember? ys = member' at hmembers ⊢
      cases hmembers with
      | none => exact .none
      | @some m n hmn =>
        obtain ⟨hm, hn, hsame⟩ := hmn
        have hashable := And.intro (firstUnhashableOf_eq_none_iff.mp h.hashable.1 m hm)
          (firstUnhashableOf_eq_none_iff.mp h.hashable.2 n hn)
        have hmatched : Matched m n :=
          { hashable
            wellFormed := ⟨h.wellFormed.1.parts m hm, h.wellFormed.2.parts n hn⟩
            equal := equals_of_same hashable.1 hashable.2 hsame }
        exact .some ⟨rfl, met_stripAnnotated.mpr hmatched.met⟩
  | leaf ht hu =>
    rw [ht.1, hu.1]
    exact .none
  | aliasAnnotated c ms => exact absurd rfl (ne_annotated_of_stripAnnotated hu _ _)
  | annotatedAlias c ms => exact absurd rfl (ne_annotated_of_stripAnnotated ht _ _)
  | annotated ms ns hequal => exact absurd rfl (ne_annotated_of_stripAnnotated ht _ _)

end Classify

end TypeHint

end SchemaLink
