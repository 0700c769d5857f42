import SchemaLink.Proofs.EqualityParts
import SchemaLink.Proofs.SpellingVariants

/-!
# The laws of equality

Equality of hints ought to be an equivalence. No hint is told from itself, and where comparisons do
not fail, equality relates every hint to itself and goes both ways. Chains, however, break at the
alias of a class to itself, which equals all annotations of the class although these differ among
each other, and which may be hashed although an annotation cannot. Hints that hold no such alias
obey every law: equal ones form chains and are hashable together. Each law is a step from the parts
of the hints to the hints, and then an induction.
-/

namespace SchemaLink

namespace TypeHint

/-- No alias of a class to itself is among the parts that comparisons may come to. -/
abbrev AliasFree (t : TypeHint) : Prop := Throughout (fun u => ∀ c, u ≠ selfAlias c) t

/-- Both hints or none can be hashed. -/
def HashedAlike (t u : TypeHint) : Prop :=
  t.firstUnhashable = Option.none ↔ u.firstUnhashable = Option.none

section Atoms

variable {t u : TypeHint} {c : Class}

/-- Only atoms are the same key as an atom. -/
theorem isAtom_of_same (ht : t.isAtom = true) (h : same t u = true) : u.isAtom = true := by
  cases SameParts.of_same h <;> first | rfl | cases ht

/-- Atoms can be hashed. -/
theorem firstUnhashable_of_isAtom (h : t.isAtom = true) : t.firstUnhashable = Option.none := by
  cases t <;> first | rfl | cases h

/-- A class equals itself only. -/
theorem isEqual_cls_left (h : isEqual (.cls c) u = true) : u = .cls c := by
  refine same_cls_left (c := c) ?_
  cases u <;> simpa [isEqual, equals] using h

/-- A class is equalled by itself only. -/
theorem isEqual_cls_right (h : isEqual t (.cls c) = true) : t = .cls c := by
  refine same_cls_right (c := c) ?_
  cases t <;> simpa [isEqual, equals] using h

end Atoms

section Lists

variable {xs ys zs : List TypeHint}

/-- A list holds hints that equal its own, if these equal themselves. -/
theorem eachEqual_self (h : ∀ x ∈ xs, isEqual x x = true) : EachEqual xs xs := by
  induction xs with
  | nil => exact .nil
  | cons x xs ih =>
    rw [List.forall_mem_cons] at h
    exact .cons h.1 (ih h.2)

/-- Lists hold equal hints in either direction, if equality of the hints goes both ways. -/
theorem EachEqual.symm_of (h : EachEqual xs ys)
    (symm : ∀ x ∈ xs, ∀ y ∈ ys, isEqual x y = true → isEqual y x = true) : EachEqual ys xs := by
  induction h with
  | nil => exact .nil
  | cons hfirst _ ih =>
    exact .cons (symm _ (by simp) _ (by simp) hfirst)
      (ih fun x hx y hy => symm x (by simp [hx]) y (by simp [hy]))

/-- Lists that hold equal hints form chains, if the hints do. -/
theorem EachEqual.trans_of (hxy : EachEqual xs ys) (hyz : EachEqual ys zs)
    (trans : ∀ x ∈ xs, ∀ y ∈ ys, ∀ z ∈ zs, isEqual x y = true → isEqual y z = true →
      isEqual x z = true) : EachEqual xs zs := by
  induction hxy generalizing zs with
  | nil =>
    cases hyz
    exact .nil
  | cons hfirst _ ih =>
    cases hyz with
    | cons hfirst' hrest =>
      exact .cons (trans _ (by simp) _ (by simp) _ (by simp) hfirst hfirst')
        (ih hrest fun x hx y hy z hz => trans x (by simp [hx]) y (by simp [hy]) z (by simp [hz]))

/-- Lists that hold equal hints can be hashed together, if the hints can. -/
theorem EachEqual.hashed_of (h : EachEqual xs ys)
    (hashed : ∀ x ∈ xs, ∀ y ∈ ys, isEqual x y = true → HashedAlike x y) :
    firstUnhashableOf xs = Option.none ↔ firstUnhashableOf ys = Option.none := by
  induction h with
  | nil => rfl
  | cons hfirst _ ih =>
    have hrest := ih fun x hx y hy => hashed x (by simp [hx]) y (by simp [hy])
    have hhead := hashed _ (by simp) _ (by simp) hfirst
    simp only [firstUnhashableOf_eq_none_iff, List.forall_mem_cons] at hrest ⊢
    exact and_congr hhead hrest

end Lists

section Steps

variable {t u v : TypeHint}

/-- A hint equals itself by its parts, if these equal themselves. -/
theorem equalByParts_self (ht : t.KeyedUnion) (self : ∀ x ∈ t.comparedParts, isEqual x x = true) :
    EqualByParts t t := by
  cases t with
  | formAlias name args => exact .formAlias name (eachEqual_self self)
  | generic f c args => exact .generic f c (eachEqual_self self)
  | annotated target ms =>
    obtain ⟨htarget, hmetadata⟩ := List.forall_mem_cons.mp self
    exact .annotated htarget (eachEqual_self hmetadata)
  | union f members =>
    by_cases hashable : firstUnhashableMember members members = Option.none
    · exact .keyedUnion f f hashable (same_refl _)
    · have unkeyed : ¬ (f = .operator ∧ f = .operator) := by
        rintro ⟨rfl, -⟩
        exact hashable (firstUnhashableMember_eq_none_iff.mpr ⟨ht members rfl, ht members rfl⟩)
      exact .union unkeyed hashable rfl (fun x hx => ⟨x, hx, self x hx⟩)
        fun x hx => ⟨x, hx, self x hx⟩
  | list k items => exact .list k k (eachEqual_self self)
  | tuple items => exact .tuple (eachEqual_self self)
  | dict k keys values => exact .dict k k keys (eachEqual_self self)
  | _ => exact .atom rfl (same_refl _)

/-- Equality by parts goes both ways, if equality of the parts does. -/
theorem EqualByParts.symm_of (h : EqualByParts t u)
    (symm : ∀ x ∈ t.comparedParts, ∀ y ∈ u.comparedParts, isEqual x y = true →
      isEqual y x = true) : EqualByParts u t := by
  cases h with
  | atom ht h => exact .atom (isAtom_of_same ht h) (same_symm h)
  | formAlias name h => exact .formAlias name (h.symm_of symm)
  | generic f c h => exact .generic f c (h.symm_of symm)
  | annotated ht h =>
    refine .annotated (symm _ List.mem_cons_self _ List.mem_cons_self ht) (h.symm_of ?_)
    exact fun x hx y hy => symm x (List.mem_cons_of_mem _ hx) y (List.mem_cons_of_mem _ hy)
  | aliasAnnotated c ms => exact .annotatedAlias c ms
  | annotatedAlias c ms => exact .aliasAnnotated c ms
  | keyedUnion f g hashable h =>
    rw [firstUnhashableMember_eq_none_iff, and_comm, ← firstUnhashableMember_eq_none_iff]
      at hashable
    exact .keyedUnion g f hashable (same_symm h)
  | union unkeyed unhashable hlength hxs hys =>
    rw [Ne, firstUnhashableMember_eq_none_iff, and_comm, ← firstUnhashableMember_eq_none_iff]
      at unhashable
    refine .union (fun hfg => unkeyed hfg.symm) unhashable hlength.symm (fun y hy => ?_)
      fun x hx => ?_
    · obtain ⟨x, hx, hxy⟩ := hys y hy
      exact ⟨x, hx, symm x hx y hy hxy⟩
    · obtain ⟨y, hy, hxy⟩ := hxs x hx
      exact ⟨y, hy, symm x hx y hy hxy⟩
  | list j k h => exact .list k j (h.symm_of symm)
  | tuple h => exact .tuple (h.symm_of symm)
  | dict j k keys h => exact .dict k j keys (h.symm_of symm)

/-- Hints that are equal by their parts can be hashed together, if equal parts can and neither hint
is an alias of a class to itself. -/
theorem EqualByParts.hashedAlike (h : EqualByParts t u)
    (hself : (∀ c, t ≠ selfAlias c) ∧ ∀ c, u ≠ selfAlias c)
    (hashed : ∀ x ∈ t.comparedParts, ∀ y ∈ u.comparedParts, isEqual x y = true →
      HashedAlike x y) : HashedAlike t u := by
  cases h with
  | atom ht h =>
    exact iff_of_true (firstUnhashable_of_isAtom ht)
      (firstUnhashable_of_isAtom (isAtom_of_same ht h))
  | formAlias name h => exact h.hashed_of hashed
  | generic f c h => exact h.hashed_of hashed
  | annotated ht h =>
    have htarget := hashed _ List.mem_cons_self _ List.mem_cons_self ht
    have hmetadata := h.hashed_of fun x hx y hy =>
      hashed x (List.mem_cons_of_mem _ hx) y (List.mem_cons_of_mem _ hy)
    rw [HashedAlike, firstUnhashable_annotated_eq_none_iff, firstUnhashable_annotated_eq_none_iff,
      ← firstUnhashableOf_eq_none_iff, ← firstUnhashableOf_eq_none_iff]
    exact and_congr htarget hmetadata
  | aliasAnnotated c ms => exact absurd rfl (hself.1 c)
  | annotatedAlias c ms => exact absurd rfl (hself.2 c)
  | keyedUnion f g hashable h =>
    obtain ⟨hxs, hys⟩ := firstUnhashableMember_eq_none_iff.mp hashable
    exact iff_of_true hxs hys
  | union _ _ _ hxs hys =>
    rw [HashedAlike, firstUnhashable, firstUnhashable, firstUnhashableOf_eq_none_iff,
      firstUnhashableOf_eq_none_iff]
    refine ⟨fun hash y hy => ?_, fun hash x hx => ?_⟩
    · obtain ⟨x, hx, hxy⟩ := hys y hy
      exact (hashed x hx y hy hxy).mp (hash x hx)
    · obtain ⟨y, hy, hxy⟩ := hxs x hx
      exact (hashed x hx y hy hxy).mpr (hash y hy)
  | list j k h => simp [HashedAlike, firstUnhashable]
  | tuple h => exact h.hashed_of hashed
  | dict j k keys h => simp [HashedAlike, firstUnhashable]

/-- Unions that are equal by their members form chains, if equal members do, or if all members can
be hashed. -/
theorem EqualByParts.trans_union {f g : UnionFlavour} {xs ys : List TypeHint}
    (htu : EqualByParts (.union f xs) (.union g ys)) (huv : EqualByParts (.union g ys) v)
    (hkeyed : (TypeHint.union f xs).KeyedUnion)
    (hhash : HashedAlike (.union f xs) (.union g ys) ∧ HashedAlike (.union g ys) v)
    (trans : firstUnhashableOf ys ≠ Option.none → ∀ x ∈ xs, ∀ y ∈ ys, ∀ z ∈ v.comparedParts,
      isEqual x y = true → isEqual y z = true → isEqual x z = true) :
    EqualByParts (.union f xs) v := by
  cases htu with
  | atom ht => cases ht
  | keyedUnion _ _ hashable h =>
    obtain ⟨hxs, hys⟩ := firstUnhashableMember_eq_none_iff.mp hashable
    cases huv with
    | keyedUnion _ k hashable' h' =>
      obtain ⟨-, hzs⟩ := firstUnhashableMember_eq_none_iff.mp hashable'
      exact .keyedUnion f k (firstUnhashableMember_eq_none_iff.mpr ⟨hxs, hzs⟩) (same_trans h h')
    | union _ unhashable =>
      exact absurd (firstUnhashableMember_eq_none_iff.mpr ⟨hys, hhash.2.mp hys⟩) unhashable
    | atom hu => cases hu
  | union unkeyed unhashable hlength hxs hys =>
    -- If any of the three unions could be hashed, all could.
    have hmiddle : firstUnhashableOf ys ≠ Option.none := fun hys =>
      unhashable (firstUnhashableMember_eq_none_iff.mpr ⟨hhash.1.mpr hys, hys⟩)
    have hfirst : firstUnhashableOf xs ≠ Option.none := fun hxs => hmiddle (hhash.1.mp hxs)
    cases huv with
    | union _ _ hlength' hys' hzs' =>
      refine .union (fun hfk => hfirst (hkeyed xs (by rw [hfk.1])))
        (fun hashable => hfirst (firstUnhashableMember_eq_none_iff.mp hashable).1)
        (hlength.trans hlength') (fun x hx => ?_) fun z hz => ?_
      · obtain ⟨y, hy, hxy⟩ := hxs x hx
        obtain ⟨z, hz, hyz⟩ := hys' y hy
        exact ⟨z, hz, trans hmiddle x hx y hy z hz hxy hyz⟩
      · obtain ⟨y, hy, hyz⟩ := hzs' z hz
        obtain ⟨x, hx, hxy⟩ := hys y hy
        exact ⟨x, hx, trans hmiddle x hx y hy z hz hxy hyz⟩
    | keyedUnion _ _ hashable =>
      exact absurd (firstUnhashableMember_eq_none_iff.mp hashable).1 hmiddle
    | atom hu => cases hu

/-- Hints that are equal by their parts form chains, if equal parts do, unless the one in the middle
is an alias of a class to itself. The parts of unions whose members can all be hashed do not
matter. -/
theorem EqualByParts.trans_of (htu : EqualByParts t u) (huv : EqualByParts u v)
    (hkeyed : t.KeyedUnion) (hself : ∀ c, u ≠ selfAlias c)
    (hhash : HashedAlike t u ∧ HashedAlike u v)
    (trans : (u.isUnion = true → u.firstUnhashable ≠ Option.none) →
      ∀ x ∈ t.comparedParts, ∀ y ∈ u.comparedParts, ∀ z ∈ v.comparedParts,
        isEqual x y = true → isEqual y z = true → isEqual x z = true) : EqualByParts t v := by
  have trans_of_false (h : u.isUnion = false) := trans fun hunion => by
    cases h.symm.trans hunion
  cases htu with
  | atom ht h =>
    have hu := isAtom_of_same ht h
    cases huv with
    | atom _ h' => exact .atom ht (same_trans h h')
    | _ => cases hu
  | formAlias name h =>
    cases huv with
    | formAlias _ h' => exact .formAlias name (h.trans_of h' (trans_of_false rfl))
    | atom hu => cases hu
  | generic f c h =>
    cases huv with
    | generic _ _ h' => exact .generic f c (h.trans_of h' (trans_of_false rfl))
    | aliasAnnotated => exact absurd rfl (hself c)
    | atom hu => cases hu
  | annotated ht h =>
    cases huv with
    | annotated ht' h' =>
      refine .annotated (trans_of_false rfl _ List.mem_cons_self _ List.mem_cons_self _
        List.mem_cons_self ht ht') (h.trans_of h' fun x hx y hy z hz => ?_)
      exact trans_of_false rfl x (List.mem_cons_of_mem _ hx) y (List.mem_cons_of_mem _ hy) z
        (List.mem_cons_of_mem _ hz)
    | annotatedAlias c =>
      obtain rfl := isEqual_cls_right ht
      exact .annotatedAlias c _
    | atom hu => cases hu
  | aliasAnnotated c ms =>
    cases huv with
    | annotated ht' =>
      obtain rfl := isEqual_cls_left ht'
      exact .aliasAnnotated c _
    | annotatedAlias =>
      exact .generic .typing c (.cons (by simp [isEqual, equals, same]) .nil)
    | atom hu => cases hu
  | annotatedAlias c ms => exact absurd rfl (hself c)
  | keyedUnion f g hashable h =>
    exact (EqualByParts.keyedUnion f g hashable h).trans_union huv hkeyed hhash fun hash =>
      trans fun _ => hash
  | union unkeyed unhashable hlength hxs hys =>
    exact (EqualByParts.union unkeyed unhashable hlength hxs hys).trans_union huv hkeyed hhash
      fun hash => trans fun _ => hash
  | list j k h =>
    cases huv with
    | list _ l h' => exact .list j l (h.trans_of h' (trans_of_false rfl))
    | atom hu => cases hu
  | tuple h =>
    cases huv with
    | tuple h' => exact .tuple (h.trans_of h' (trans_of_false rfl))
    | atom hu => cases hu
  | dict j k keys h =>
    cases huv with
    | dict _ l _ h' => exact .dict j l keys (h.trans_of h' (trans_of_false rfl))
    | atom hu => cases hu

end Steps

section Laws

variable {t u v : TypeHint}

/-- A comparable hint equals itself. -/
theorem Comparable.isEqual_self (ht : t.Comparable) : isEqual t t = true := by
  induction ht with
  | intro here parts ih =>
    exact (isEqual_iff ⟨here, parts⟩ ⟨here, parts⟩).mpr (equalByParts_self here ih)

/-- Equality of comparable hints goes both ways. -/
theorem Comparable.isEqual_symm (ht : t.Comparable) (hu : u.Comparable)
    (h : isEqual t u = true) : isEqual u t = true := by
  induction ht generalizing u with
  | intro here parts ih =>
    have hequal := (isEqual_iff ⟨here, parts⟩ hu).mp h
    refine (isEqual_iff hu ⟨here, parts⟩).mpr (hequal.symm_of fun x hx y hy => ?_)
    exact ih x hx (hu.parts y hy)

/-- The order in which comparable hints are compared does not matter. -/
theorem Comparable.equals_comm (ht : t.Comparable) (hu : u.Comparable) :
    equals t u = equals u t := by
  obtain ⟨answer, hanswer, hiff⟩ := ht.compared hu
  obtain ⟨answer', hanswer', hiff'⟩ := hu.compared ht
  rw [hanswer, hanswer', Except.ok.injEq, Bool.eq_iff_iff, hiff, hiff']
  exact ⟨ht.isEqual_symm hu, hu.isEqual_symm ht⟩

/-- Equal hints without an alias of a class to itself can be hashed together. -/
theorem Comparable.hashedAlike (ht : t.Comparable) (hu : u.Comparable) (htfree : t.AliasFree)
    (hufree : u.AliasFree) (h : isEqual t u = true) : HashedAlike t u := by
  induction ht generalizing u with
  | intro here parts ih =>
    have hequal := (isEqual_iff ⟨here, parts⟩ hu).mp h
    refine hequal.hashedAlike ⟨htfree.here, hufree.here⟩ fun x hx y hy => ?_
    exact ih x hx (hu.parts y hy) (htfree.parts x hx) (hufree.parts y hy)

/-- Equal hints without an alias of a class to itself form chains. -/
theorem Comparable.isEqual_trans (ht : t.Comparable) (hu : u.Comparable) (hv : v.Comparable)
    (htfree : t.AliasFree) (hufree : u.AliasFree) (hvfree : v.AliasFree)
    (htu : isEqual t u = true) (huv : isEqual u v = true) : isEqual t v = true := by
  induction ht generalizing u v with
  | @intro t here parts ih =>
    have ht : t.Comparable := .intro here parts
    have hhash := And.intro (ht.hashedAlike hu htfree hufree htu)
      (hu.hashedAlike hv hufree hvfree huv)
    have hequal := (isEqual_iff ht hu).mp htu
    refine (isEqual_iff ht hv).mpr (hequal.trans_of ((isEqual_iff hu hv).mp huv) here
      hufree.here hhash fun _ x hx y hy z hz hxy hyz => ?_)
    exact ih x hx (hu.parts y hy) (hv.parts z hz) (htfree.parts x hx) (hufree.parts y hy)
      (hvfree.parts z hz) hxy hyz

/-- A hint that holds no alias of a class to itself is none. -/
theorem ne_selfAlias_of_holdsSelfAlias (h : u.holdsSelfAlias = false) (c : Class) :
    u ≠ selfAlias c := by
  rintro rfl
  simp [selfAlias, holdsSelfAlias, isOnly, isClass] at h

/-- The parts of a hint that holds no alias of a class to itself hold none either, if the hint can
be hashed and is no union. -/
theorem holdsSelfAlias_of_mem_comparedParts (h : u.holdsSelfAlias = false)
    (hu : u.firstUnhashable = Option.none) (hunion : u.isUnion ≠ true) :
    ∀ y ∈ u.comparedParts, y.holdsSelfAlias = false := by
  cases u with
  | formAlias name args => exact anyHoldsSelfAlias_eq_false_iff.mp h
  | generic f c args =>
    rw [holdsSelfAlias, Bool.or_eq_false_iff] at h
    exact anyHoldsSelfAlias_eq_false_iff.mp h.2
  | union f members => exact absurd rfl hunion
  | annotated target ms =>
    rw [holdsSelfAlias, Bool.or_eq_false_iff, anyHoldsSelfAlias_eq_false_iff] at h
    exact List.forall_mem_cons.mpr h
  | tuple items => exact anyHoldsSelfAlias_eq_false_iff.mp h
  | list k items => cases hu
  | dict k keys values => cases hu
  | _ => exact fun y hy => by cases hy

/-- A hint without an alias of a class to itself holds none. -/
theorem AliasFree.holdsSelfAlias_eq (h : t.AliasFree) : t.holdsSelfAlias = false := by
  induction h with
  | @intro t here parts ih =>
    cases t with
    | formAlias name args => exact anyHoldsSelfAlias_eq_false_iff.mpr ih
    | generic f c args =>
      rw [holdsSelfAlias, Bool.or_eq_false_iff]
      refine ⟨Bool.eq_false_iff.mpr fun hself => ?_, anyHoldsSelfAlias_eq_false_iff.mpr ih⟩
      simp only [Bool.and_eq_true, decide_eq_true_eq, isOnly_iff] at hself
      obtain ⟨rfl, rfl⟩ := hself
      exact here c rfl
    | annotated target ms =>
      rw [holdsSelfAlias, Bool.or_eq_false_iff, anyHoldsSelfAlias_eq_false_iff]
      exact List.forall_mem_cons.mp ih
    | tuple items => exact anyHoldsSelfAlias_eq_false_iff.mpr ih
    | _ => rfl

/-- Equal hints that can be hashed form chains, if the one in the middle holds no alias of a class
to itself. -/
theorem isEqual_trans_of_holdsSelfAlias (ht : t.firstUnhashable = Option.none)
    (hu : u.firstUnhashable = Option.none) (hv : v.firstUnhashable = Option.none)
    (hfree : u.holdsSelfAlias = false) (htu : isEqual t u = true) (huv : isEqual u v = true) :
    isEqual t v = true := by
  induction t using comparedParts_induction generalizing u v with
  | step t ih =>
    have ht' := comparable_of_firstUnhashable ht
    have hu' := comparable_of_firstUnhashable hu
    have hv' := comparable_of_firstUnhashable hv
    have hequal := (Comparable.isEqual_iff ht' hu').mp htu
    refine (Comparable.isEqual_iff ht' hv').mpr (hequal.trans_of
      ((Comparable.isEqual_iff hu' hv').mp huv) ht'.here (ne_selfAlias_of_holdsSelfAlias hfree)
      ⟨iff_of_true ht hu, iff_of_true hu hv⟩ fun hunion x hx y hy z hz hxy hyz => ?_)
    have hfree := holdsSelfAlias_of_mem_comparedParts hfree hu (fun h => hunion h hu) y hy
    exact ih x hx (firstUnhashable_of_mem_comparedParts ht x hx)
      (firstUnhashable_of_mem_comparedParts hu y hy) (firstUnhashable_of_mem_comparedParts hv z hz)
      hfree hxy hyz

end Laws

section Self

variable {f : TypeHint → Except Unhashable Bool} {comparison next : Except Unhashable Bool}
  {xs ys : List TypeHint}

/-- A comparison that goes on when it has come to true does not come to false, if neither part
does. -/
theorem and_ne_false : comparison ≠ .ok false → next ≠ .ok false →
    (match comparison with
      | .ok true => next
      | answer => answer) ≠ .ok false := by
  intro h hnext
  split
  · exact hnext
  · exact h

/-- A comparison that goes on when it has come to false does not do so, if one of the two parts does
not. -/
theorem or_ne_false : comparison ≠ .ok false ∨ next ≠ .ok false →
    (match comparison with
      | .ok false => next
      | answer => answer) ≠ .ok false := by
  intro h
  split
  · exact h.resolve_left fun hfirst => hfirst rfl
  case h_2 hfirst => exact hfirst

/-- A scan does not come to false if the comparison with one of the hints does not. -/
theorem anyM_ne_false (h : ∃ x ∈ xs, f x ≠ .ok false) : xs.anyM f ≠ .ok false := by
  induction xs with
  | nil => simp at h
  | cons x xs ih =>
    obtain ⟨y, hy, hne⟩ := h
    rw [List.anyM_cons]
    cases hx : f x with
    | error container => exact fun h => by cases h
    | ok answer =>
      cases answer with
      | true => exact fun h => by cases h
      | false =>
        rcases List.mem_cons.mp hy with rfl | hy
        · exact absurd hx hne
        · exact ih ⟨y, hy, hne⟩

/-- A scan over all hints does not come to false if the comparison with none of them does. -/
theorem allM_ne_false (h : ∀ x ∈ xs, f x ≠ .ok false) : xs.allM f ≠ .ok false := by
  induction xs with
  | nil => exact fun h => by cases h
  | cons x xs ih =>
    rw [List.forall_mem_cons] at h
    rw [List.allM_cons]
    cases hx : f x with
    | error container => exact fun h => by cases h
    | ok answer =>
      cases answer with
      | true => exact ih h.2
      | false => exact absurd hx h.1

/-- A list is not told from itself, if its hints are not. -/
theorem equalsEach_self_ne_false (h : ∀ x ∈ xs, equals x x ≠ .ok false) :
    equalsEach xs xs ≠ .ok false := by
  induction xs with
  | nil => simp [equalsEach]
  | cons x xs ih =>
    rw [List.forall_mem_cons] at h
    rw [equalsEach]
    exact and_ne_false h.1 (ih h.2)

/-- A hint that is not told from a hint of a list is sought there without coming to false. -/
theorem anyEquals_ne_false {y : TypeHint} (h : ∃ x ∈ xs, equals x y ≠ .ok false) :
    anyEquals xs y ≠ .ok false := by
  induction xs with
  | nil => simp at h
  | cons x xs ih =>
    obtain ⟨z, hz, hne⟩ := h
    rw [anyEquals]
    refine or_ne_false ?_
    rcases List.mem_cons.mp hz with rfl | hz
    · exact .inl hne
    · exact .inr (ih ⟨z, hz, hne⟩)

/-- Hints are sought in a list that holds them without coming to false, if they are not told from
themselves. -/
theorem eachAmong_ne_false (h : ∀ x ∈ xs, equals x x ≠ .ok false) (hmem : ∀ x ∈ xs, x ∈ ys) :
    eachAmong xs ys ≠ .ok false := by
  induction xs with
  | nil => simp [eachAmong]
  | cons x xs ih =>
    rw [List.forall_mem_cons] at h hmem
    rw [eachAmong]
    exact and_ne_false (anyM_ne_false ⟨x, hmem.1, h.1⟩) (ih h.2 hmem.2)

/-- No hint is told from itself, even if its comparison fails. -/
theorem equals_self_ne_false (t : TypeHint) : equals t t ≠ .ok false := by
  induction t using comparedParts_induction with
  | step t ih =>
    cases t with
    | formAlias name args =>
      rw [equals, if_pos rfl]
      exact equalsEach_self_ne_false ih
    | generic f c args =>
      cases f <;> rw [equals, if_pos rfl] <;> exact equalsEach_self_ne_false ih
    | annotated target ms =>
      obtain ⟨htarget, hmetadata⟩ := List.forall_mem_cons.mp ih
      rw [equals]
      exact and_ne_false htarget (equalsEach_self_ne_false hmetadata)
    | union f members =>
      rw [equals]
      split
      case h_1 => simp [same_refl]
      case h_2 =>
        split
        · exact fun h => by cases h
        · rw [if_pos rfl]
          exact and_ne_false (eachAmong_ne_false ih fun _ hx => hx)
            (allM_ne_false fun x hx => anyEquals_ne_false ⟨x, hx, ih x hx⟩)
    | list k items =>
      rw [equals, if_pos rfl]
      exact equalsEach_self_ne_false ih
    | tuple items =>
      rw [equals]
      exact equalsEach_self_ne_false ih
    | dict k keys values =>
      rw [equals, if_pos rfl]
      exact equalsEach_self_ne_false ih
    | _ => simp [equals, same_refl]

end Self

end TypeHint

end SchemaLink
