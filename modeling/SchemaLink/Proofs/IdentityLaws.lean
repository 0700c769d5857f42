import SchemaLink.Proofs.EqualResolution
import SchemaLink.Proofs.EqualityLaws

/-!
# Keys as an equivalence

A registry keeps one entry for hints that are the same key. Where equality obeys its laws, that is
one entry for hints that are equal. The alias of a class to itself is where it does not: it equals
all annotations of the class, which are neither equal nor the same key. Among hints that can be
hashed this is the only obstacle. Whenever a hint holds the alias outside of unions, annotations in
its place give two hints that equal the first one and not each other.
-/

namespace SchemaLink

namespace TypeHint

mutual

/-- The hint with an annotation of the class in place of every alias of a class to itself, outside
of unions. -/
def unalias (metadata : List TypeHint) : TypeHint → TypeHint
  | .formAlias name args => .formAlias name (unaliasEach metadata args)
  | .generic f c args =>
    if f = .typing && isOnly c args then .annotated (.cls c) metadata
    else .generic f c (unaliasEach metadata args)
  | .annotated t ms => .annotated (unalias metadata t) (unaliasEach metadata ms)
  | .tuple items => .tuple (unaliasEach metadata items)
  | t => t

/-- Several hints with annotations in place of the aliases of classes to themselves. -/
def unaliasEach (metadata : List TypeHint) : List TypeHint → List TypeHint
  | [] => []
  | x :: xs => unalias metadata x :: unaliasEach metadata xs

end

/-- Annotations are put in place of aliases hint by hint. -/
theorem unaliasEach_eq_map (metadata xs : List TypeHint) :
    unaliasEach metadata xs = xs.map (unalias metadata) := by
  induction xs with
  | nil => rfl
  | cons x xs ih => rw [unaliasEach, ih, List.map_cons]

section Unalias

variable {u : TypeHint} {ms ns xs : List TypeHint}

/-- Annotations with metadata that can be hashed keep several hints hashable, if they keep each. -/
theorem firstUnhashableOf_unaliasEach
    (h : ∀ x ∈ xs, (unalias ms x).firstUnhashable = Option.none) :
    firstUnhashableOf (unaliasEach ms xs) = Option.none := by
  rw [unaliasEach_eq_map, firstUnhashableOf_eq_none_iff]
  exact List.forall_mem_map.mpr h

/-- Lists equal what annotations make of them, if their hints do. -/
theorem eachEqual_unaliasEach (h : ∀ x ∈ xs, isEqual x (unalias ms x) = true) :
    EachEqual xs (unaliasEach ms xs) := by
  rw [unaliasEach_eq_map, EachEqual, List.forall₂_map_right_iff, List.forall₂_same]
  exact h

/-- Two lists in which annotations take the place of aliases hold equal hints only if each hint
gives equal ones. -/
theorem isEqual_unalias_of_eachEqual (h : EachEqual (unaliasEach ms xs) (unaliasEach ns xs)) :
    ∀ x ∈ xs, isEqual (unalias ms x) (unalias ns x) = true := by
  rwa [unaliasEach_eq_map, unaliasEach_eq_map, EachEqual, List.forall₂_map_left_iff,
    List.forall₂_map_right_iff, List.forall₂_same] at h

/-- Annotations with metadata that can be hashed keep a hint hashable. -/
theorem firstUnhashable_unalias (hms : firstUnhashableOf ms = Option.none)
    (hu : u.firstUnhashable = Option.none) : (unalias ms u).firstUnhashable = Option.none := by
  induction u using comparedParts_induction with
  | step u ih =>
    have ih := fun x hx => ih x hx (firstUnhashable_of_mem_comparedParts hu x hx)
    cases u with
    | formAlias name args => exact firstUnhashableOf_unaliasEach ih
    | generic f c args =>
      rw [unalias]
      split
      · exact firstUnhashable_annotated_eq_none_iff.mpr
          ⟨rfl, firstUnhashableOf_eq_none_iff.mp hms⟩
      · exact firstUnhashableOf_unaliasEach ih
    | annotated target metadata =>
      obtain ⟨htarget, hmetadata⟩ := List.forall_mem_cons.mp ih
      exact firstUnhashable_annotated_eq_none_iff.mpr
        ⟨htarget, firstUnhashableOf_eq_none_iff.mp (firstUnhashableOf_unaliasEach hmetadata)⟩
    | tuple items => exact firstUnhashableOf_unaliasEach ih
    | _ => exact hu

/-- A hint that can be hashed equals what annotations make of it. -/
theorem isEqual_unalias (hms : firstUnhashableOf ms = Option.none)
    (hu : u.firstUnhashable = Option.none) : isEqual u (unalias ms u) = true := by
  induction u using comparedParts_induction with
  | step u ih =>
    have hcomparable := comparable_of_firstUnhashable hu
    refine (Comparable.isEqual_iff hcomparable
      (comparable_of_firstUnhashable (firstUnhashable_unalias hms hu))).mpr ?_
    have ih := fun x hx => ih x hx (firstUnhashable_of_mem_comparedParts hu x hx)
    cases u with
    | formAlias name args => exact .formAlias name (eachEqual_unaliasEach ih)
    | generic f c args =>
      rw [unalias]
      split
      case isTrue hself =>
        simp only [Bool.and_eq_true, decide_eq_true_eq, isOnly_iff] at hself
        obtain ⟨rfl, rfl⟩ := hself
        exact .aliasAnnotated c ms
      case isFalse => exact .generic f c (eachEqual_unaliasEach ih)
    | annotated target metadata =>
      obtain ⟨htarget, hmetadata⟩ := List.forall_mem_cons.mp ih
      exact .annotated htarget (eachEqual_unaliasEach hmetadata)
    | tuple items => exact .tuple (eachEqual_unaliasEach ih)
    | _ => exact (Comparable.isEqual_iff hcomparable hcomparable).mp hcomparable.isEqual_self

/-- Annotations with different metadata make different hints of one that can be hashed and holds an
alias of a class to itself. -/
theorem holdsSelfAlias_of_isEqual_unalias (hms : firstUnhashableOf ms = Option.none)
    (hns : firstUnhashableOf ns = Option.none) (hother : ¬ EachEqual ms ns)
    (hu : u.firstUnhashable = Option.none) (h : isEqual (unalias ms u) (unalias ns u) = true) :
    u.holdsSelfAlias = false := by
  induction u using comparedParts_induction with
  | step u ih =>
    have h := (Comparable.isEqual_iff
      (comparable_of_firstUnhashable (firstUnhashable_unalias hms hu))
      (comparable_of_firstUnhashable (firstUnhashable_unalias hns hu))).mp h
    have ih := fun x hx => ih x hx (firstUnhashable_of_mem_comparedParts hu x hx)
    -- Hints that become equal hold no alias, by induction on the parts.
    have each {xs : List TypeHint} (hmem : ∀ x ∈ xs, x ∈ u.comparedParts)
        (hxs : EachEqual (unaliasEach ms xs) (unaliasEach ns xs)) : anyHoldsSelfAlias xs = false :=
      anyHoldsSelfAlias_eq_false_iff.mpr fun x hx =>
        ih x (hmem x hx) (isEqual_unalias_of_eachEqual hxs x hx)
    cases u with
    | formAlias name args =>
      cases h with
      | formAlias _ h => exact each (fun _ hx => hx) h
      | atom hatom => cases hatom
    | generic f c args =>
      rw [unalias, unalias] at h
      split at h
      case isTrue => exact absurd h.of_annotated.2 hother
      case isFalse hself =>
        rw [holdsSelfAlias, Bool.or_eq_false_iff]
        exact ⟨Bool.eq_false_iff.mpr hself, each (fun _ hx => hx) h.of_generic⟩
    | annotated target metadata =>
      obtain ⟨htarget, hmetadata⟩ := h.of_annotated
      rw [holdsSelfAlias, Bool.or_eq_false_iff]
      exact ⟨ih target List.mem_cons_self htarget,
        each (fun _ hx => List.mem_cons_of_mem _ hx) hmetadata⟩
    | tuple items =>
      cases h with
      | tuple h => exact each (fun _ hx => hx) h
      | atom hatom => cases hatom
    | _ => rfl

/-- Among hints that can be hashed, the equal ones form chains through a hint exactly if it holds no
alias of a class to itself outside of unions. -/
theorem chains_iff_holdsSelfAlias (hu : u.firstUnhashable = Option.none) :
    (∀ t v : TypeHint, t.firstUnhashable = Option.none → v.firstUnhashable = Option.none →
      isEqual t u = true → isEqual u v = true → isEqual t v = true) ↔ u.holdsSelfAlias = false := by
  refine ⟨fun h => ?_, fun hfree t v ht hv => isEqual_trans_of_holdsSelfAlias ht hu hv hfree⟩
  have hother : ¬ EachEqual [text "a"] [text "b"] := by
    rintro (_ | ⟨h, -⟩)
    revert h
    simp [isEqual, equals, same, Value.comparand, Value.magnitude?]
  have hmarked (s : String) : (unalias [text s] u).firstUnhashable = Option.none :=
    firstUnhashable_unalias rfl hu
  have hequal (s : String) : isEqual u (unalias [text s] u) = true := isEqual_unalias rfl hu
  have hback : isEqual (unalias [text "a"] u) u = true :=
    Comparable.isEqual_symm (comparable_of_firstUnhashable hu)
      (comparable_of_firstUnhashable (hmarked "a")) (hequal "a")
  exact holdsSelfAlias_of_isEqual_unalias rfl rfl hother hu
    (h _ _ (hmarked "a") (hmarked "b") hback (hequal "b"))

end Unalias

/-- As a key, a hint is compared as an object, or else its comparison does not fail. -/
def KeyComparable (t : TypeHint) : Prop := t.isHashable = true → t.Comparable

/-- As a key, a hint is compared as an object, or else it holds no alias of a class to itself and
its comparison does not fail. -/
def Lawful (t : TypeHint) : Prop := t.isHashable = true → t.Comparable ∧ t.AliasFree

section Keys

variable {t u v : TypeHint}

/-- Two keys are compared by equality if both can be hashed on the outside, and else as objects. -/
theorem denotesSame_cases (t u : TypeHint) :
    (t.isHashable = true ∧ u.isHashable = true ∧ denotesSame t u = equals t u ∧
      identityEqual t u = isEqual t u) ∨
    (¬ (t.isHashable = true ∧ u.isHashable = true) ∧ denotesSame t u = .ok (t.identical u) ∧
      identityEqual t u = t.identical u) := by
  by_cases h : t.isHashable = true ∧ u.isHashable = true
  · have hequals : denotesSame t u = equals t u := by
      rw [denotesSame, h.1, h.2]
      rfl
    refine .inl ⟨h.1, h.2, hequals, ?_⟩
    cases hanswer : equals t u <;> simp [identityEqual, isEqual, hequals, hanswer]
  · have hobjects : denotesSame t u = .ok (t.identical u) := by simp [denotesSame, h]
    exact .inr ⟨h, hobjects, by rw [identityEqual, hobjects]⟩

/-- Keys that can be hashed on the outside are compared by equality. -/
theorem identityEqual_of_isHashable (ht : t.isHashable = true) (hu : u.isHashable = true) :
    identityEqual t u = isEqual t u := by
  rcases denotesSame_cases t u with ⟨-, -, -, h⟩ | ⟨hnot, -⟩
  · exact h
  · exact absurd ⟨ht, hu⟩ hnot

/-- Of two hints that are the same registry key, both or none can be hashed on the outside. -/
theorem isHashable_eq_of_identical (h : identical t u = true) : t.isHashable = u.isHashable := by
  cases ht : t.isHashable with
  | true => exact ((identical_iff_of_isHashable ht).mp h).1.symm
  | false =>
    obtain ⟨j, xs, rfl⟩ | ⟨j, keys, xs, rfl⟩ := eq_list_or_dict_of_not_isHashable ht
    · obtain ⟨ys, rfl⟩ := identical_list_iff.mp h
      rfl
    · obtain ⟨ls, ys, rfl⟩ := identical_dict_iff.mp h
      rfl

/-- Of two equal keys, both or none can be hashed on the outside. -/
theorem isHashable_eq_of_identityEqual (h : identityEqual t u = true) :
    t.isHashable = u.isHashable := by
  rcases denotesSame_cases t u with ⟨ht, hu, -⟩ | ⟨-, -, hidentical⟩
  · rw [ht, hu]
  · exact isHashable_eq_of_identical (hidentical.symm.trans h)

/-- Equal keys that are not compared by equality are the same registry key. -/
theorem identical_of_not_isHashable (ht : t.isHashable = false) (h : identityEqual t u = true) :
    identical t u = true := by
  rcases denotesSame_cases t u with ⟨ht', -⟩ | ⟨-, -, hidentical⟩
  · cases ht.symm.trans ht'
  · exact hidentical.symm.trans h

/-- Equal keys that can be hashed on the outside are equal hints. -/
theorem isEqual_of_isHashable (ht : t.isHashable = true) (h : identityEqual t u = true) :
    isEqual t u = true := by
  have hu := (isHashable_eq_of_identityEqual h).symm.trans ht
  exact (identityEqual_of_isHashable ht hu).symm.trans h

/-- Equal keys form chains if, among hints that can be hashed on the outside, equal hints do. -/
theorem identityEqual_trans_of
    (trans : t.isHashable = true → isEqual t u = true → isEqual u v = true → isEqual t v = true)
    (htu : identityEqual t u = true) (huv : identityEqual u v = true) :
    identityEqual t v = true := by
  have hu := isHashable_eq_of_identityEqual htu
  have hv := isHashable_eq_of_identityEqual huv
  cases ht : t.isHashable with
  | true =>
    rw [identityEqual_of_isHashable ht ((hu.trans hv).symm.trans ht)]
    exact trans ht (isEqual_of_isHashable ht htu) (isEqual_of_isHashable (hu.symm.trans ht) huv)
  | false =>
    have hsame := identical_trans (identical_of_not_isHashable ht htu)
      (identical_of_not_isHashable (hu.symm.trans ht) huv)
    rcases denotesSame_cases t v with ⟨ht', -⟩ | ⟨-, -, h⟩
    · cases ht.symm.trans ht'
    · exact h.trans hsame

/-- No key is told from itself. -/
theorem denotesSame_self_ne_false (t : TypeHint) : t.denotesSame t ≠ .ok false := by
  rcases denotesSame_cases t t with ⟨-, -, h, -⟩ | ⟨-, h, -⟩
  · rw [h]
    exact equals_self_ne_false t
  · simp [h, identical_refl]

/-- The comparison of comparable keys does not fail, and its order does not matter. -/
theorem KeyComparable.denotesSame (ht : t.KeyComparable) (hu : u.KeyComparable) :
    ∃ answer, t.denotesSame u = .ok answer ∧ u.denotesSame t = .ok answer := by
  by_cases h : t.isHashable = true ∧ u.isHashable = true
  · obtain ⟨answer, hanswer, -⟩ := (ht h.1).compared (hu h.2)
    refine ⟨answer, ?_, ?_⟩
    · rw [TypeHint.denotesSame, h.1, h.2, ← hanswer]
      rfl
    · rw [TypeHint.denotesSame, h.1, h.2, ← hanswer, (ht h.1).equals_comm (hu h.2)]
      rfl
  · refine ⟨t.identical u, by simp [TypeHint.denotesSame, h], ?_⟩
    have hcomm : u.identical t = t.identical u :=
      Bool.eq_iff_iff.mpr ⟨identical_symm, identical_symm⟩
    simp [TypeHint.denotesSame, and_comm, h, hcomm]

/-- A lawful key holds no alias of a class to itself. -/
theorem Lawful.holdsSelfAlias_eq (h : t.Lawful) : t.holdsSelfAlias = false := by
  cases ht : t.isHashable with
  | true => exact (h ht).2.holdsSelfAlias_eq
  | false =>
    obtain ⟨j, xs, rfl⟩ | ⟨j, keys, xs, rfl⟩ := eq_list_or_dict_of_not_isHashable ht <;> rfl

/-- Equal lawful keys form chains. -/
theorem Lawful.identityEqual_trans (ht : t.Lawful) (hu : u.Lawful) (hv : v.Lawful)
    (htu : identityEqual t u = true) (huv : identityEqual u v = true) :
    identityEqual t v = true := by
  refine identityEqual_trans_of (fun hashable => ?_) htu huv
  have hashable' := (isHashable_eq_of_identityEqual htu).symm.trans hashable
  obtain ⟨ht, htfree⟩ := ht hashable
  obtain ⟨hu, hufree⟩ := hu hashable'
  obtain ⟨hv, hvfree⟩ := hv ((isHashable_eq_of_identityEqual huv).symm.trans hashable')
  exact ht.isEqual_trans hu hv htfree hufree hvfree

/-- Equal lawful keys can be hashed together. -/
theorem Lawful.unhashable?_iff (ht : t.Lawful) (hu : u.Lawful) (h : identityEqual t u = true) :
    t.unhashable? = Option.none ↔ u.unhashable? = Option.none := by
  have hboth := isHashable_eq_of_identityEqual h
  cases hashable : t.isHashable with
  | true =>
    have hashable' := hboth.symm.trans hashable
    obtain ⟨ht, htfree⟩ := ht hashable
    obtain ⟨hu, hufree⟩ := hu hashable'
    rw [unhashable?, unhashable?, if_pos hashable, if_pos hashable']
    exact ht.hashedAlike hu htfree hufree (isEqual_of_isHashable hashable h)
  | false => simp [unhashable?, hashable, hboth.symm.trans hashable]

/-- Equal lawful keys that can be hashed are the same registry key. -/
theorem Lawful.identical (ht : t.Lawful) (hu : u.Lawful) (h : identityEqual t u = true)
    (hhash : t.unhashable? = Option.none) : t.identical u = true :=
  identical_of_identityEqual hhash ((ht.unhashable?_iff hu h).mp hhash) ht.holdsSelfAlias_eq
    hu.holdsSelfAlias_eq h

/-- Among keys that can be hashed, the equal ones form chains through a hint exactly if it holds no
alias of a class to itself outside of unions. -/
theorem identityEqual_chains_iff (hu : u.unhashable? = Option.none) :
    (∀ t v : TypeHint, t.unhashable? = Option.none → v.unhashable? = Option.none →
      identityEqual t u = true → identityEqual u v = true → identityEqual t v = true) ↔
    u.holdsSelfAlias = false := by
  cases hashable : u.isHashable with
  | true =>
    have hu := firstUnhashable_of_isHashable hashable hu
    refine ⟨fun h => (chains_iff_holdsSelfAlias hu).mp fun t v ht hv htu huv => ?_,
      fun hfree t v ht hv => ?_⟩
    · have ht' := isHashable_of_firstUnhashable ht
      have hv' := isHashable_of_firstUnhashable hv
      rw [← identityEqual_of_isHashable ht' hv']
      refine h t v (by rw [unhashable?, ht, ite_self]) (by rw [unhashable?, hv, ite_self]) ?_ ?_
      · rwa [identityEqual_of_isHashable ht' hashable]
      · rwa [identityEqual_of_isHashable hashable hv']
    · intro htu huv
      refine identityEqual_trans_of (fun ht' => ?_) htu huv
      have hv' := (isHashable_eq_of_identityEqual huv).symm.trans hashable
      exact isEqual_trans_of_holdsSelfAlias (firstUnhashable_of_isHashable ht' ht) hu
        (firstUnhashable_of_isHashable hv' hv) hfree
  | false =>
    have hfree : u.holdsSelfAlias = false := by
      obtain ⟨j, xs, rfl⟩ | ⟨j, keys, xs, rfl⟩ := eq_list_or_dict_of_not_isHashable hashable <;> rfl
    refine iff_of_true (fun t v _ _ htu huv => ?_) hfree
    refine identityEqual_trans_of (fun hashable' => ?_) htu huv
    cases hashable'.symm.trans ((isHashable_eq_of_identityEqual htu).trans hashable)

end Keys

end TypeHint

open TypeHint hiding none

namespace Registry

/-- All registries find the same under a key and another hint exactly if the two are the same
registry key. -/
theorem lookup_eq_iff_identical {t u : TypeHint} (ht : t.IsKey) (hu : u.unhashable? = none) :
    (∀ (strict : Bool) (r : Registry), Reached strict r → r.lookup t = r.lookup u) ↔
      t.identical u = true := by
  refine ⟨fun h => ?_, fun h strict r _ => ?_⟩
  · -- The registry with one link under the key tells any other hint from it.
    have hget := get?_linkedTo true ht.1 ht.2 (.scalar "ID")
    have hlookup := h true (linkedTo true t (.named (.scalar "ID"))) ⟨_, rfl⟩
    rw [lookup, lookup, ht.2, hu] at hlookup
    have hfound : (linkedTo true t (.named (.scalar "ID"))).get? u = some (.named (.scalar "ID")) :=
      (Except.ok.inj hlookup).symm.trans (by rw [hget, identical_refl, if_pos rfl])
    by_contra hother
    rw [hget, if_neg hother] at hfound
    exact ne_id_of_get?_new hfound rfl
  · rw [lookup, lookup, ht.2, hu, r.get?_congr h]

/-- **Equality of keys.** A key that is one object equals itself, and no key is told from another
one that was made like it. Between hints whose comparison cannot fail,
equality gives an answer, relates every hint to itself and goes both ways. Equal hints that are
lawful, which is to say that they hold no alias of a class to itself either, form chains, are
hashable together and are found under each other in every registry. Among hints that can be hashed,
chains lead through a hint exactly if it holds no such alias outside of unions; and what is linked
is found under a key and another hint alike, in all registries, exactly if the two are the same
registry key. -/
theorem identity_laws (t u : TypeHint) :
    t.keysEqual true t = .ok true ∧
    t.denotesSame t ≠ .ok false ∧
    (t.KeyComparable → u.KeyComparable → t.denotesSame t = .ok true ∧
      ∃ answer, t.denotesSame u = .ok answer ∧ u.denotesSame t = .ok answer) ∧
    (t.Lawful → u.Lawful → t.identityEqual u = true →
      (∀ v : TypeHint, v.Lawful → u.identityEqual v = true → t.identityEqual v = true) ∧
      (t.unhashable? = none ↔ u.unhashable? = none) ∧
      (t.unhashable? = none → ∀ r : Registry, r.lookup t = r.lookup u)) ∧
    (t.unhashable? = none →
      ((∀ s v : TypeHint, s.unhashable? = none → v.unhashable? = none →
        s.identityEqual t = true → t.identityEqual v = true → s.identityEqual v = true) ↔
      t.holdsSelfAlias = false)) ∧
    (t.IsKey → u.unhashable? = none →
      ((∀ (strict : Bool) (r : Registry), Reached strict r → r.lookup t = r.lookup u) ↔
        t.identical u = true)) := by
  refine ⟨rfl, denotesSame_self_ne_false t, fun ht hu => ⟨?_, ht.denotesSame hu⟩, fun ht hu h =>
    ⟨fun v hv => ht.identityEqual_trans hu hv h, ht.unhashable?_iff hu h, fun hhash r => ?_⟩,
    identityEqual_chains_iff, lookup_eq_iff_identical⟩
  · obtain ⟨answer, hanswer, -⟩ := ht.denotesSame ht
    cases answer with
    | true => exact hanswer
    | false => exact absurd hanswer (denotesSame_self_ne_false t)
  · rw [lookup, lookup, hhash, (ht.unhashable?_iff hu h).mp hhash,
      r.get?_congr (ht.identical hu h hhash)]

/-- Unions of integers and text are equal in any order and of either flavour, form chains, and are
found under each other. -/
theorem identity_laws_unions :
    let int : TypeHint := .cls Class.Builtin.int
    let str : TypeHint := .cls Class.Builtin.str
    let t : TypeHint := .union .typing [int, str]
    let u : TypeHint := .union .operator [str, int]
    let v : TypeHint := .union .operator [int, str]
    t.KeyComparable ∧ t.Lawful ∧ u.Lawful ∧ v.Lawful ∧ t.denotesSame t = .ok true ∧
      t.identityEqual u = true ∧ u.identityEqual v = true ∧ t.identityEqual v = true ∧
      (∀ s v : TypeHint, s.unhashable? = none → v.unhashable? = none →
        s.identityEqual t = true → t.identityEqual v = true → s.identityEqual v = true) ∧
      t.IsKey ∧ u.unhashable? = none ∧ t.identical u = true ∧
      ∀ r : Registry, r.lookup t = r.lookup u := by
  intro int str t u v
  have lawful {f : UnionFlavour} {x y : Class} : (union f [.cls x, .cls y]).Lawful := by
    intro _
    have hclass (c : Class) : (cls c).AliasFree :=
      .intro (fun d h => by cases h) fun x hx => by cases hx
    refine ⟨comparable_of_firstUnhashable rfl, .intro (fun d h => by cases h) fun z hz => ?_⟩
    simp only [comparedParts, parts, List.mem_cons, List.not_mem_nil, or_false] at hz
    rcases hz with rfl | rfl <;> exact hclass _
  have hcomparable : t.KeyComparable := fun hashable => (lawful hashable).1
  have htu : t.identityEqual u = true := by
    simp [identityEqual, denotesSame, isHashable, equals, firstUnhashableMember,
      firstUnhashableOf, firstUnhashable, same, allAmong, anySame, t, u, int, str]
  have huv : u.identityEqual v = true := by
    simp [identityEqual, denotesSame, isHashable, equals, firstUnhashableMember,
      firstUnhashableOf, firstUnhashable, same, allAmong, anySame, u, v, int, str]
  obtain ⟨-, -, hdecided, hlawful, hchains, hexact⟩ := identity_laws t u
  obtain ⟨hchain, -, hlookup⟩ := hlawful lawful lawful htu
  have hfound := hlookup rfl
  exact ⟨hcomparable, lawful, lawful, lawful, (hdecided hcomparable fun h => (lawful h).1).1, htu,
    huv, hchain v lawful huv, (hchains rfl).mpr rfl, ⟨rfl, rfl⟩, rfl,
    (hexact ⟨rfl, rfl⟩ rfl).mp fun _ r _ => hfound r, hfound⟩

/-- Two annotations of lists equal the alias of lists to themselves and not each other, and are not
found where the alias is linked. The alias can be hashed and equals an annotation that cannot. -/
theorem identity_laws_fail_at_selfAlias :
    let list : TypeHint := .cls Class.Builtin.list
    let lists : TypeHint := selfAlias Class.Builtin.list
    let a : TypeHint := .annotated list [.text "a"]
    let b : TypeHint := .annotated list [.text "b"]
    let raw : TypeHint := .annotated list [.list 0 []]
    let r := (new true).run [⟨lists, .named (.scalar "ID")⟩]
    a.identityEqual lists = true ∧ lists.identityEqual b = true ∧ a.identityEqual b = false ∧
      lists.identityEqual raw = true ∧ lists.unhashable? = none ∧ raw.unhashable? = some .list ∧
      r.lookup lists = .ok (some (.named (.scalar "ID"))) ∧ r.lookup b = .ok none := by
  intro list lists a b raw r
  have hlists : lists.identityEqual b = true := identityEqual_selfAlias _ _
  have hback : a.identityEqual lists = true := by
    simp [identityEqual, denotesSame, isHashable, equals, isTargetAlias, selfAlias, a, list, lists]
  have hother : a.identityEqual b = false := by
    have hvalues : (Value.text "a").same (.text "b") = false := by decide
    simp [identityEqual, denotesSame, isHashable, equals, equalsEach, same, hvalues, a, b, list]
  have hfound : r.lookup lists = .ok (some (.named (.scalar "ID"))) :=
    (new true).lookup_key_after ⟨lists, .named (.scalar "ID")⟩ rfl
  have hfree : r.get? b = none := by
    have hannotated : b.stripAnnotated ≠ b := by simp [stripAnnotated, b, list]
    rcases Reached.get?_annotated ⟨_, rfl⟩ hannotated with h | ⟨c, h, -⟩
    · exact h
    · simp [b] at h
  refine ⟨hback, hlists, hother, identityEqual_selfAlias _ _, rfl, rfl, hfound, ?_⟩
  exact congrArg Except.ok hfree

end Registry

end SchemaLink
