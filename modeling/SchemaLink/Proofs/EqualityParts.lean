import Mathlib.Data.List.Forall2
import SchemaLink.Proofs.SpelledHints

/-!
# Equality by parts

A comparison of two hints compares parts of them, in an order that decides which failure is
reported. Where no comparison of parts fails, the order does not matter: hints are equal exactly if
they are of one form with equal parts, side by side in aliases, annotations and containers, and in
any order in unions. The comparison fails only over unions of the `|` operator with a member that
cannot be hashed, and so never between hints that can be.
-/

namespace SchemaLink

namespace TypeHint

/-- The parts of a hint that comparisons look at: new types are told apart by their names alone. -/
def comparedParts : TypeHint → List TypeHint
  | .newType _ _ _ => []
  | t => t.parts

/-- A property holds of a hint and of every part that comparisons may come to. -/
inductive Throughout (p : TypeHint → Prop) : TypeHint → Prop where
  | intro {t : TypeHint} (here : p t) (parts : ∀ x ∈ t.comparedParts, Throughout p x) :
      Throughout p t

/-- Where the hint is a union of the `|` operator, its members can be hashed. -/
def KeyedUnion (t : TypeHint) : Prop :=
  ∀ members, t = .union .operator members → firstUnhashableOf members = Option.none

/-- Every union of the `|` operator that comparisons may come to has members that can be hashed. -/
abbrev Comparable (t : TypeHint) : Prop := Throughout KeyedUnion t

section Throughout

variable {p : TypeHint → Prop} {t : TypeHint}

/-- What holds throughout a hint holds of the hint. -/
theorem Throughout.here (h : Throughout p t) : p t := by
  cases h with
  | intro here _ => exact here

/-- What holds throughout a hint holds throughout its parts. -/
theorem Throughout.parts (h : Throughout p t) : ∀ x ∈ t.comparedParts, Throughout p x := by
  cases h with
  | intro _ parts => exact parts

/-- What holds of a hint whenever it holds of its compared parts holds of every hint. -/
theorem comparedParts_induction {motive : TypeHint → Prop}
    (step : ∀ t : TypeHint, (∀ x ∈ t.comparedParts, motive x) → motive t) (t : TypeHint) :
    motive t := by
  induction t using TypeHint.ind with
  | formAlias n args ih => exact step _ ih
  | generic f c args ih => exact step _ ih
  | union f members ih => exact step _ ih
  | annotated t ms iht ih => exact step _ (List.forall_mem_cons.mpr ⟨iht, ih⟩)
  | list k items ih => exact step _ ih
  | tuple items ih => exact step _ ih
  | dict k keys values ih => exact step _ ih
  | _ => exact step _ (fun x hx => by cases hx)

/-- The parts of a hint that can be hashed can be hashed. -/
theorem firstUnhashable_of_mem_comparedParts (h : t.firstUnhashable = Option.none) :
    ∀ x ∈ t.comparedParts, x.firstUnhashable = Option.none := by
  cases t with
  | formAlias n args => exact firstUnhashableOf_eq_none_iff.mp h
  | generic f c args => exact firstUnhashableOf_eq_none_iff.mp h
  | union f members => exact firstUnhashableOf_eq_none_iff.mp h
  | annotated t ms => exact List.forall_mem_cons.mpr (firstUnhashable_annotated_eq_none_iff.mp h)
  | tuple items => exact firstUnhashableOf_eq_none_iff.mp h
  | list k items => cases h
  | dict k keys values => cases h
  | _ => exact fun x hx => by cases hx

/-- Hints that can be hashed are comparable. -/
theorem comparable_of_firstUnhashable (h : t.firstUnhashable = Option.none) : t.Comparable := by
  induction t using comparedParts_induction with
  | step t ih =>
    refine .intro ?_ fun x hx => ih x hx (firstUnhashable_of_mem_comparedParts h x hx)
    rintro members rfl
    exact h

end Throughout

/-- A comparison does not fail, and its answer is whether a proposition holds. -/
def Decides (comparison : Except Unhashable Bool) (p : Prop) : Prop :=
  ∃ answer, comparison = .ok answer ∧ (answer = true ↔ p)

section Decides

variable {comparison : Except Unhashable Bool} {p q : Prop}

/-- A comparison decides what is equivalent to what it decides. -/
theorem Decides.congr (h : Decides comparison p) (hpq : p ↔ q) : Decides comparison q := by
  obtain ⟨answer, hanswer, hiff⟩ := h
  exact ⟨answer, hanswer, hiff.trans hpq⟩

/-- An answer that is there already decides what it says. -/
theorem decides_ok {answer : Bool} (h : answer = true ↔ p) : Decides (.ok answer) p :=
  ⟨answer, rfl, h⟩

/-- A comparison that decides a proposition comes to true exactly if the proposition holds. -/
theorem Decides.eq_ok_true_iff (h : Decides comparison p) : comparison = .ok true ↔ p := by
  obtain ⟨answer, rfl, hiff⟩ := h
  rw [Except.ok.injEq, hiff]

/-- A comparison goes on if it has come to true so far, and decides both parts together. -/
theorem Decides.and {next : Except Unhashable Bool} :
    Decides comparison p → Decides next q →
      Decides (match comparison with
        | .ok true => next
        | answer => answer) (p ∧ q) := by
  rintro ⟨answer, rfl, hiff⟩ hnext
  cases answer with
  | true => exact hnext.congr ⟨fun hq => ⟨hiff.mp rfl, hq⟩, And.right⟩
  | false => exact decides_ok ⟨nofun, fun hpq => hiff.mpr hpq.1⟩

/-- A comparison goes on if it has come to false so far, and decides whether either part holds. -/
theorem Decides.or {next : Except Unhashable Bool} :
    Decides comparison p → Decides next q →
      Decides (match comparison with
        | .ok false => next
        | answer => answer) (p ∨ q) := by
  rintro ⟨answer, rfl, hiff⟩ hnext
  cases answer with
  | false => exact hnext.congr ⟨.inr, fun hpq => hpq.resolve_left fun hp => nomatch hiff.mpr hp⟩
  | true => exact decides_ok ⟨fun h => .inl (hiff.mp h), fun _ => rfl⟩

/-- A comparison that is made under a condition only decides both together. -/
theorem decides_ite {c : Prop} [Decidable c] (h : c → Decides comparison p) :
    Decides (if c then comparison else .ok false) (c ∧ p) := by
  split
  case isTrue hc => exact (h hc).congr ⟨fun hp => ⟨hc, hp⟩, And.right⟩
  case isFalse hc => exact decides_ok ⟨nofun, fun hcp => absurd hcp.1 hc⟩

end Decides

section Scans

variable {p : TypeHint → Prop} {f : TypeHint → Except Unhashable Bool} {xs ys : List TypeHint}

/-- A scan for a hint decides whether there is one, if no comparison fails. -/
theorem decides_anyM (h : ∀ x ∈ xs, Decides (f x) (p x)) :
    Decides (xs.anyM f) (∃ x ∈ xs, p x) := by
  induction xs with
  | nil => exact decides_ok (by simp)
  | cons x xs ih =>
    rw [List.forall_mem_cons] at h
    obtain ⟨answer, hanswer, hiff⟩ := h.1
    rw [List.anyM_cons, hanswer]
    cases answer with
    | true => exact decides_ok (by simp [hiff.mp rfl])
    | false =>
      have hother : ¬ p x := fun hp => nomatch hiff.mpr hp
      exact (ih h.2).congr (by simp [hother])

/-- A scan over all hints decides whether all of them pass, if no comparison fails. -/
theorem decides_allM (h : ∀ x ∈ xs, Decides (f x) (p x)) :
    Decides (xs.allM f) (∀ x ∈ xs, p x) := by
  induction xs with
  | nil => exact decides_ok (by simp)
  | cons x xs ih =>
    rw [List.forall_mem_cons] at h
    obtain ⟨answer, hanswer, hiff⟩ := h.1
    rw [List.allM_cons, hanswer]
    cases answer with
    | true => exact (ih h.2).congr (by simp [hiff.mp rfl])
    | false =>
      have hother : ¬ p x := fun hp => nomatch hiff.mpr hp
      exact decides_ok (by simp [hother])

/-- The comparison of two hints does not fail. -/
def Compared (t u : TypeHint) : Prop := Decides (equals t u) (isEqual t u = true)

/-- A comparison that decides anything does not fail. -/
theorem compared_of_decides {t u : TypeHint} {q : Prop} (h : Decides (equals t u) q) :
    Compared t u := by
  obtain ⟨answer, hanswer, -⟩ := h
  exact ⟨answer, hanswer, by rw [isEqual, hanswer]⟩

/-- Lists are compared one by one. -/
theorem decides_equalsEach (h : ∀ x ∈ xs, ∀ y ∈ ys, Compared x y) :
    Decides (equalsEach xs ys) (List.Forall₂ (fun x y => isEqual x y = true) xs ys) := by
  induction xs generalizing ys with
  | nil =>
    cases ys with
    | nil => exact ⟨true, by rw [equalsEach], by simp⟩
    | cons y ys => exact ⟨false, by simp [equalsEach], by simp⟩
  | cons x xs ih =>
    cases ys with
    | nil => exact ⟨false, by simp [equalsEach], by simp⟩
    | cons y ys =>
      have hfirst : Compared x y := h x (by simp) y (by simp)
      have hrest := ih fun a ha b (hb : b ∈ ys) => h a (by simp [ha]) b (by simp [hb])
      rw [equalsEach, List.forall₂_cons]
      exact hfirst.and hrest

/-- A list is compared with another one for an equal hint for each of its own. -/
theorem decides_eachAmong (h : ∀ x ∈ xs, ∀ y ∈ ys, Compared x y) :
    Decides (eachAmong xs ys) (∀ x ∈ xs, ∃ y ∈ ys, isEqual x y = true) := by
  induction xs with
  | nil => exact ⟨true, by rw [eachAmong], by simp⟩
  | cons x xs ih =>
    rw [List.forall_mem_cons] at h
    rw [eachAmong, List.forall_mem_cons]
    exact (decides_anyM h.1).and (ih h.2)

/-- A hint is sought in a list. -/
theorem decides_anyEquals {y : TypeHint} (h : ∀ x ∈ xs, Compared x y) :
    Decides (anyEquals xs y) (∃ x ∈ xs, isEqual x y = true) := by
  induction xs with
  | nil => exact ⟨false, by rw [anyEquals], by simp⟩
  | cons x xs ih =>
    rw [List.forall_mem_cons] at h
    have hfirst : Compared x y := h.1
    rw [anyEquals]
    exact (hfirst.or (ih h.2)).congr (by simp)

end Scans

/-- Whether a hint is compared as a key, without a look at its parts. -/
def isAtom : TypeHint → Bool
  | .value _ | .cls _ | .forward _ | .typeVar _ _ | .newType _ _ _ | .object _ _ _ | .form _
  | .bare _ | .literal _ => true
  | _ => false

/-- Lists hold equal hints, one by one. -/
def EachEqual (xs ys : List TypeHint) : Prop := List.Forall₂ (fun x y => isEqual x y = true) xs ys

/-- How two hints come to be equal, by what their parts are. -/
inductive EqualByParts : TypeHint → TypeHint → Prop where
  | atom {t u : TypeHint} (ht : t.isAtom = true) (h : same t u = true) : EqualByParts t u
  | formAlias (name : String) {xs ys : List TypeHint} (h : EachEqual xs ys) :
      EqualByParts (.formAlias name xs) (.formAlias name ys)
  | generic (f : AliasFlavour) (c : Class) {xs ys : List TypeHint} (h : EachEqual xs ys) :
      EqualByParts (.generic f c xs) (.generic f c ys)
  | annotated {t u : TypeHint} {ms ns : List TypeHint} (ht : isEqual t u = true)
      (h : EachEqual ms ns) : EqualByParts (.annotated t ms) (.annotated u ns)
  /-- An alias of a class to itself equals every annotation of the class. -/
  | aliasAnnotated (c : Class) (ms : List TypeHint) :
      EqualByParts (selfAlias c) (.annotated (.cls c) ms)
  | annotatedAlias (c : Class) (ms : List TypeHint) :
      EqualByParts (.annotated (.cls c) ms) (selfAlias c)
  /-- Unions are compared as keys if all members can be hashed. -/
  | keyedUnion (f g : UnionFlavour) {xs ys : List TypeHint}
      (hashable : firstUnhashableMember xs ys = Option.none)
      (h : same (.union f xs) (.union g ys) = true) : EqualByParts (.union f xs) (.union g ys)
  /-- Otherwise they are equal if their members are, in any order. -/
  | union {f g : UnionFlavour} {xs ys : List TypeHint} (unkeyed : ¬ (f = .operator ∧ g = .operator))
      (unhashable : firstUnhashableMember xs ys ≠ Option.none) (hlength : xs.length = ys.length)
      (hxs : ∀ x ∈ xs, ∃ y ∈ ys, isEqual x y = true)
      (hys : ∀ y ∈ ys, ∃ x ∈ xs, isEqual x y = true) : EqualByParts (.union f xs) (.union g ys)
  | list (j k : Nat) {xs ys : List TypeHint} (h : EachEqual xs ys) :
      EqualByParts (.list j xs) (.list k ys)
  | tuple {xs ys : List TypeHint} (h : EachEqual xs ys) : EqualByParts (.tuple xs) (.tuple ys)
  | dict (j k : Nat) (keys : List String) {xs ys : List TypeHint} (h : EachEqual xs ys) :
      EqualByParts (.dict j keys xs) (.dict k keys ys)

section Inversion

variable {t u : TypeHint} {xs ys : List TypeHint}

/-- Equal aliases have equal arguments, one by one. -/
theorem EqualByParts.of_generic {f g : AliasFlavour} {c d : Class}
    (h : EqualByParts (.generic f c xs) (.generic g d ys)) : EachEqual xs ys := by
  cases h with
  | generic _ _ h => exact h
  | atom hatom => cases hatom

/-- Equal annotations have equal targets, and equal metadata one by one. -/
theorem EqualByParts.of_annotated (h : EqualByParts (.annotated t xs) (.annotated u ys)) :
    isEqual t u = true ∧ EachEqual xs ys := by
  cases h with
  | annotated ht h => exact ⟨ht, h⟩
  | atom hatom => cases hatom

end Inversion

/-- A comparison of unions is decided by the members, if the comparison of none of them fails and
the members of a union of the `|` operator can be hashed. -/
theorem decides_equals_union {f g : UnionFlavour} {xs ys : List TypeHint}
    (hparts : ∀ x ∈ xs, ∀ y ∈ ys, Compared x y) (ht : (union f xs).KeyedUnion)
    (hu : (union g ys).KeyedUnion) :
    Decides (equals (.union f xs) (.union g ys)) (EqualByParts (.union f xs) (.union g ys)) := by
  rw [equals]
  split
  case h_1 hashable =>
    refine decides_ok ⟨.keyedUnion f g hashable, fun h => ?_⟩
    cases h with
    | keyedUnion _ _ _ h => exact h
    | union _ unhashable => exact absurd hashable unhashable
    | atom hatom => cases hatom
  case h_2 container hcontainer =>
    have unkeyed : ¬ (f = .operator ∧ g = .operator) := by
      rintro ⟨rfl, rfl⟩
      rw [firstUnhashableMember_eq_none_iff.mpr ⟨ht xs rfl, hu ys rfl⟩] at hcontainer
      cases hcontainer
    have hback : Decides (ys.allM (anyEquals xs)) (∀ y ∈ ys, ∃ x ∈ xs, isEqual x y = true) :=
      decides_allM fun y hy => decides_anyEquals fun x hx => hparts x hx y hy
    rw [if_neg unkeyed]
    refine ((decides_eachAmong hparts).and (decides_ite fun _ => hback)).congr
      ⟨fun h => .union unkeyed (by simp [hcontainer]) h.2.1 h.1 h.2.2, fun h => ?_⟩
    cases h with
    | keyedUnion _ _ hashable => cases hashable.symm.trans hcontainer
    | union _ _ hlength hxs hys => exact ⟨hxs, hlength, hys⟩
    | atom hatom => cases hatom

/-- A comparison of hints is decided by their parts, if the comparison of no parts fails and no
union of the `|` operator has a member that cannot be hashed. -/
theorem decides_equals_of_parts {t u : TypeHint}
    (hparts : ∀ x ∈ t.comparedParts, ∀ y ∈ u.comparedParts, Compared x y)
    (ht : t.KeyedUnion) (hu : u.KeyedUnion) : Decides (equals t u) (EqualByParts t u) := by
  unfold equals
  split
  case h_1 m xs n ys =>
    refine (decides_ite fun _ => decides_equalsEach hparts).congr ⟨?_, fun h => ?_⟩
    · rintro ⟨rfl, h⟩
      exact .formAlias m h
    · cases h with
      | formAlias _ h => exact ⟨rfl, h⟩
      | atom hatom => cases hatom
  case h_2 c xs d ys =>
    refine (decides_ite fun _ => decides_equalsEach hparts).congr ⟨?_, fun h => ?_⟩
    · rintro ⟨rfl, h⟩
      exact .generic .builtin c h
    · cases h with
      | generic _ _ h => exact ⟨rfl, h⟩
      | atom hatom => cases hatom
  case h_3 c xs d ys =>
    refine (decides_ite fun _ => decides_equalsEach hparts).congr ⟨?_, fun h => ?_⟩
    · rintro ⟨rfl, h⟩
      exact .generic .typing c h
    · cases h with
      | generic _ _ h => exact ⟨rfl, h⟩
      | atom hatom => cases hatom
  case h_4 c xs t ms =>
    refine decides_ok ⟨fun h => ?_, fun h => ?_⟩
    · simp only [isTargetAlias, Bool.and_eq_true, isOnly_iff, isClass_iff] at h
      obtain ⟨rfl, rfl⟩ := h
      exact .aliasAnnotated c ms
    · cases h with
      | aliasAnnotated => simp [isTargetAlias]
      | atom hatom => cases hatom
  case h_5 t ms c xs =>
    refine decides_ok ⟨fun h => ?_, fun h => ?_⟩
    · simp only [isTargetAlias, Bool.and_eq_true, isOnly_iff, isClass_iff] at h
      obtain ⟨rfl, rfl⟩ := h
      exact .annotatedAlias c ms
    · cases h with
      | annotatedAlias => simp [isTargetAlias]
      | atom hatom => cases hatom
  case h_6 t ms u ns =>
    have htarget : Compared t u := hparts t List.mem_cons_self u List.mem_cons_self
    have hmetadata := decides_equalsEach fun x hx y (hy : y ∈ ns) =>
      hparts x (List.mem_cons_of_mem t hx) y (List.mem_cons_of_mem u hy)
    refine (htarget.and hmetadata).congr ⟨fun h => .annotated h.1 h.2, fun h => ?_⟩
    cases h with
    | annotated ht h => exact ⟨ht, h⟩
    | atom hatom => cases hatom
  case h_7 f xs g ys =>
    have hunion := decides_equals_union hparts ht hu
    rwa [equals] at hunion
  case h_8 j xs k ys =>
    refine (decides_ite fun _ => decides_equalsEach hparts).congr
      ⟨fun h => .list j k h.2, fun h => ?_⟩
    cases h with
    | list _ _ h => exact ⟨h.length_eq, h⟩
    | atom hatom => cases hatom
  case h_9 xs ys =>
    refine (decides_equalsEach hparts).congr ⟨.tuple, fun h => ?_⟩
    cases h with
    | tuple h => exact h
    | atom hatom => cases hatom
  case h_10 j ks xs k ls ys =>
    refine (decides_ite fun _ => decides_equalsEach hparts).congr ⟨?_, fun h => ?_⟩
    · rintro ⟨rfl, h⟩
      exact .dict j k ks h
    · cases h with
      | dict _ _ _ h => exact ⟨rfl, h⟩
      | atom hatom => cases hatom
  case h_11 hform hbuiltin htyping haliased hannotated hmetadata hunion hlist htuple hdict =>
    refine decides_ok ⟨fun h => ?_, fun h => ?_⟩
    · -- Only atoms are left to be compared as keys.
      cases SameParts.of_same h with
      | formAlias => exact (hform _ _ _ _ rfl rfl).elim
      | generic f =>
        cases f with
        | builtin => exact (hbuiltin _ _ _ _ rfl rfl).elim
        | typing => exact (htyping _ _ _ _ rfl rfl).elim
      | annotated => exact (hmetadata _ _ _ _ rfl rfl).elim
      | aliasAnnotated => exact (haliased _ _ _ _ rfl rfl).elim
      | annotatedAlias => exact (hannotated _ _ _ _ rfl rfl).elim
      | union => exact (hunion _ _ _ _ rfl rfl).elim
      | list => exact (hlist _ _ _ _ rfl rfl).elim
      | tuple => exact (htuple _ _ rfl rfl).elim
      | dict => exact (hdict _ _ _ _ _ _ rfl rfl).elim
      | _ => exact .atom rfl h
    · cases h with
      | atom _ h => exact h
      | formAlias => exact (hform _ _ _ _ rfl rfl).elim
      | generic f =>
        cases f with
        | builtin => exact (hbuiltin _ _ _ _ rfl rfl).elim
        | typing => exact (htyping _ _ _ _ rfl rfl).elim
      | annotated => exact (hmetadata _ _ _ _ rfl rfl).elim
      | aliasAnnotated => exact (haliased _ _ _ _ rfl rfl).elim
      | annotatedAlias => exact (hannotated _ _ _ _ rfl rfl).elim
      | keyedUnion => exact (hunion _ _ _ _ rfl rfl).elim
      | union => exact (hunion _ _ _ _ rfl rfl).elim
      | list => exact (hlist _ _ _ _ rfl rfl).elim
      | tuple => exact (htuple _ _ rfl rfl).elim
      | dict => exact (hdict _ _ _ _ _ _ rfl rfl).elim

/-- **Equality by parts.** The comparison of two comparable hints does not fail, and decides whether
they are equal by their parts. -/
theorem Comparable.decides_equals {t u : TypeHint} (ht : t.Comparable) (hu : u.Comparable) :
    Decides (equals t u) (EqualByParts t u) := by
  induction ht generalizing u with
  | intro here parts ih =>
    refine decides_equals_of_parts (fun x hx y hy => ?_) here hu.here
    exact compared_of_decides (ih x hx (hu.parts y hy))

/-- The comparison of two comparable hints does not fail. -/
theorem Comparable.compared {t u : TypeHint} (ht : t.Comparable) (hu : u.Comparable) :
    Compared t u := compared_of_decides (ht.decides_equals hu)

/-- Comparable hints are equal exactly if they are so by their parts. -/
theorem Comparable.isEqual_iff {t u : TypeHint} (ht : t.Comparable) (hu : u.Comparable) :
    isEqual t u = true ↔ EqualByParts t u :=
  (ht.compared hu).eq_ok_true_iff.symm.trans (ht.decides_equals hu).eq_ok_true_iff

end TypeHint

end SchemaLink
