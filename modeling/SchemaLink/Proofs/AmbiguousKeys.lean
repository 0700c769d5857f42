import Mathlib.Data.Set.Basic
import SchemaLink.Hint.Wrapper
import SchemaLink.Proofs.KeyEquivalence

/-!
# Equal hints that are different keys

Hints that are the same key are equal, if they can be hashed. The converse fails in one way only:
the alias of a class to itself equals every annotation of that class, and is the same key as one of
them. A stock of hints is unambiguous if no hint of it equals another one without being the same
key, which is so whenever no hint of the stock holds an alias of a class to itself.
-/

namespace SchemaLink.TypeHint

/-- Whether two hints are equal as keys of a registry, which they are not if their comparison
fails. -/
def identityEqual (t u : TypeHint) : Bool :=
  match t.denotesSame u with
  | .ok answer => answer
  | .error _ => false

/-- Several hints can be hashed if each of them can. -/
theorem firstUnhashableOf_eq_none_iff {xs : List TypeHint} :
    firstUnhashableOf xs = Option.none ↔ ∀ x ∈ xs, x.firstUnhashable = Option.none := by
  induction xs with
  | nil => simp [firstUnhashableOf]
  | cons x xs ih =>
    cases hx : x.firstUnhashable with
    | none => simp [firstUnhashableOf, hx, ih]
    | some container => simp [firstUnhashableOf, hx]

/-- The members of two unions can be hashed if each of them can. -/
theorem firstUnhashableMember_eq_none_iff {xs ys : List TypeHint} :
    firstUnhashableMember xs ys = Option.none ↔
      firstUnhashableOf xs = Option.none ∧ firstUnhashableOf ys = Option.none := by
  cases h : firstUnhashableOf xs <;> simp [firstUnhashableMember, h]

/-- An annotation can be hashed if its target and its metadata can. -/
theorem firstUnhashable_annotated_eq_none_iff {t : TypeHint} {ms : List TypeHint} :
    firstUnhashable (.annotated t ms) = Option.none ↔
      t.firstUnhashable = Option.none ∧ ∀ m ∈ ms, m.firstUnhashable = Option.none := by
  cases h : t.firstUnhashable <;>
    simp [firstUnhashable, h, firstUnhashableOf_eq_none_iff]

/-- Lists that hold the same hints one by one are equal, if their hints are. -/
theorem equalsEach_of_sameList {xs ys : List TypeHint}
    (ih : ∀ x ∈ xs, ∀ y ∈ ys, same x y = true → equals x y = .ok true)
    (h : sameList xs ys = true) : equalsEach xs ys = .ok true := by
  induction xs generalizing ys with
  | nil =>
    cases ys with
    | nil => simp [equalsEach]
    | cons y ys => simp [sameList] at h
  | cons x xs hxs =>
    cases ys with
    | nil => simp [sameList] at h
    | cons y ys =>
      simp only [sameList, Bool.and_eq_true] at h
      rw [equalsEach, ih x (by simp) y (by simp) h.1]
      exact hxs (fun a ha b hb => ih a (by simp [ha]) b (by simp [hb])) h.2

/-- Hints that are the same key and can be hashed are equal. -/
theorem equals_of_same {t u : TypeHint} (ht : t.firstUnhashable = Option.none)
    (hu : u.firstUnhashable = Option.none) (h : same t u = true) : equals t u = .ok true := by
  induction t using TypeHint.ind generalizing u with
  | formAlias n args ih =>
    cases SameParts.of_same h with
    | formAlias _ hl =>
      simp only [firstUnhashable, firstUnhashableOf_eq_none_iff] at ht hu
      rw [equals, if_pos rfl]
      exact equalsEach_of_sameList (fun x hx y hy => ih x hx (ht x hx) (hu y hy)) hl
  | generic f c args ih =>
    cases SameParts.of_same h with
    | generic _ _ hl =>
      simp only [firstUnhashable, firstUnhashableOf_eq_none_iff] at ht hu
      have hargs := equalsEach_of_sameList (fun x hx y hy => ih x hx (ht x hx) (hu y hy)) hl
      cases f with
      | builtin => rwa [equals, if_pos rfl]
      | typing => rwa [equals, if_pos rfl]
    | aliasAnnotated => simp [equals, isTargetAlias]
  | union f members ih =>
    cases SameParts.of_same h with
    | union _ g hxs hys =>
      simp only [firstUnhashable] at ht hu
      rw [equals, firstUnhashableMember_eq_none_iff.mpr ⟨ht, hu⟩, h]
  | annotated t ms iht ih =>
    cases SameParts.of_same h with
    | annotated hs hl =>
      rw [firstUnhashable_annotated_eq_none_iff] at ht hu
      rw [equals, iht ht.1 hu.1 hs]
      exact equalsEach_of_sameList (fun x hx y hy => ih x hx (ht.2 x hx) (hu.2 y hy)) hl
    | annotatedAlias => simp [equals, isTargetAlias]
  | tuple items ih =>
    cases SameParts.of_same h with
    | tuple hl =>
      simp only [firstUnhashable, firstUnhashableOf_eq_none_iff] at ht hu
      rw [equals]
      exact equalsEach_of_sameList (fun x hx y hy => ih x hx (ht x hx) (hu y hy)) hl
  | list k items ih => simp [firstUnhashable] at ht
  | dict k keys values ih => simp [firstUnhashable] at ht
  | _ =>
    cases SameParts.of_same h
    simp_all [equals]

/-- What can be looked up in a registry is hashed part by part, unless it is a raw list or
mapping. -/
theorem firstUnhashable_of_isHashable {t : TypeHint} (h : t.isHashable = true)
    (ht : t.unhashable? = Option.none) : t.firstUnhashable = Option.none := by
  simpa [unhashable?, h] using ht

/-- Hints that are the same registry key are equal, if they can be hashed. -/
theorem identityEqual_of_identical {t u : TypeHint} (ht : t.unhashable? = Option.none)
    (hu : u.unhashable? = Option.none) (h : identical t u = true) : identityEqual t u = true := by
  cases hashable : t.isHashable with
  | true =>
    obtain ⟨hashable', hsame⟩ := (identical_iff_of_isHashable hashable).mp h
    have := equals_of_same (firstUnhashable_of_isHashable hashable ht)
      (firstUnhashable_of_isHashable hashable' hu) hsame
    simp [identityEqual, denotesSame, hashable, hashable', this]
  | false => simp [identityEqual, denotesSame, hashable, h]

mutual

/-- Whether an alias of a class to itself stands among the parts that are compared one by one. -/
def holdsSelfAlias : TypeHint → Bool
  | .formAlias _ args => anyHoldsSelfAlias args
  | .generic f c args => (f = .typing && isOnly c args) || anyHoldsSelfAlias args
  | .annotated t metadata => holdsSelfAlias t || anyHoldsSelfAlias metadata
  | .tuple items => anyHoldsSelfAlias items
  | _ => false

/-- Whether one of several hints holds an alias of a class to itself. -/
def anyHoldsSelfAlias : List TypeHint → Bool
  | [] => false
  | x :: xs => holdsSelfAlias x || anyHoldsSelfAlias xs

end

/-- A list holds an alias of a class to itself if one of its hints does. -/
theorem anyHoldsSelfAlias_eq_false_iff {xs : List TypeHint} :
    anyHoldsSelfAlias xs = false ↔ ∀ x ∈ xs, x.holdsSelfAlias = false := by
  induction xs with
  | nil => simp [anyHoldsSelfAlias]
  | cons x xs ih => simp [anyHoldsSelfAlias, ih]

/-- Equal lists hold the same hints one by one, if their equal hints are the same. -/
theorem sameList_of_equalsEach {xs ys : List TypeHint}
    (ih : ∀ x ∈ xs, ∀ y ∈ ys, equals x y = .ok true → same x y = true)
    (h : equalsEach xs ys = .ok true) : sameList xs ys = true := by
  induction xs generalizing ys with
  | nil =>
    cases ys with
    | nil => simp [sameList]
    | cons y ys => simp [equalsEach] at h
  | cons x xs hxs =>
    cases ys with
    | nil => simp [equalsEach] at h
    | cons y ys =>
      rw [equalsEach] at h
      split at h
      case h_1 heq =>
        rw [sameList, ih x (by simp) y (by simp) heq, Bool.true_and]
        exact hxs (fun a ha b hb => ih a (by simp [ha]) b (by simp [hb])) h
      case h_2 hne => exact absurd h hne

/-- Equal hints are the same key, if they can be hashed and hold no alias of a class to itself. -/
theorem same_of_equals {t u : TypeHint} (ht : t.firstUnhashable = Option.none)
    (hu : u.firstUnhashable = Option.none) (hself : t.holdsSelfAlias = false)
    (hself' : u.holdsSelfAlias = false) (h : equals t u = .ok true) : same t u = true := by
  have parts {xs ys : List TypeHint} (hsize : sizeOf xs < sizeOf t)
      (hxs : firstUnhashableOf xs = Option.none) (hys : firstUnhashableOf ys = Option.none)
      (hxs' : anyHoldsSelfAlias xs = false) (hys' : anyHoldsSelfAlias ys = false)
      (hxy : equalsEach xs ys = .ok true) : sameList xs ys = true := by
    rw [firstUnhashableOf_eq_none_iff] at hxs hys
    rw [anyHoldsSelfAlias_eq_false_iff] at hxs' hys'
    refine sameList_of_equalsEach (fun x hx y hy => ?_) hxy
    have := List.sizeOf_lt_of_mem hx
    exact same_of_equals (hxs x hx) (hys y hy) (hxs' x hx) (hys' y hy)
  unfold equals at h
  split at h
  case h_1 =>
    split at h
    case isTrue hname =>
      subst hname
      refine (SameParts.formAlias _ (parts ?_ ht hu hself hself' h)).same
      rw [formAlias.sizeOf_spec]
      omega
    case isFalse => cases h
  case h_2 =>
    split at h
    case isTrue horigin =>
      subst horigin
      simp only [holdsSelfAlias, Bool.or_eq_false_iff] at hself hself'
      refine (SameParts.generic _ _ (parts ?_ ht hu hself.2 hself'.2 h)).same
      rw [generic.sizeOf_spec]
      omega
    case isFalse => cases h
  case h_3 =>
    split at h
    case isTrue horigin =>
      subst horigin
      simp only [holdsSelfAlias, Bool.or_eq_false_iff] at hself hself'
      refine (SameParts.generic _ _ (parts ?_ ht hu hself.2 hself'.2 h)).same
      rw [generic.sizeOf_spec]
      omega
    case isFalse => cases h
  case h_4 =>
    simp only [Except.ok.injEq, isTargetAlias, Bool.and_eq_true] at h
    simp [holdsSelfAlias, h.1] at hself
  case h_5 =>
    simp only [Except.ok.injEq, isTargetAlias, Bool.and_eq_true] at h
    simp [holdsSelfAlias, h.1] at hself'
  case h_6 =>
    rw [firstUnhashable_annotated_eq_none_iff, ← firstUnhashableOf_eq_none_iff] at ht hu
    simp only [holdsSelfAlias, Bool.or_eq_false_iff] at hself hself'
    split at h
    case h_1 heq =>
      have htarget := same_of_equals ht.1 hu.1 hself.1 hself'.1 heq
      refine (SameParts.annotated htarget (parts ?_ ht.2 hu.2 hself.2 hself'.2 h)).same
      rw [annotated.sizeOf_spec]
      omega
    case h_2 hne => exact absurd h hne
  case h_7 =>
    have hmembers := firstUnhashableMember_eq_none_iff.mpr ⟨ht, hu⟩
    rw [hmembers] at h
    exact Except.ok.inj h
  case h_8 => simp [firstUnhashable] at ht
  case h_9 =>
    refine (SameParts.tuple (parts ?_ ht hu hself hself' h)).same
    rw [tuple.sizeOf_spec]
    omega
  case h_10 => simp [firstUnhashable] at ht
  case h_11 => exact Except.ok.inj h
termination_by sizeOf t

/-- Hints that are equal as keys of a registry are the same registry key, if they can be hashed and
hold no alias of a class to itself. -/
theorem identical_of_identityEqual {t u : TypeHint} (ht : t.unhashable? = Option.none)
    (hu : u.unhashable? = Option.none) (hself : t.holdsSelfAlias = false)
    (hself' : u.holdsSelfAlias = false) (h : identityEqual t u = true) : identical t u = true := by
  by_cases hashable : t.isHashable = true ∧ u.isHashable = true
  · obtain ⟨h₁, h₂⟩ := hashable
    have hequals : equals t u = .ok true := by
      simp only [identityEqual, denotesSame, h₁, h₂, Bool.and_self, if_true] at h
      split at h
      case h_1 answer heq => rwa [h] at heq
      case h_2 => cases h
    refine (identical_iff_of_isHashable h₁).mpr ⟨h₂, ?_⟩
    exact same_of_equals (firstUnhashable_of_isHashable h₁ ht)
      (firstUnhashable_of_isHashable h₂ hu) hself hself' hequals
  · simpa [identityEqual, denotesSame, hashable] using h

/-- A class equals only the hint that is the same registry key. -/
theorem identityEqual_cls_left (c : Class) (t : TypeHint) :
    identityEqual (.cls c) t = identical (.cls c) t := by
  cases t <;> simp [identityEqual, denotesSame, isHashable, equals, identical]

/-- A class is equalled only by the hint that is the same registry key. -/
theorem identityEqual_cls_right (t : TypeHint) (c : Class) :
    identityEqual t (.cls c) = identical t (.cls c) := by
  cases t <;> simp [identityEqual, denotesSame, isHashable, equals, identical]

/-- The alias of the typing module of a class to itself. -/
def selfAlias (c : Class) : TypeHint := .generic .typing c [.cls c]

/-- The alias of a class to itself equals every annotation of the class. -/
theorem identityEqual_selfAlias (c : Class) (metadata : List TypeHint) :
    identityEqual (selfAlias c) (.annotated (.cls c) metadata) = true := by
  simp [selfAlias, identityEqual, denotesSame, isHashable, equals, isTargetAlias]

/-- The alias of a class to itself is the same registry key as the annotation of the class with
itself only. -/
theorem identical_selfAlias (c : Class) (metadata : List TypeHint) :
    identical (selfAlias c) (.annotated (.cls c) metadata) = isOnly c metadata := by
  simp [selfAlias, identical, isHashable, same]

/-- A hint that may be a key of a registry: it can be hashed and stands under no annotation. -/
def IsKey (t : TypeHint) : Prop := t.stripAnnotated = t ∧ t.unhashable? = Option.none

/-- No hint of the stock equals a key of the stock without being the same registry key. -/
def Unambiguous (stock : Set TypeHint) : Prop :=
  ∀ k ∈ stock, k.IsKey → ∀ t ∈ stock, t.unhashable? = Option.none →
    k.identityEqual t = true → k.identical t = true

/-- A stock of hints of which none holds an alias of a class to itself is unambiguous. -/
theorem unambiguous_of_not_holdsSelfAlias {stock : Set TypeHint}
    (h : ∀ t ∈ stock, t.holdsSelfAlias = false) : Unambiguous stock := by
  intro k hk hkey t ht hhash
  exact identical_of_identityEqual hkey.2 hhash (h k hk) (h t ht)

/-- A stock that holds the alias of a class to itself and an annotation of the class with anything
else is ambiguous. -/
theorem not_unambiguous_of_selfAlias {stock : Set TypeHint} {c : Class} {metadata : List TypeHint}
    (halias : selfAlias c ∈ stock) (hannotated : .annotated (.cls c) metadata ∈ stock)
    (hhash : (annotated (.cls c) metadata).unhashable? = Option.none)
    (hmetadata : isOnly c metadata = false) : ¬ Unambiguous stock := by
  intro hstock
  have hkey : (selfAlias c).IsKey := ⟨rfl, rfl⟩
  have hsame := hstock _ halias hkey _ hannotated hhash (identityEqual_selfAlias c metadata)
  rw [identical_selfAlias, hmetadata] at hsame
  cases hsame

end SchemaLink.TypeHint
