import SchemaLink.Hint.Equality

/-!
# Keys up to sameness

Two hints that are the same key have the same outermost part, apart from an alias of a class to
itself and the annotation of that class with itself. The parts inside are again compared as keys,
so that an induction on the first hint shows that being the same key is an equivalence. A registry
may therefore be read as a map whose keys are classes of hints.
-/

namespace SchemaLink

/-- Constants that are equal and of one kind form chains. -/
theorem Value.sameKind_trans {u v w : Value} (huv : u.sameKind v = true)
    (hvw : v.sameKind w = true) : u.sameKind w = true := by
  simp only [Value.sameKind, Bool.and_eq_true, decide_eq_true_eq] at *
  exact ⟨huv.1.trans hvw.1, Value.same_trans huv.2 hvw.2⟩

namespace TypeHint

/-- How two hints come to be the same key, by what their parts are. -/
inductive SameParts : TypeHint → TypeHint → Prop where
  | value {v w : Value} (h : v.same w = true) : SameParts (.value v) (.value w)
  | cls (c : Class) : SameParts (.cls c) (.cls c)
  | forward (n : String) : SameParts (.forward n) (.forward n)
  | typeVar (l m n : String) : SameParts (.typeVar l m) (.typeVar l n)
  | newType (l m n : String) (t u : TypeHint) : SameParts (.newType l m t) (.newType l n u)
  | object (l : String) (m n : Option String) (v w : String) :
      SameParts (.object l m v) (.object l n w)
  | form (n : String) : SameParts (.form n) (.form n)
  | formAlias (n : String) {xs ys : List TypeHint} (h : sameList xs ys = true) :
      SameParts (.formAlias n xs) (.formAlias n ys)
  | bare (c : Class) : SameParts (.bare c) (.bare c)
  | generic (f : AliasFlavour) (c : Class) {xs ys : List TypeHint} (h : sameList xs ys = true) :
      SameParts (.generic f c xs) (.generic f c ys)
  | literal {xs ys : List Value} (h : sameLiterals xs ys = true) :
      SameParts (.literal xs) (.literal ys)
  | union (f g : UnionFlavour) {xs ys : List TypeHint}
      (hxs : ∀ x ∈ xs, ∃ y ∈ ys, same x y = true) (hys : ∀ y ∈ ys, ∃ x ∈ xs, same x y = true) :
      SameParts (.union f xs) (.union g ys)
  | annotated {t u : TypeHint} {xs ys : List TypeHint} (ht : same t u = true)
      (h : sameList xs ys = true) : SameParts (.annotated t xs) (.annotated u ys)
  /-- An alias of a class to itself is the annotation of the class with itself. -/
  | aliasAnnotated (c : Class) :
      SameParts (.generic .typing c [.cls c]) (.annotated (.cls c) [.cls c])
  | annotatedAlias (c : Class) :
      SameParts (.annotated (.cls c) [.cls c]) (.generic .typing c [.cls c])
  | list (j k : Nat) {xs ys : List TypeHint} (h : sameList xs ys = true) :
      SameParts (.list j xs) (.list k ys)
  | tuple {xs ys : List TypeHint} (h : sameList xs ys = true) :
      SameParts (.tuple xs) (.tuple ys)
  | dict (j k : Nat) (keys : List String) {xs ys : List TypeHint} (h : sameList xs ys = true) :
      SameParts (.dict j keys xs) (.dict k keys ys)

/-- Only the class itself is recognised as that class. -/
@[simp] theorem isClass_iff {c : Class} {t : TypeHint} : isClass c t = true ↔ t = .cls c := by
  cases t <;> simp [isClass, eq_comm]

/-- Only the list of the class itself is recognised as holding just that class. -/
@[simp] theorem isOnly_iff {c : Class} {ts : List TypeHint} :
    isOnly c ts = true ↔ ts = [.cls c] := by
  match ts with
  | [] => simp [isOnly]
  | [t] => simp [isOnly]
  | _ :: _ :: _ => simp [isOnly]

/-- The members of one list are found among those of another. -/
theorem allAmong_iff {xs ys : List TypeHint} :
    allAmong xs ys = true ↔ ∀ x ∈ xs, ∃ y ∈ ys, same x y = true := by
  induction xs with
  | nil => simp [allAmong]
  | cons x xs ih => simp [allAmong, ih]

/-- A hint is found among the members of a list. -/
theorem anySame_iff {xs : List TypeHint} {y : TypeHint} :
    anySame xs y = true ↔ ∃ x ∈ xs, same x y = true := by
  induction xs with
  | nil => simp [anySame]
  | cons x xs ih => simp [anySame, ih]

/-- Hints that are the same key have the same parts. -/
theorem SameParts.of_same {t u : TypeHint} (h : same t u = true) : SameParts t u := by
  unfold same at h
  split at h
  case h_1 => exact .value h
  case h_2 => obtain rfl := of_decide_eq_true h; exact .cls _
  case h_3 => obtain rfl := of_decide_eq_true h; exact .forward _
  case h_4 => obtain rfl := of_decide_eq_true h; exact .typeVar _ _ _
  case h_5 => obtain rfl := of_decide_eq_true h; exact .newType _ _ _ _ _
  case h_6 => obtain rfl := of_decide_eq_true h; exact .object _ _ _ _ _
  case h_7 => obtain rfl := of_decide_eq_true h; exact .form _
  case h_8 =>
    simp only [Bool.and_eq_true, decide_eq_true_eq] at h
    obtain ⟨rfl, h⟩ := h
    exact .formAlias _ h
  case h_9 => obtain rfl := of_decide_eq_true h; exact .bare _
  case h_10 =>
    simp only [Bool.and_eq_true, decide_eq_true_eq] at h
    obtain ⟨⟨rfl, rfl⟩, h⟩ := h
    exact .generic _ _ h
  case h_11 => exact .literal h
  case h_12 =>
    simp only [Bool.and_eq_true, List.all_eq_true, allAmong_iff, anySame_iff] at h
    exact .union _ _ h.1 h.2
  case h_13 =>
    simp only [Bool.and_eq_true] at h
    exact .annotated h.1 h.2
  case h_14 =>
    simp only [Bool.and_eq_true, isOnly_iff, isClass_iff] at h
    obtain ⟨⟨rfl, rfl⟩, rfl⟩ := h
    exact .aliasAnnotated _
  case h_15 =>
    simp only [Bool.and_eq_true, isOnly_iff, isClass_iff] at h
    obtain ⟨⟨rfl, rfl⟩, rfl⟩ := h
    exact .annotatedAlias _
  case h_16 => exact .list _ _ h
  case h_17 => exact .tuple h
  case h_18 =>
    simp only [Bool.and_eq_true, decide_eq_true_eq] at h
    obtain ⟨rfl, h⟩ := h
    exact .dict _ _ _ h
  case h_19 => cases h

/-- Hints with the same parts are the same key. -/
theorem SameParts.same {t u : TypeHint} (h : SameParts t u) : same t u = true := by
  cases h with
  | union f g hxs hys =>
    simp only [TypeHint.same, Bool.and_eq_true, List.all_eq_true, allAmong_iff, anySame_iff]
    exact ⟨hxs, hys⟩
  | _ => simp_all [TypeHint.same]

/-- Lists that hold the same hints one by one do so in either direction, if their hints do. -/
theorem sameList_symm_of {xs ys : List TypeHint}
    (ih : ∀ x ∈ xs, ∀ {y}, same x y = true → same y x = true) (h : sameList xs ys = true) :
    sameList ys xs = true := by
  induction xs generalizing ys with
  | nil =>
    cases ys with
    | nil => exact h
    | cons y ys => simp [sameList] at h
  | cons x xs hxs =>
    cases ys with
    | nil => simp [sameList] at h
    | cons y ys =>
      simp only [sameList, Bool.and_eq_true] at h ⊢
      exact ⟨ih x (by simp) h.1, hxs (fun a ha => ih a (by simp [ha])) h.2⟩

/-- Lists that hold the same hints one by one form chains, if their hints do. -/
theorem sameList_trans_of {xs ys zs : List TypeHint}
    (ih : ∀ x ∈ xs, ∀ {y z}, same x y = true → same y z = true → same x z = true)
    (hxy : sameList xs ys = true) (hyz : sameList ys zs = true) : sameList xs zs = true := by
  induction xs generalizing ys zs with
  | nil =>
    cases ys with
    | nil => exact hyz
    | cons y ys => simp [sameList] at hxy
  | cons x xs hxs =>
    cases ys with
    | nil => simp [sameList] at hxy
    | cons y ys =>
      cases zs with
      | nil => simp [sameList] at hyz
      | cons z zs =>
        simp only [sameList, Bool.and_eq_true] at hxy hyz ⊢
        exact ⟨ih x (by simp) hxy.1 hyz.1,
          hxs (fun a ha => ih a (by simp [ha])) hxy.2 hyz.2⟩

/-- A list holds the same hints as itself, if its hints are the same as themselves. -/
theorem sameList_self_of {xs : List TypeHint} (ih : ∀ x ∈ xs, same x x = true) :
    sameList xs xs = true := by
  induction xs with
  | nil => simp [sameList]
  | cons x xs hxs => simp [sameList, ih x (by simp), hxs fun a ha => ih a (by simp [ha])]

/-- Literals that hold the same constants form chains. -/
theorem sameLiterals_trans {us vs ws : List Value} (huv : sameLiterals us vs = true)
    (hvw : sameLiterals vs ws = true) : sameLiterals us ws = true := by
  simp only [sameLiterals, Bool.and_eq_true, List.all_eq_true, List.any_eq_true] at *
  constructor
  · intro u hu
    obtain ⟨v, hv, huv'⟩ := huv.1 u hu
    obtain ⟨w, hw, hvw'⟩ := hvw.1 v hv
    exact ⟨w, hw, Value.sameKind_trans huv' hvw'⟩
  · intro w hw
    obtain ⟨v, hv, hwv⟩ := hvw.2 w hw
    obtain ⟨u, hu, hvu⟩ := huv.2 v hv
    exact ⟨u, hu, Value.sameKind_trans hwv hvu⟩

/-- Only the class itself is the same key as a class. -/
theorem same_cls_right {t : TypeHint} {c : Class} (h : same t (.cls c) = true) : t = .cls c := by
  cases SameParts.of_same h
  rfl

/-- Only the class itself is the same key as a class. -/
theorem same_cls_left {t : TypeHint} {c : Class} (h : same (.cls c) t = true) : t = .cls c := by
  cases SameParts.of_same h
  rfl

/-- Only the list of a class itself holds the same hints as that list. -/
theorem sameList_cls_left {ts : List TypeHint} {c : Class} (h : sameList [.cls c] ts = true) :
    ts = [.cls c] := by
  match ts with
  | [] => simp [sameList] at h
  | [t] =>
    simp only [sameList, Bool.and_true] at h
    rw [same_cls_left h]
  | _ :: _ :: _ => simp [sameList] at h

/-- Only the list of a class itself holds the same hints as that list. -/
theorem sameList_cls_right {ts : List TypeHint} {c : Class} (h : sameList ts [.cls c] = true) :
    ts = [.cls c] := by
  match ts with
  | [] => simp [sameList] at h
  | [t] =>
    simp only [sameList, Bool.and_true] at h
    rw [same_cls_right h]
  | _ :: _ :: _ => simp [sameList] at h

/-- Every hint is the same key as itself. -/
theorem same_refl (t : TypeHint) : same t t = true := by
  induction t using TypeHint.ind with
  | value v => exact (SameParts.value v.same_self).same
  | formAlias n args ih => exact (SameParts.formAlias n (sameList_self_of ih)).same
  | generic f c args ih => exact (SameParts.generic f c (sameList_self_of ih)).same
  | literal items =>
    refine (SameParts.literal ?_).same
    simp only [sameLiterals, Bool.and_eq_true, List.all_eq_true, List.any_eq_true]
    exact ⟨fun v hv => ⟨v, hv, v.sameKind_self⟩, fun v hv => ⟨v, hv, v.sameKind_self⟩⟩
  | union f members ih =>
    exact (SameParts.union f f (fun m hm => ⟨m, hm, ih m hm⟩) fun m hm => ⟨m, hm, ih m hm⟩).same
  | annotated t ms iht ih => exact (SameParts.annotated iht (sameList_self_of ih)).same
  | list k items ih => exact (SameParts.list k k (sameList_self_of ih)).same
  | tuple items ih => exact (SameParts.tuple (sameList_self_of ih)).same
  | dict k keys values ih => exact (SameParts.dict k k keys (sameList_self_of ih)).same
  | _ => simp [same]

/-- Being the same key goes both ways. -/
theorem same_symm {t u : TypeHint} (h : same t u = true) : same u t = true := by
  induction t using TypeHint.ind generalizing u with
  | value v =>
    cases SameParts.of_same h with
    | value hv => exact (SameParts.value ((Value.same_symm _ _).trans hv)).same
  | formAlias n args ih =>
    cases SameParts.of_same h with
    | formAlias _ hl => exact (SameParts.formAlias n (sameList_symm_of ih hl)).same
  | generic f c args ih =>
    cases SameParts.of_same h with
    | generic _ _ hl => exact (SameParts.generic f c (sameList_symm_of ih hl)).same
    | aliasAnnotated => exact (SameParts.annotatedAlias c).same
  | literal items =>
    cases SameParts.of_same h with
    | literal hl =>
      refine (SameParts.literal ?_).same
      simpa only [sameLiterals, Bool.and_comm] using hl
  | union f members ih =>
    cases SameParts.of_same h with
    | union _ g hxs hys =>
      refine (SameParts.union g f (fun y hy => ?_) fun x hx => ?_).same
      · obtain ⟨x, hx, hxy⟩ := hys y hy
        exact ⟨x, hx, ih x hx hxy⟩
      · obtain ⟨y, hy, hxy⟩ := hxs x hx
        exact ⟨y, hy, ih x hx hxy⟩
  | annotated t ms iht ih =>
    cases SameParts.of_same h with
    | annotated ht hl =>
      exact (SameParts.annotated (iht ht) (sameList_symm_of ih hl)).same
    | annotatedAlias c => exact (SameParts.aliasAnnotated c).same
  | list k items ih =>
    cases SameParts.of_same h with
    | list _ j hl => exact (SameParts.list j k (sameList_symm_of ih hl)).same
  | tuple items ih =>
    cases SameParts.of_same h with
    | tuple hl => exact (SameParts.tuple (sameList_symm_of ih hl)).same
  | dict k keys values ih =>
    cases SameParts.of_same h with
    | dict _ j _ hl => exact (SameParts.dict j k keys (sameList_symm_of ih hl)).same
  | _ =>
    cases SameParts.of_same h
    simp [same]

/-- What is the same key as a hint that is the same key as a third one is the same key as the
third. -/
theorem same_trans {t u v : TypeHint} (htu : same t u = true) (huv : same u v = true) :
    same t v = true := by
  induction t using TypeHint.ind generalizing u v with
  | value w =>
    cases SameParts.of_same htu with
    | value h =>
      cases SameParts.of_same huv with
      | value h' => exact (SameParts.value (Value.same_trans h h')).same
  | formAlias n args ih =>
    cases SameParts.of_same htu with
    | formAlias _ h =>
      cases SameParts.of_same huv with
      | formAlias _ h' => exact (SameParts.formAlias n (sameList_trans_of ih h h')).same
  | generic f c args ih =>
    cases SameParts.of_same htu with
    | generic _ _ h =>
      cases SameParts.of_same huv with
      | generic _ _ h' => exact (SameParts.generic f c (sameList_trans_of ih h h')).same
      | aliasAnnotated =>
        obtain rfl := sameList_cls_right h
        exact huv
    | aliasAnnotated =>
      cases SameParts.of_same huv with
      | annotated ht hm =>
        obtain rfl := same_cls_left ht
        obtain rfl := sameList_cls_left hm
        exact htu
      | annotatedAlias => exact same_refl _
  | literal items =>
    cases SameParts.of_same htu with
    | literal h =>
      cases SameParts.of_same huv with
      | literal h' => exact (SameParts.literal (sameLiterals_trans h h')).same
  | union f members ih =>
    cases SameParts.of_same htu with
    | union _ g hxs hys =>
      cases SameParts.of_same huv with
      | union _ k hxs' hys' =>
        refine (SameParts.union f k (fun x hx => ?_) fun z hz => ?_).same
        · obtain ⟨y, hy, hxy⟩ := hxs x hx
          obtain ⟨z, hz, hyz⟩ := hxs' y hy
          exact ⟨z, hz, ih x hx hxy hyz⟩
        · obtain ⟨y, hy, hyz⟩ := hys' z hz
          obtain ⟨x, hx, hxy⟩ := hys y hy
          exact ⟨x, hx, ih x hx hxy hyz⟩
  | annotated t ms iht ih =>
    cases SameParts.of_same htu with
    | annotated ht hm =>
      cases SameParts.of_same huv with
      | annotated ht' hm' =>
        exact (SameParts.annotated (iht ht ht') (sameList_trans_of ih hm hm')).same
      | annotatedAlias =>
        obtain rfl := same_cls_right ht
        obtain rfl := sameList_cls_right hm
        exact huv
    | annotatedAlias =>
      cases SameParts.of_same huv with
      | generic _ _ h =>
        obtain rfl := sameList_cls_left h
        exact htu
      | aliasAnnotated => exact same_refl _
  | list k items ih =>
    cases SameParts.of_same htu with
    | list _ _ h =>
      cases SameParts.of_same huv with
      | list _ j h' => exact (SameParts.list k j (sameList_trans_of ih h h')).same
  | tuple items ih =>
    cases SameParts.of_same htu with
    | tuple h =>
      cases SameParts.of_same huv with
      | tuple h' => exact (SameParts.tuple (sameList_trans_of ih h h')).same
  | dict k keys values ih =>
    cases SameParts.of_same htu with
    | dict _ _ _ h =>
      cases SameParts.of_same huv with
      | dict _ j _ h' => exact (SameParts.dict k j keys (sameList_trans_of ih h h')).same
  | _ =>
    cases SameParts.of_same htu
    cases SameParts.of_same huv
    simp [same]

/-- A raw list is only the same registry key as itself, whatever it holds. -/
theorem identical_list_iff {j : Nat} {xs : List TypeHint} {u : TypeHint} :
    identical (.list j xs) u = true ↔ ∃ ys, u = .list j ys := by
  cases u <;> simp [identical, isHashable, eq_comm]

/-- A raw mapping is only the same registry key as itself, whatever it holds. -/
theorem identical_dict_iff {j : Nat} {keys : List String} {xs : List TypeHint} {u : TypeHint} :
    identical (.dict j keys xs) u = true ↔ ∃ ls ys, u = .dict j ls ys := by
  cases u <;> simp [identical, isHashable, eq_comm]

/-- Every other hint is the same registry key as those hints that are the same key as it. -/
theorem identical_iff_of_isHashable {t u : TypeHint} (h : t.isHashable = true) :
    identical t u = true ↔ u.isHashable = true ∧ same t u = true := by
  cases t <;> simp_all [identical, isHashable]

/-- A hint that cannot be hashed on the outside is a raw list or a raw mapping. -/
theorem eq_list_or_dict_of_not_isHashable {t : TypeHint} (h : t.isHashable = false) :
    (∃ j xs, t = .list j xs) ∨ ∃ j keys xs, t = .dict j keys xs := by
  cases t with
  | list j xs => exact .inl ⟨j, xs, rfl⟩
  | dict j keys xs => exact .inr ⟨j, keys, xs, rfl⟩
  | _ => cases h

/-- Every hint is the same registry key as itself. -/
theorem identical_refl (t : TypeHint) : identical t t = true := by
  cases h : t.isHashable with
  | true => exact (identical_iff_of_isHashable h).mpr ⟨h, same_refl t⟩
  | false =>
    obtain ⟨j, xs, rfl⟩ | ⟨j, keys, xs, rfl⟩ := eq_list_or_dict_of_not_isHashable h
    · exact identical_list_iff.mpr ⟨xs, rfl⟩
    · exact identical_dict_iff.mpr ⟨keys, xs, rfl⟩

/-- Being the same registry key goes both ways. -/
theorem identical_symm {t u : TypeHint} (h : identical t u = true) : identical u t = true := by
  cases ht : t.isHashable with
  | true =>
    obtain ⟨hu, hsame⟩ := (identical_iff_of_isHashable ht).mp h
    exact (identical_iff_of_isHashable hu).mpr ⟨ht, same_symm hsame⟩
  | false =>
    obtain ⟨j, xs, rfl⟩ | ⟨j, keys, xs, rfl⟩ := eq_list_or_dict_of_not_isHashable ht
    · obtain ⟨ys, rfl⟩ := identical_list_iff.mp h
      exact identical_list_iff.mpr ⟨xs, rfl⟩
    · obtain ⟨ls, ys, rfl⟩ := identical_dict_iff.mp h
      exact identical_dict_iff.mpr ⟨keys, xs, rfl⟩

/-- What is the same registry key as a hint that is the same registry key as a third one is the
same registry key as the third. -/
theorem identical_trans {t u v : TypeHint} (htu : identical t u = true)
    (huv : identical u v = true) : identical t v = true := by
  cases ht : t.isHashable with
  | true =>
    obtain ⟨hu, hsame⟩ := (identical_iff_of_isHashable ht).mp htu
    obtain ⟨hv, hsame'⟩ := (identical_iff_of_isHashable hu).mp huv
    exact (identical_iff_of_isHashable ht).mpr ⟨hv, same_trans hsame hsame'⟩
  | false =>
    obtain ⟨j, xs, rfl⟩ | ⟨j, keys, xs, rfl⟩ := eq_list_or_dict_of_not_isHashable ht
    · obtain ⟨ys, rfl⟩ := identical_list_iff.mp htu
      obtain ⟨zs, rfl⟩ := identical_list_iff.mp huv
      exact identical_list_iff.mpr ⟨zs, rfl⟩
    · obtain ⟨ls, ys, rfl⟩ := identical_dict_iff.mp htu
      obtain ⟨ms, zs, rfl⟩ := identical_dict_iff.mp huv
      exact identical_dict_iff.mpr ⟨ms, zs, rfl⟩

/-- Of two hints that are the same registry key, either both or neither are that of a third. -/
theorem identical_congr_left {t u : TypeHint} (h : identical t u = true) (v : TypeHint) :
    identical t v = identical u v := by
  rw [Bool.eq_iff_iff]
  exact ⟨identical_trans (identical_symm h), identical_trans h⟩

end TypeHint

end SchemaLink
