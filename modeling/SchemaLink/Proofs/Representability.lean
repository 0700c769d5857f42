import SchemaLink.Proofs.SingleEntry
import SchemaLink.Proofs.SpellingVariants

/-!
# What decides representability

Whether a hint is representable is decided at its bottom: the leaf or the name that is left when
every wrapper and every annotation around it is taken off. The bottom is representable as a name, as
a protocol, by a link, or by its class. Wrappers therefore do not matter, a registry only adds to
what is representable without one, and links only add to that. A single link adds the hints whose
bottom equals its key, and no others.
-/

namespace SchemaLink

namespace TypeHint

/-- The leaf or the name below all wrappers and annotations, as it is written. -/
def bottom (t : TypeHint) : TypeHint := t.target.stripAnnotated

/-- A hint with wrappers and annotations around it, each in any of the forms in which it may be
written. -/
inductive WrappedOf (t : TypeHint) : TypeHint → Prop where
  | itself : WrappedOf t t
  | list (way : ListForm) {u : TypeHint} (h : WrappedOf t u) : WrappedOf t (way.write u)
  | optional (way : OptionalForm) {u : TypeHint} (h : WrappedOf t u) : WrappedOf t (way.write u)
  | reference {u : TypeHint} (h : WrappedOf t u) : WrappedOf t (reference u.asType)
  | annotated (metadata : List TypeHint) {u : TypeHint} (h : WrappedOf t u) :
      WrappedOf t (annotate u metadata)

section Bottom

variable {t : TypeHint}

/-- The destination of a hint is its bottom, with a text as the forward reference that it stands
for. -/
theorem destination_eq_asForward_bottom (t : TypeHint) : t.destination = t.bottom.asForward := rfl

/-- The bottom of a hint is its destination, unless it is a name. -/
theorem bottom_cases (t : TypeHint) :
    (t.bottom.classify = Option.none ∧ t.bottom = t.destination) ∨ t.bottom.isName = true := by
  cases hname : t.bottom.isName with
  | true => exact .inr rfl
  | false =>
    have hbottom : t.bottom = t.destination := by
      rw [destination_eq_asForward_bottom]
      unfold asForward
      split
      case h_1 s hs => rw [hs] at hname; cases hname
      case h_2 => rfl
    refine .inl ⟨?_, hbottom⟩
    rcases destination_cases t with hleaf | hforward
    · rw [hbottom, hleaf]
    · rw [← hbottom, hname] at hforward
      cases hforward

/-- A hint is representable if its bottom is. -/
theorem isRepresentable_bottom (registry : Option Registry) (t : TypeHint) :
    t.isRepresentable registry = t.bottom.isRepresentable registry := by
  rw [isRepresentable_destination]
  rcases bottom_cases t with ⟨-, hbottom⟩ | hname
  · rw [hbottom]
  · rw [destination_eq_asForward_bottom, isRepresentable_of_isName _ (isName_asForward hname),
      isRepresentable_of_isName _ hname]

/-- No annotation stands around a bottom. -/
theorem stripAnnotated_bottom (t : TypeHint) : t.bottom.stripAnnotated = t.bottom :=
  stripAnnotated_stripAnnotated t.target

/-- Without a registry, a bottom is representable as a name, as a protocol, or by its class. -/
theorem isRepresentable_none_bottom (t : TypeHint) : t.bottom.isRepresentable Option.none =
    .ok (t.bottom.isName || t.bottom.isProtocol || t.bottom.isRepresentableLeaf) := by
  rcases bottom_cases t with ⟨hleaf, -⟩ | hname
  · rw [isRepresentable_of_leaf _ hleaf, isName_of_leaf hleaf, stripAnnotated_bottom]
    cases t.bottom.isProtocol <;> rfl
  · rw [isRepresentable_of_isName _ hname, hname]
    rfl

/-- With a registry, a hint with a hashable bottom is representable if its bottom is a name or a
protocol, is linked, or is representable without the registry. -/
theorem isRepresentable_iff_bottom (r : Registry) (h : t.bottom.unhashable? = Option.none) :
    ∃ answer, t.isRepresentable (some r) = .ok answer ∧
      (answer = true ↔ t.bottom.isName = true ∨ t.bottom.isProtocol = true ∨
        r.contains t.bottom = .ok true ∨ t.bottom.isRepresentable Option.none = .ok true) := by
  rcases bottom_cases t with ⟨hleaf, hbottom⟩ | hname
  · have hcontains : r.contains t.bottom = .ok (r.get? t.bottom).isSome := by
      rw [Registry.contains, Registry.lookup, h]
      rfl
    refine ⟨_, by rw [isRepresentable_eq, ← hbottom, h], ?_⟩
    simp only [isRepresentable_none_bottom, hcontains, Except.ok.injEq, Bool.or_eq_true]
    grind
  · exact ⟨true, by rw [isRepresentable_bottom, isRepresentable_of_isName _ hname], by simp [hname]⟩

/-- A leaf that is not linked is representable as a protocol or by its class. -/
theorem isRepresentable_of_unlinked {registry : Option Registry}
    (hleaf : t.classify = Option.none)
    (hfree : t.stripAnnotated.isLinked registry = .ok false) :
    t.isRepresentable registry = .ok (t.isProtocol || t.stripAnnotated.isRepresentableLeaf) := by
  rw [isRepresentable_of_leaf _ hleaf, hfree]
  cases t.isProtocol <;> rfl

end Bottom

/-- What wrappers leave of the hint inside: it leads to the same place, it is not the absence of a
value, and absent values may join it, if it is not their class. -/
structure Holds (t u : TypeHint) : Prop where
  destination_eq : u.destination = t.destination
  ne_none : u ≠ none
  single_or_noneType : u = noneType ∨ ∃ m, m.IsSingle ∧ (u.asType = m ∨ OptionalOf m u.asType)

section Holds

variable {t u : TypeHint}

/-- A hint that no spelling treats in a way of its own holds what it leads to. -/
theorem Holds.of_special (hdestination : u.destination = t.destination)
    (h : u ≠ none ∧ u.isNoneType = false ∧ u.isUnion = false) : Holds t u :=
  ⟨hdestination, h.1, .inr ⟨_, isSingle_asType h.1 h.2.1 h.2.2, .inl rfl⟩⟩

/-- Hints of one outline have one destination. -/
theorem destination_of_outline_eq {o : Outline} (h : u.outline = o) :
    u.destination = o.destination := congrArg Outline.destination h

/-- A hint as a type has the same destination, unless it is the absence of a value. -/
theorem destination_asType (h : u ≠ none) : u.asType.destination = u.destination :=
  destination_of_outline_eq (outline_asType h)

/-- A list holds what its element holds. -/
theorem Holds.list (h : Holds t u) (way : ListForm) : Holds t (way.write u) := by
  have hdestination : (way.write u).destination = u.destination :=
    destination_of_outline_eq (way.outline_write h.ne_none)
  exact .of_special (hdestination.trans h.destination_eq) (way.listOf_write u).special

/-- An optional hint holds what the hint inside holds, which may be optional already. -/
theorem Holds.optional (h : Holds t u) (way : OptionalForm) : Holds t (way.write u) := by
  rcases h.single_or_noneType with rfl | ⟨m, hm, hmember⟩
  · rwa [way.write_noneType]
  · have hoptional := way.optionalOf_write hm hmember
    have hinner : m.destination = u.destination := by
      rcases hmember with rfl | hmember
      · exact destination_asType h.ne_none
      · rw [← destination_asType h.ne_none, destination_of_wrapper (hmember.classify_eq hm),
          destination_stripAnnotated]
    refine ⟨?_, hoptional.special.1, .inr ⟨m, hm, .inr ?_⟩⟩
    · rw [destination_of_wrapper (hoptional.classify_eq hm), destination_stripAnnotated, hinner,
        h.destination_eq]
    · rwa [hoptional.asType_eq]

/-- A reference holds what the hint inside holds. -/
theorem Holds.reference (h : Holds t u) : Holds t (reference u.asType) := by
  have hdestination : (TypeHint.reference u.asType).destination = u.asType.destination :=
    destination_of_outline_eq (outline_reference u.asType)
  refine .of_special ?_ ⟨nofun, rfl, rfl⟩
  rw [hdestination, destination_asType h.ne_none, h.destination_eq]

/-- An annotated hint holds what the hint inside holds. -/
theorem Holds.annotated (h : Holds t u) (metadata : List TypeHint) :
    Holds t (annotate u metadata) := by
  have hdestination : (annotate u metadata).destination = u.destination :=
    destination_of_outline_eq (outline_annotate h.ne_none metadata)
  exact .of_special (hdestination.trans h.destination_eq) (annotate_special u metadata)

/-- Wrappers around a hint that is neither a union nor the absence of a value hold it. -/
theorem WrappedOf.holds (hne : t ≠ none) (hunion : t.isUnion = false) (h : WrappedOf t u) :
    Holds t u := by
  induction h with
  | itself =>
    cases hnone : t.isNoneType with
    | true => exact ⟨rfl, hne, .inl (isNoneType_iff.mp hnone)⟩
    | false => exact .of_special rfl ⟨hne, hnone, hunion⟩
  | list way _ ih => exact ih.list way
  | optional way _ ih => exact ih.optional way
  | reference _ ih => exact ih.reference
  | annotated metadata _ ih => exact ih.annotated metadata

/-- Wrappers do not change whether a hint is representable. -/
theorem WrappedOf.isRepresentable_eq (hne : t ≠ none) (hunion : t.isUnion = false)
    (h : WrappedOf t u) (registry : Option Registry) :
    u.isRepresentable registry = t.isRepresentable registry := by
  rw [isRepresentable_destination, (h.holds hne hunion).destination_eq,
    ← isRepresentable_destination]

end Holds

end TypeHint

open TypeHint hiding none

namespace Registry

variable {r : Registry} {t : TypeHint}

/-- A new registry contains the primitive classes only. -/
theorem contains_new_of_ne (strict : Bool) (h : ∀ k ∈ primitives.map Prod.fst, t ≠ k)
    (hhash : t.unhashable? = none) : (new strict).contains t = .ok false := by
  rw [contains, lookup, hhash]
  refine congrArg Except.ok (Bool.eq_false_iff.mpr fun hsome => ?_)
  obtain ⟨k, hk, hsame⟩ := isSome_get?_iff.mp hsome
  have hclass : ∃ c, k = .cls c := by
    simp only [types, new, primitives, List.map_cons, List.map_nil, List.mem_cons,
      List.not_mem_nil, or_false] at hk
    rcases hk with rfl | rfl | rfl | rfl <;> exact ⟨_, rfl⟩
  obtain ⟨c, rfl⟩ := hclass
  exact h _ hk (same_cls_left ((identical_iff_of_isHashable rfl).mp hsame).2)

/-- Links keep what is representable. -/
theorem isRepresentable_run (h : t.isRepresentable (some r) = .ok true) (calls : List LinkCall) :
    t.isRepresentable (some (r.run calls)) = .ok true := by
  rw [isRepresentable_eq] at h ⊢
  cases hhash : t.destination.unhashable? with
  | some container =>
    rw [hhash] at h
    cases h
  | none =>
    rw [hhash] at h
    simp only [Except.ok.injEq, Bool.or_eq_true] at h ⊢
    rw [isSome_get?_run, Bool.or_eq_true]
    exact h.imp_left (Or.imp_right .inl)

/-- A link makes a hint representable only if its key equals the bottom of the hint. -/
theorem identityEqual_bottom_of_after {call : LinkCall}
    (hbefore : t.isRepresentable (some r) = .ok false)
    (hafter : t.isRepresentable (some (r.after call)) = .ok true) :
    identityEqual call.key t.bottom = true := by
  rcases bottom_cases t with ⟨-, hbottom⟩ | hname
  · by_contra hother
    rw [hbottom] at hother
    have hlookup := r.lookup_after call t.destination (Bool.eq_false_iff.mpr hother)
    rw [isRepresentable_lookup_congr fun _ => hlookup, hbefore] at hafter
    cases hafter
  · rw [isRepresentable_bottom, isRepresentable_of_isName _ hname] at hbefore
    cases hbefore

end Registry

namespace TypeHint

/-- **Representability is decided at the bottom and only grows.** With a registry, a hint with a
hashable bottom is representable exactly if the bottom is a name or a protocol, is linked, or is
representable without the registry. So wrappers around a hint that is neither a union nor the
absence of a value make no difference, what is representable without a registry is so with any, no
run of links takes a representable hint away, and a link adds only hints whose bottom equals its
key. -/
theorem representability_decided_at_bottom (t : TypeHint) :
    (∀ r : Registry, t.bottom.unhashable? = Option.none →
      ∃ answer, t.isRepresentable (some r) = .ok answer ∧
        (answer = true ↔ t.bottom.isName = true ∨ t.bottom.isProtocol = true ∨
          r.contains t.bottom = .ok true ∨ t.bottom.isRepresentable Option.none = .ok true)) ∧
    (t ≠ none → t.isUnion = false → ∀ u, WrappedOf t u → ∀ registry : Option Registry,
      u.isRepresentable registry = t.isRepresentable registry) ∧
    (t.isRepresentable Option.none = .ok true → t.bottom.unhashable? = Option.none →
      ∀ r : Registry, t.isRepresentable (some r) = .ok true) ∧
    (∀ (r : Registry) (calls : List LinkCall), t.isRepresentable (some r) = .ok true →
      t.isRepresentable (some (r.run calls)) = .ok true) ∧
    ∀ (r : Registry) (call : LinkCall), t.isRepresentable (some r) = .ok false →
      t.isRepresentable (some (r.after call)) = .ok true →
        identityEqual call.key t.bottom = true := by
  refine ⟨fun r hhash => isRepresentable_iff_bottom r hhash,
    fun hne hunion u h registry => h.isRepresentable_eq hne hunion registry,
    fun h hhash r => ?_, fun r calls h => Registry.isRepresentable_run h calls,
    fun r call => Registry.identityEqual_bottom_of_after⟩
  obtain ⟨answer, hanswer, hiff⟩ := isRepresentable_iff_bottom r hhash
  rw [isRepresentable_bottom] at h
  rw [hanswer, hiff.mpr (.inr (.inr (.inr h)))]

/-- Integers are representable without a registry and stay so with any links. Decimal numbers are
not representable with a new registry, nor are lists of them, until they are linked under an
annotation. -/
theorem representability_decided_at_bottom_decimal :
    let int : TypeHint := .cls Class.Builtin.int
    let decimal : TypeHint := .cls Class.Builtin.decimal
    let list := (ListForm.subscript Class.Builtin.list (by decide)).write decimal
    let r := Registry.new true
    let call : LinkCall := ⟨.annotated decimal [text "m"], .named (.scalar "Decimal")⟩
    (int.isRepresentable Option.none = .ok true ∧ int.isRepresentable (some r) = .ok true ∧
      int.isRepresentable (some (r.run [call])) = .ok true) ∧
    decimal.isRepresentable (some r) = .ok false ∧ list.isRepresentable (some r) = .ok false ∧
    decimal.isRepresentable (some (r.after call)) = .ok true ∧
    identityEqual call.key decimal.bottom = true := by
  intro int decimal list r call
  have hint : int.bottom = int := congrArg stripAnnotated (target_of_leaf (t := int) rfl)
  have hdecimal : decimal.bottom = decimal :=
    congrArg stripAnnotated (target_of_leaf (t := decimal) rfl)
  obtain ⟨-, -, hgrows, hkept, -⟩ := representability_decided_at_bottom int
  obtain ⟨hdecided, hwrapped, -, -, hlinked⟩ := representability_decided_at_bottom decimal
  have hbare : int.isRepresentable Option.none = .ok true := by
    rw [isRepresentable_of_leaf _ rfl]
    decide
  have hwith : int.isRepresentable (some r) = .ok true := hgrows hbare (by rw [hint]; rfl) r
  have hfree : decimal.isLinked (some r) = .ok false :=
    Registry.contains_new_of_ne true (by simp [Registry.primitives, decimal]; decide) rfl
  have hbefore : decimal.isRepresentable (some r) = .ok false := by
    rw [isRepresentable_of_unlinked (t := decimal) rfl hfree]
    decide
  have hafter : decimal.isRepresentable (some (r.after call)) = .ok true := by
    obtain ⟨answer, hanswer, hiff⟩ := hdecided (r.after call) (by rw [hdecimal]; rfl)
    have hcontains : (r.after call).contains decimal = .ok true :=
      (Registry.contains_eq_true_iff _ _).mpr ⟨_, r.lookup_key_after call rfl⟩
    rw [hanswer, hiff.mpr (.inr (.inr (.inl (by rwa [hdecimal]))))]
  refine ⟨⟨hbare, hwith, hkept r [call] hwith⟩, hbefore, ?_, hafter, hlinked r call hbefore hafter⟩
  rw [hwrapped (by simp [decimal]) rfl list (.list _ .itself), hbefore]

end TypeHint

end SchemaLink
