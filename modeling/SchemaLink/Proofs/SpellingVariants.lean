import SchemaLink.Proofs.DemandOutcome
import SchemaLink.Proofs.HintContext

/-!
# Spelling variants

The same wrapper may be spelled in many ways: a list by any collection of either family, an optional
hint by any union with the absence of a value, and a name as a text, as a forward reference or
inside the marker of references. Variants differ in nothing but such spellings, at any depth. They
have one outline, and therefore resolve alike, are equally representable and come to the same under
every demand, but for the names that errors show. The outlines of the spellings also give that of a
hint in a context: it takes the steps of the layers first, and then its own.
-/

namespace SchemaLink

namespace TypeHint

/-- Whether a hint is a union. -/
def isUnion : TypeHint → Bool
  | .union _ _ => true
  | _ => false

/-- The ways to refer to a name. -/
def namings (name : String) : List TypeHint :=
  [text name, .forward name, reference (.forward name)]

/-- Two hints that differ only in how wrappers are spelled. -/
inductive Variant : TypeHint → TypeHint → Prop where
  /-- Any hint but the absence of a value, of which some spellings make its class. -/
  | same {t : TypeHint} (h : t ≠ none) : Variant t t
  | list (way way' : ListForm) {t u : TypeHint} (h : Variant t u) :
      Variant (way.write t) (way'.write u)
  /-- A union would take the absence of a value up as one more member. -/
  | optional (way way' : OptionalForm) {t u : TypeHint} (h : Variant t u)
      (single : t.isUnion = false) : Variant (way.write t) (way'.write u)
  | annotated (metadata : List TypeHint) {t u : TypeHint} (h : Variant t u) :
      Variant (annotate t metadata) (annotate u metadata)
  | reference {t u : TypeHint} (h : Variant t u) :
      Variant (reference t.asType) (reference u.asType)
  | name (name : String) {t u : TypeHint} (ht : t ∈ namings name) (hu : u ∈ namings name) :
      Variant t u

section Outline

variable {t u wrapped : TypeHint}

/-- Annotations do not change the outline. -/
@[simp] theorem outline_stripAnnotated (t : TypeHint) : t.stripAnnotated.outline = t.outline := by
  rw [outline, outline, isDeferred, isDeferred, steps_stripAnnotated, core_stripAnnotated,
    destination_stripAnnotated]

/-- A leaf leads to itself, but for annotations. -/
theorem outline_of_leaf (h : t.classify = Option.none) :
    t.outline = ⟨[], false, t.stripAnnotated⟩ := by
  rw [outline, steps_of_leaf h, isDeferred_of_leaf h, destination_of_leaf h]

/-- A reference is deferred, and leads where the hint inside leads. -/
theorem outline_of_reference (h : t.classify = some ⟨.reference, wrapped⟩) :
    t.outline = ⟨[], true, wrapped.destination⟩ := by
  rw [outline, steps_of_reference h, isDeferred_of_reference h, destination_of_wrapper h]

/-- The marker of references defers a hint. -/
theorem outline_reference (t : TypeHint) :
    (reference t).outline = ⟨[], true, t.destination⟩ := by
  have hclassify : (reference t).classify = some ⟨.reference, t.stripAnnotated⟩ := rfl
  rw [outline_of_reference hclassify, destination_stripAnnotated]

/-- A name is deferred and leads to itself. -/
theorem outline_of_isName (h : t.isName = true) : t.outline = ⟨[], true, t.asForward⟩ := by
  rw [outline_of_reference (classify_of_isName h), destination_of_isName h]

/-- An optional hint takes one step more than the hint inside. -/
theorem outline_of_optional (h : t.classify = some ⟨.optional, wrapped⟩) :
    t.outline = wrapped.outline.after .optional := by
  rw [outline, isDeferred, steps_of_optional h, core_of_optional h, destination_of_wrapper h]
  rfl

/-- A list takes one step more than its element. -/
theorem outline_of_list (h : t.classify = some ⟨.list, wrapped⟩) :
    t.outline = wrapped.outline.after .list := by
  rw [outline, isDeferred, steps_of_list h, core_of_list h, destination_of_wrapper h]
  rfl

/-- A hint and the same hint as a type have one outline, unless it is the absence of a value. -/
theorem outline_asType (h : t ≠ none) : t.asType.outline = t.outline := by
  rcases t.asType_cases with ⟨rfl, -⟩ | ⟨s, rfl, -⟩ | htype
  · exact absurd rfl h
  · rw [outline_of_isName (t := text s) rfl, outline_of_isName (t := asType (text s)) rfl]
    rfl
  · rw [htype]

/-- Annotations that are put around a hint do not change its outline. -/
theorem outline_annotate (h : t ≠ none) (metadata : List TypeHint) :
    (annotate t metadata).outline = t.outline := by
  rw [← outline_stripAnnotated, (annotate_spec t metadata).2, outline_stripAnnotated,
    outline_asType h]

/-- An optional hint takes one step more than what is written inside, if that is single as a
type. -/
theorem OptionalForm.outline_write (way : OptionalForm) (h : t ≠ none)
    (hm : t.asType.IsSingle) : (way.write t).outline = t.outline.after .optional := by
  have hoptional := way.optionalOf_write hm (.inl rfl)
  rw [outline_of_optional (hoptional.classify_eq hm), outline_stripAnnotated, outline_asType h]

/-- A naming of a name is deferred and leads to the forward reference. -/
theorem outline_of_mem_namings {name : String} (h : t ∈ namings name) :
    t.outline = ⟨[], true, .forward name⟩ := by
  simp only [namings, List.mem_cons, List.not_mem_nil, or_false] at h
  rcases h with rfl | rfl | rfl
  · exact outline_of_isName rfl
  · exact outline_of_isName rfl
  · rw [outline_reference, destination_of_isName rfl]
    rfl

end Outline

/-- All that a spelling may ask of the hint inside. -/
structure Alike (t u : TypeHint) : Prop where
  outline_eq : t.outline = u.outline
  ne_none : t ≠ none ∧ u ≠ none
  isNoneType_eq : t.isNoneType = u.isNoneType
  isUnion_eq : t.isUnion = u.isUnion

section Alike

variable {t u : TypeHint}

/-- An alias is none of the hints that a spelling treats in a way of its own. -/
theorem ListOf.special (h : ListOf t u) : u ≠ none ∧ u.isNoneType = false ∧ u.isUnion = false := by
  obtain ⟨flavour, origin, args, rfl⟩ := h.isAlias
  exact ⟨nofun, rfl, rfl⟩

/-- A list of a hint takes one step more than the hint. -/
theorem ListForm.outline_write (way : ListForm) (h : t ≠ none) :
    (way.write t).outline = t.outline.after .list := by
  obtain ⟨element, hkept, hclassify⟩ := (way.listOf_write t).classify_eq
  have helement : element.outline = t.outline := by
    rcases hkept with rfl | rfl
    · rfl
    · exact outline_asType h
  rw [outline_of_list hclassify, outline_stripAnnotated, helement]

/-- Lists of alike hints are alike. -/
theorem Alike.list (h : Alike t u) (way way' : ListForm) :
    Alike (way.write t) (way'.write u) := by
  obtain ⟨hne, hnone, hunion⟩ := (way.listOf_write t).special
  obtain ⟨hne', hnone', hunion'⟩ := (way'.listOf_write u).special
  refine ⟨?_, ⟨hne, hne'⟩, hnone.trans hnone'.symm, hunion.trans hunion'.symm⟩
  rw [way.outline_write h.ne_none.1, way'.outline_write h.ne_none.2, h.outline_eq]

/-- The class of absent values stays as it is when it is made optional. -/
theorem OptionalForm.write_noneType (way : OptionalForm) : way.write noneType = noneType := by
  have hunion (flavour : UnionFlavour) : mkUnion flavour [noneType, noneType] = noneType := by
    simp [mkUnion, distinct, distinctBeside, isEqual, equals, same]
  rcases way with (_ | _) | (_ | _) <;> exact hunion _

/-- The union of a hint and the class of absent values is a union. -/
theorem OptionalOf.special (h : OptionalOf t u) :
    u ≠ none ∧ u.isNoneType = false ∧ u.isUnion = true := by
  cases h <;> exact ⟨nofun, rfl, rfl⟩

/-- A hint that is neither a union nor the absence of a value, nor the class of absent values, is
single as a type. -/
theorem isSingle_asType (hne : t ≠ none) (hnone : t.isNoneType = false)
    (hunion : t.isUnion = false) : t.asType.IsSingle := by
  rcases t.asType_cases with ⟨rfl, -⟩ | ⟨s, rfl, -⟩ | htype
  · exact absurd rfl hne
  · exact ⟨rfl, rfl⟩
  · rw [htype]
    refine ⟨hnone, ?_⟩
    cases t with
    | union flavour members => cases hunion
    | _ => rfl

/-- Optional hints of alike hints are alike, if the hints inside are no unions. -/
theorem Alike.optional (h : Alike t u) (way way' : OptionalForm) (single : t.isUnion = false) :
    Alike (way.write t) (way'.write u) := by
  obtain ⟨hne, hne'⟩ := h.ne_none
  cases hnone : t.isNoneType with
  | true =>
    obtain rfl := isNoneType_iff.mp hnone
    obtain rfl := isNoneType_iff.mp (h.isNoneType_eq.symm.trans hnone)
    rw [way.write_noneType, way'.write_noneType]
    exact h
  | false =>
    have hm := isSingle_asType hne hnone single
    have hm' := isSingle_asType hne' (h.isNoneType_eq.symm.trans hnone)
      (h.isUnion_eq.symm.trans single)
    have hoptional := way.optionalOf_write hm (.inl rfl)
    have hoptional' := way'.optionalOf_write hm' (.inl rfl)
    obtain ⟨hwritten, hclass, hunion⟩ := hoptional.special
    obtain ⟨hwritten', hclass', hunion'⟩ := hoptional'.special
    refine ⟨?_, ⟨hwritten, hwritten'⟩, hclass.trans hclass'.symm, hunion.trans hunion'.symm⟩
    rw [way.outline_write hne hm, way'.outline_write hne' hm', h.outline_eq]

/-- An annotated hint is none of the hints that a spelling treats in a way of its own. -/
theorem annotate_special (t : TypeHint) (metadata : List TypeHint) :
    annotate t metadata ≠ none ∧ (annotate t metadata).isNoneType = false ∧
      (annotate t metadata).isUnion = false := by
  obtain ⟨⟨target, all, h⟩, -⟩ := annotate_spec t metadata
  rw [h]
  exact ⟨nofun, rfl, rfl⟩

/-- Alike hints are alike under the same annotation. -/
theorem Alike.annotated (h : Alike t u) (metadata : List TypeHint) :
    Alike (annotate t metadata) (annotate u metadata) := by
  obtain ⟨hne, hnone, hunion⟩ := annotate_special t metadata
  obtain ⟨hne', hnone', hunion'⟩ := annotate_special u metadata
  refine ⟨?_, ⟨hne, hne'⟩, hnone.trans hnone'.symm, hunion.trans hunion'.symm⟩
  rw [outline_annotate h.ne_none.1, outline_annotate h.ne_none.2, h.outline_eq]

/-- References to alike hints are alike. -/
theorem Alike.reference (h : Alike t u) : Alike (reference t.asType) (reference u.asType) := by
  have hdestination : t.asType.outline.destination = u.asType.outline.destination := by
    rw [outline_asType h.ne_none.1, outline_asType h.ne_none.2, h.outline_eq]
  refine ⟨?_, ⟨nofun, nofun⟩, rfl, rfl⟩
  rw [outline_reference, outline_reference]
  exact congrArg (Outline.mk [] true) hdestination

/-- Namings of one name are alike. -/
theorem alike_of_mem_namings {name : String} (ht : t ∈ namings name) (hu : u ∈ namings name) :
    Alike t u := by
  have special {t : TypeHint} (h : t ∈ namings name) :
      t ≠ none ∧ t.isNoneType = false ∧ t.isUnion = false := by
    simp only [namings, List.mem_cons, List.not_mem_nil, or_false] at h
    rcases h with rfl | rfl | rfl <;> exact ⟨nofun, rfl, rfl⟩
  refine ⟨?_, ⟨(special ht).1, (special hu).1⟩, ?_, ?_⟩
  · rw [outline_of_mem_namings ht, outline_of_mem_namings hu]
  · rw [(special ht).2.1, (special hu).2.1]
  · rw [(special ht).2.2, (special hu).2.2]

/-- Variants are alike. -/
theorem Variant.alike (h : Variant t u) : Alike t u := by
  induction h with
  | same hne => exact ⟨rfl, ⟨hne, hne⟩, rfl, rfl⟩
  | list way way' _ ih => exact ih.list way way'
  | optional way way' _ single ih => exact ih.optional way way' single
  | annotated metadata _ ih => exact ih.annotated metadata
  | reference _ ih => exact ih.reference
  | name _ ht hu => exact alike_of_mem_namings ht hu

end Alike

/-- Whether no optional layer of the context stands directly around a union, once the hint is filled
in. -/
def fits (t : TypeHint) : List Layer → Bool
  | [] => true
  | .optional _ :: rest => !(fill rest t).isUnion && fits t rest
  | .list _ :: rest => fits t rest
  | .annotated _ :: rest => fits t rest

/-- A hint that is filled into a context leads over the steps of the layers and then over its own,
to where it led before, and does not become the absence of a type. -/
theorem outline_fill {t : TypeHint} (ht : t.isVoid = false) {context : List Layer}
    (hfits : fits t context = true) :
    (fill context t).outline = ⟨contextModifiers context ++ t.steps, t.isDeferred, t.destination⟩ ∧
      (fill context t).isVoid = false := by
  induction context with
  | nil => exact ⟨rfl, ht⟩
  | cons layer rest ih =>
    cases layer with
    | list way =>
      obtain ⟨houtline, hvoid⟩ := ih hfits
      obtain ⟨hne, hnone, -⟩ := (way.listOf_write (fill rest t)).special
      refine ⟨?_, isVoid_eq_false_iff.mpr ⟨hne, hnone⟩⟩
      change (way.write (fill rest t)).outline = _
      rw [way.outline_write (isVoid_eq_false_iff.mp hvoid).1, houtline]
      rfl
    | optional way =>
      rw [fits, Bool.and_eq_true, Bool.not_eq_true'] at hfits
      obtain ⟨houtline, hvoid⟩ := ih hfits.2
      obtain ⟨hne, hnone⟩ := isVoid_eq_false_iff.mp hvoid
      have hm := isSingle_asType hne hnone hfits.1
      obtain ⟨hne', hnone', -⟩ := (way.optionalOf_write hm (.inl rfl)).special
      refine ⟨?_, isVoid_eq_false_iff.mpr ⟨hne', hnone'⟩⟩
      change (way.write (fill rest t)).outline = _
      rw [way.outline_write hne hm, houtline]
      rfl
    | annotated metadata =>
      obtain ⟨houtline, hvoid⟩ := ih hfits
      obtain ⟨hne, hnone, -⟩ := annotate_special (fill rest t) metadata
      refine ⟨?_, isVoid_eq_false_iff.mpr ⟨hne, hnone⟩⟩
      change (annotate (fill rest t) metadata).outline = _
      rw [outline_annotate (isVoid_eq_false_iff.mp hvoid).1, houtline]
      rfl

end TypeHint

open TypeHint hiding none

namespace Session

/-- **Spelling does not matter.** With the links of any registry, variants resolve to the same
schema type, or to nothing, or fail with the same kind of error. They are equally representable, and
every demand selects the same schema type for both or fails with the same kind of error. -/
theorem answers_eq_of_variant {t u : TypeHint} (h : Variant t u) :
    (∀ r : Registry, (r.resolve t).mapError ResolveError.kindName =
      (r.resolve u).mapError ResolveError.kindName) ∧
    (∀ registry : Option Registry, t.isRepresentable registry = u.isRepresentable registry) ∧
    ∀ (demand : Demand) (s : Session), (access demand t s).1.mapError AccessError.kindName =
      (access demand u s).1.mapError AccessError.kindName := by
  have houtline := h.alike.outline_eq
  refine ⟨fun r => r.resolve_congr houtline,
    fun registry => isRepresentable_congr registry houtline, fun demand s => ?_⟩
  rw [(access_reads demand s.registry t s rfl).1, (access_reads demand s.registry u s rfl).1]
  exact demand.outcome_congr s.registry houtline

/-- An optional list of a deferred name, with the text of the name in an alias of lists, and with a
marked reference in an alias of sequences, the absence of a value in front. -/
theorem answers_eq_of_variant_names :
    let list := ListForm.subscript Class.Builtin.list (by decide)
    let sequence := ListForm.apply "Sequence" Class.Builtin.sequence (by decide) (by decide)
    let t := (OptionalForm.typing false).write (list.write (text "Node"))
    let u := (OptionalForm.operator true).write (sequence.write (reference (.forward "Node")))
    Variant t u ∧ t ≠ u ∧
      ((new true 0).registry.resolve u).mapError ResolveError.kindName =
        .ok (some (.list (.nonNull (.deferred "Node")))) ∧
      (access .named u (new true 0)).1.mapError AccessError.kindName = .ok (.deferred "Node") := by
  intro list sequence t u
  have hname : Variant (text "Node") (reference (.forward "Node")) :=
    .name "Node" (by simp [namings]) (by simp [namings])
  have hvariant : Variant t u := .optional _ _ (.list _ _ hname) rfl
  obtain ⟨hne, hnone, hunion⟩ := (list.listOf_write (text "Node")).special
  have hm := isSingle_asType hne hnone hunion
  have hoptional := (OptionalForm.typing false).optionalOf_write hm (.inl rfl)
  have htext : text "Node" ≠ .none := nofun
  have houtline : t.outline = ⟨[.optional, .list], true, .forward "Node"⟩ := by
    rw [outline_of_optional (hoptional.classify_eq hm), outline_stripAnnotated, outline_asType hne,
      list.outline_write htext, outline_of_isName rfl]
    rfl
  have hresolve : (new true 0).registry.resolve t =
      .ok (some (.list (.nonNull (.deferred "Node")))) := by
    obtain ⟨hsteps, hdeferred, hdestination⟩ := Outline.mk.inj houtline
    rw [Registry.resolve_eq_settle, Registry.coreEntry_core, hdeferred, hdestination, displayName]
    simp [Except.bind, Registry.settle, listDepth, endsOptional, hsteps, SchemaType.isNullable]
    rfl
  have hnamed : (access .named t (new true 0)).1 = .ok (.deferred "Node") := by
    rw [(access_reads .named _ t _ rfl).1, Demand.outcome, hresolve]
    rfl
  obtain ⟨hresolved, -, haccess⟩ := answers_eq_of_variant hvariant
  refine ⟨hvariant, ?_, ?_, ?_⟩
  · intro heq
    have hnames : t.displayName ≠ u.displayName := by decide +kernel
    exact hnames (congrArg TypeHint.displayName heq)
  · rw [← hresolved, hresolve]
    rfl
  · rw [← haccess, hnamed]
    rfl

end Session

end SchemaLink
