import SchemaLink.Proofs.SpellingVariants
import SchemaLink.Proofs.WrapperNames

/-!
# Annotations along the spine

An annotation may stand around a hint, around the element of a list, around the member of an
optional hint and inside the marker of references. Wherever on the spine annotations are put or
taken away, the outline of the hint stays, and so do the names that errors show: that of the hint
and that of the wrapper around its core. The answers to every question about the hint are then the
same, to the letter, and the metadata never matters, not even whether it can be hashed.
-/

namespace SchemaLink

namespace TypeHint

/-- Two hints that differ only in annotations along the spine. -/
inductive Reannotated : TypeHint → TypeHint → Prop where
  /-- Any hint but the absence of a value, which an annotation makes its class. -/
  | same {t : TypeHint} (h : t ≠ none) : Reannotated t t
  | annotatedLeft (metadata : List TypeHint) {t u : TypeHint} (h : Reannotated t u) :
      Reannotated (annotate t metadata) u
  | annotatedRight (metadata : List TypeHint) {t u : TypeHint} (h : Reannotated t u) :
      Reannotated t (annotate u metadata)
  | list (way : ListForm) {t u : TypeHint} (h : Reannotated t u) :
      Reannotated (way.write t) (way.write u)
  /-- The hint inside is no union, which would take the absence of a value up as one more member.
  Nor is it the class of absent values on one side only, which a union holds but once. -/
  | optional (way : OptionalForm) {t u : TypeHint} (h : Reannotated t u)
      (single : t.isUnion = false ∧ u.isUnion = false)
      (present : t.isNoneType = u.isNoneType) : Reannotated (way.write t) (way.write u)
  | reference {t u : TypeHint} (h : Reannotated t u) :
      Reannotated (reference t.asType) (reference u.asType)

section Names

variable {t u : TypeHint}

/-- A hint is called the same as a type. -/
theorem displayName_asType (t : TypeHint) : t.asType.displayName = t.displayName := by
  rcases t.asType_cases with ⟨rfl, -⟩ | ⟨s, rfl, -⟩ | h
  · rfl
  · rfl
  · rw [h]

/-- The name of the wrapper around the core. -/
def innermostName (t : TypeHint) : String := t.innermostWrapper.displayName

/-- Without steps, the hint itself gives the name. -/
theorem innermostName_of_steps_eq_nil (h : t.steps = []) : t.innermostName = t.displayName := by
  rw [innermostName, innermostWrapper_of_steps_eq_nil h]

/-- A wrapper around a core gives the name, and another one leaves it as it is. -/
theorem innermostName_of_step {w : Wrapper} (h : t.classify = some w)
    (hm : w.modifier ≠ .reference) : t.innermostName =
      if w.wrapped.steps = [] then t.displayName else w.wrapped.innermostName := by
  rw [innermostName, innermostWrapper_of_step h hm]
  split <;> rfl

/-- Annotations do not change the name of the wrapper around the core. -/
@[simp] theorem innermostName_stripAnnotated (t : TypeHint) :
    t.stripAnnotated.innermostName = t.innermostName := by
  by_cases hsteps : t.steps = []
  · have hstrip : t.stripAnnotated.steps = [] := by rw [steps_stripAnnotated, hsteps]
    rw [innermostName_of_steps_eq_nil hstrip, innermostName_of_steps_eq_nil hsteps,
      displayName_stripAnnotated]
  · obtain ⟨w, hw, hm, -⟩ := exists_wrapper_of_steps_ne_nil hsteps
    have hstrip : t.stripAnnotated.classify = some w := by rw [classify_stripAnnotated, hw]
    rw [innermostName_of_step hstrip hm, innermostName_of_step hw hm, displayName_stripAnnotated]

/-- A hint has the same name for the wrapper around its core as a type. -/
theorem innermostName_asType (t : TypeHint) : t.asType.innermostName = t.innermostName := by
  rcases t.asType_cases with ⟨rfl, -⟩ | ⟨s, rfl, -⟩ | h
  · rw [innermostName_of_steps_eq_nil (steps_of_leaf (t := none) rfl),
      innermostName_of_steps_eq_nil (steps_of_leaf (t := asType none) rfl), displayName_asType]
  · rw [innermostName_of_steps_eq_nil (steps_of_reference (t := text s) rfl),
      innermostName_of_steps_eq_nil (steps_of_reference (t := asType (text s)) rfl),
      displayName_asType]
  · rw [h]

/-- An alias shows its first argument first, whether it keeps it as a type or not. -/
theorem displayName_alias (flavour : AliasFlavour) {origin : Class}
    (h : origin ≠ Class.Builtin.callable) (t : TypeHint) {rest : List TypeHint}
    (hrest : rest.map asType = rest) :
    (generic flavour origin (aliasArgs flavour origin (t :: rest))).displayName =
      applied origin.name (t.displayName :: rest.map displayName) := by
  obtain ⟨element, helement, hargs⟩ := exists_aliasArgs_eq flavour h t hrest
  have hname : element.displayName = t.displayName := by
    rcases helement with rfl | rfl
    · rfl
    · exact displayName_asType t
  rw [hargs, displayName_generic h, List.map_cons, hname]

/-- A list shows its element in the way that it is written. -/
theorem ListForm.exists_displayName_write (way : ListForm) : ∃ name texts, ∀ t : TypeHint,
    (way.write t).displayName = applied name (t.displayName :: texts) := by
  have htuple : Class.Builtin.tuple ≠ Class.Builtin.callable := by decide
  have hrest : [value .ellipsis].map asType = [value .ellipsis] := rfl
  cases way with
  | subscript origin isList =>
    exact ⟨_, _, fun t => displayName_alias _ (ne_callable_of_mem_listOrigins isList) t
      List.map_nil⟩
  | apply name origin isName isList =>
    refine ⟨origin.name, [], fun t => ?_⟩
    rw [write, applyForm_collection isName]
    exact displayName_alias .typing (ne_callable_of_mem_listOrigins isList) t List.map_nil
  | subscriptTuple => exact ⟨_, _, fun t => displayName_alias _ htuple t hrest⟩
  | applyTuple => exact ⟨_, _, fun t => displayName_alias .typing htuple t hrest⟩

/-- An optional hint holds the class of absent values on the side where it is written. -/
theorem OptionalForm.exists_write_eq (way : OptionalForm) :
    ∃ absentFirst : Bool, ∀ t : TypeHint, t.asType.IsSingle → ∃ flavour, way.write t =
      .union flavour (if absentFirst then [noneType, t.asType] else [t.asType, noneType]) := by
  have last (t : TypeHint) (hm : t.asType.IsSingle) (flavour : UnionFlavour) :
      mkUnion flavour [t.asType, noneType] = .union flavour [t.asType, noneType] :=
    hm.mkUnion_eq flavour fun alike _ hnone _ => by simp [hm.2, distinctBeside, hnone]
  have first (t : TypeHint) (hm : t.asType.IsSingle) (flavour : UnionFlavour) :
      mkUnion flavour [noneType, t.asType] = .union flavour [noneType, t.asType] :=
    hm.mkUnion_eq flavour fun alike _ _ hnone => by simp [hm.2, distinctBeside, hnone]
  rcases way with (_ | _) | (_ | _)
  · exact ⟨false, fun t hm => ⟨_, last t hm _⟩⟩
  · exact ⟨true, fun t hm => ⟨_, first t hm _⟩⟩
  · exact ⟨false, fun t hm => ⟨_, last t hm _⟩⟩
  · exact ⟨true, fun t hm => ⟨_, first t hm _⟩⟩

/-- Optional hints are called alike if the hints inside are, and are single. -/
theorem OptionalForm.displayName_write_congr (way : OptionalForm) (ht : t.asType.IsSingle)
    (hu : u.asType.IsSingle) (h : t.displayName = u.displayName) :
    (way.write t).displayName = (way.write u).displayName := by
  obtain ⟨absentFirst, hwrite⟩ := way.exists_write_eq
  obtain ⟨flavour, ht⟩ := hwrite t ht
  obtain ⟨flavour', hu⟩ := hwrite u hu
  rw [ht, hu]
  cases absentFirst <;> simp [displayName, displayNames, displayName_asType, h]

end Names

/-- All that annotations along the spine leave as it is. -/
structure SameSpine (t u : TypeHint) : Prop where
  outline_eq : t.outline = u.outline
  displayName_eq : t.displayName = u.displayName
  innermostName_eq : t.innermostName = u.innermostName

namespace SameSpine

variable {t u v : TypeHint}

theorem refl (t : TypeHint) : SameSpine t t := ⟨rfl, rfl, rfl⟩

theorem symm (h : SameSpine t u) : SameSpine u t :=
  ⟨h.outline_eq.symm, h.displayName_eq.symm, h.innermostName_eq.symm⟩

theorem trans (h : SameSpine t u) (h' : SameSpine u v) : SameSpine t v :=
  ⟨h.outline_eq.trans h'.outline_eq, h.displayName_eq.trans h'.displayName_eq,
    h.innermostName_eq.trans h'.innermostName_eq⟩

/-- A hint without its annotations has the spine of the hint. -/
theorem stripAnnotated (t : TypeHint) : SameSpine t.stripAnnotated t :=
  ⟨outline_stripAnnotated t, displayName_stripAnnotated t, innermostName_stripAnnotated t⟩

/-- A hint has the same spine as a type, unless it is the absence of a value. -/
theorem asType (h : t ≠ none) : SameSpine t.asType t :=
  ⟨outline_asType h, displayName_asType t, innermostName_asType t⟩

/-- An annotated hint has the spine of the hint. -/
theorem annotate (h : t ≠ none) (metadata : List TypeHint) :
    SameSpine (annotate t metadata) t := by
  have hstrip := SameSpine.stripAnnotated (TypeHint.annotate t metadata)
  rw [(annotate_spec t metadata).2] at hstrip
  exact hstrip.symm.trans ((SameSpine.stripAnnotated t.asType).trans (.asType h))

/-- Optional hints or lists of hints of one spine have one spine if they are called alike. -/
theorem wrapper {modifier : Modifier} {inner inner' : TypeHint}
    (ht : t.classify = some ⟨modifier, inner⟩) (hu : u.classify = some ⟨modifier, inner'⟩)
    (hm : modifier ≠ .reference) (hname : t.displayName = u.displayName)
    (h : SameSpine inner inner') : SameSpine t u := by
  have hsteps : inner.steps = inner'.steps := congrArg Outline.steps h.outline_eq
  refine ⟨?_, hname, ?_⟩
  · cases modifier with
    | reference => exact absurd rfl hm
    | optional => rw [outline_of_optional ht, outline_of_optional hu, h.outline_eq]
    | list => rw [outline_of_list ht, outline_of_list hu, h.outline_eq]
  · rw [innermostName_of_step ht hm, innermostName_of_step hu hm, hname, hsteps,
      h.innermostName_eq]

/-- Lists of hints of one spine have one spine. -/
theorem list (h : SameSpine t u) (hne : t ≠ none ∧ u ≠ none) (way : ListForm) :
    SameSpine (way.write t) (way.write u) := by
  have inside {t element : TypeHint} (hne : t ≠ none)
      (hkept : element = t ∨ element = t.asType) : SameSpine element.stripAnnotated t := by
    rcases hkept with rfl | rfl
    · exact .stripAnnotated element
    · exact (SameSpine.stripAnnotated t.asType).trans (.asType hne)
  obtain ⟨element, hkept, ht⟩ := (way.listOf_write t).classify_eq
  obtain ⟨element', hkept', hu⟩ := (way.listOf_write u).classify_eq
  obtain ⟨name, texts, hwrite⟩ := way.exists_displayName_write
  refine .wrapper ht hu nofun (by rw [hwrite, hwrite, h.displayName_eq]) ?_
  exact (inside hne.1 hkept).trans (h.trans (inside hne.2 hkept').symm)

/-- Optional hints of hints of one spine have one spine, if the hints inside are single as types. -/
theorem optional (h : SameSpine t u) (hne : t ≠ none ∧ u ≠ none) (way : OptionalForm)
    (ht : t.asType.IsSingle) (hu : u.asType.IsSingle) :
    SameSpine (way.write t) (way.write u) := by
  have inside {t : TypeHint} (hne : t ≠ none) : SameSpine t.asType.stripAnnotated t :=
    (SameSpine.stripAnnotated t.asType).trans (.asType hne)
  have hname := way.displayName_write_congr ht hu h.displayName_eq
  refine .wrapper ((way.optionalOf_write ht (.inl rfl)).classify_eq ht)
    ((way.optionalOf_write hu (.inl rfl)).classify_eq hu) nofun hname ?_
  exact (inside hne.1).trans (h.trans (inside hne.2).symm)

/-- References to hints of one spine have one spine. -/
theorem reference (h : SameSpine t u) (hne : t ≠ none ∧ u ≠ none) :
    SameSpine (reference t.asType) (reference u.asType) := by
  have hname : (TypeHint.reference t.asType).displayName =
      (TypeHint.reference u.asType).displayName := by
    have hmarker : Class.Builtin.reference ≠ Class.Builtin.callable := by decide
    simp only [TypeHint.reference, displayName_generic hmarker, List.map_cons, List.map_nil,
      displayName_asType, h.displayName_eq]
  have hsteps (target : TypeHint) : (TypeHint.reference target).steps = [] := by
    have hclassify :
        (TypeHint.reference target).classify = some ⟨.reference, target.stripAnnotated⟩ := rfl
    exact steps_of_reference hclassify
  have hdestination : t.asType.destination = u.asType.destination := by
    have houtline : t.asType.outline = u.asType.outline := by
      rw [outline_asType hne.1, outline_asType hne.2, h.outline_eq]
    exact congrArg Outline.destination houtline
  refine ⟨?_, hname, ?_⟩
  · rw [outline_reference, outline_reference, hdestination]
  · rw [innermostName_of_steps_eq_nil (hsteps _), innermostName_of_steps_eq_nil (hsteps _), hname]

end SameSpine

namespace Reannotated

variable {t u : TypeHint}

/-- Neither hint is the absence of a value. -/
theorem ne_none (h : Reannotated t u) : t ≠ none ∧ u ≠ none := by
  have optional (way : OptionalForm) {t : TypeHint} (hne : t ≠ none) (hsingle : t.isUnion = false) :
      way.write t ≠ none := by
    cases hnone : t.isNoneType with
    | true =>
      rw [isNoneType_iff.mp hnone, way.write_noneType]
      nofun
    | false =>
      exact (way.optionalOf_write (isSingle_asType hne hnone hsingle) (.inl rfl)).special.1
  induction h with
  | same h => exact ⟨h, h⟩
  | annotatedLeft metadata _ ih => exact ⟨(annotate_special _ metadata).1, ih.2⟩
  | annotatedRight metadata _ ih => exact ⟨ih.1, (annotate_special _ metadata).1⟩
  | list way _ _ => exact ⟨(way.listOf_write _).special.1, (way.listOf_write _).special.1⟩
  | optional way _ single _ ih => exact ⟨optional way ih.1 single.1, optional way ih.2 single.2⟩
  | reference => exact ⟨nofun, nofun⟩

/-- Hints that differ in annotations along the spine have one spine. -/
theorem sameSpine (h : Reannotated t u) : SameSpine t u := by
  induction h with
  | same => exact .refl _
  | annotatedLeft metadata h ih => exact (SameSpine.annotate h.ne_none.1 metadata).trans ih
  | annotatedRight metadata h ih => exact ih.trans (SameSpine.annotate h.ne_none.2 metadata).symm
  | list way h ih => exact ih.list h.ne_none way
  | @optional way t u h single present ih =>
    cases hnone : t.isNoneType with
    | true =>
      rw [isNoneType_iff.mp hnone, isNoneType_iff.mp (present.symm.trans hnone)]
      exact .refl _
    | false =>
      exact ih.optional h.ne_none way (isSingle_asType h.ne_none.1 hnone single.1)
        (isSingle_asType h.ne_none.2 (present.symm.trans hnone) single.2)
  | reference h ih => exact ih.reference h.ne_none

end Reannotated

end TypeHint

open TypeHint hiding none

/-- Hints that take the same steps settle a type alike, to the letter if the wrappers around their
cores have one name. -/
theorem Registry.settle_eq {t u : TypeHint} (hsteps : t.steps = u.steps)
    (hname : t.innermostName = u.innermostName) : settle t = settle u := by
  funext linked
  cases linked with
  | none => rfl
  | some g =>
    have hinner : t.innermostWrapper.displayName = u.innermostWrapper.displayName := hname
    rw [settle, settle, endsOptional, endsOptional, listDepth, listDepth, hinner, hsteps]

/-- Hints of one spine resolve to the same schema type, or fail with the same error. -/
theorem Registry.resolve_eq_of_sameSpine {t u : TypeHint} (h : SameSpine t u) (r : Registry) :
    r.resolve t = r.resolve u := by
  obtain ⟨hsteps, hdeferred, hdestination⟩ := Outline.mk.inj h.outline_eq
  rw [resolve_eq_settle, resolve_eq_settle, coreEntry_core, coreEntry_core, hdeferred,
    hdestination, settle_eq hsteps h.innermostName_eq]

namespace Session

/-- A demand depends on nothing but the name of a hint, what it resolves to, whether it is
representable and whether it is a protocol. -/
theorem access_congr {t u : TypeHint} (demand : Demand) (hname : t.displayName = u.displayName)
    (hresolve : ∀ r : Registry, r.resolve t = r.resolve u)
    (hrepresentable : ∀ registry, t.isRepresentable registry = u.isRepresentable registry)
    (hprotocol : t.isProtocol = u.isProtocol) : access demand t = access demand u := by
  have hresolved : resolved demand t = resolved demand u := by
    simp only [resolved, hresolve, hname]
  have hread : representable t = representable u := by
    simp only [representable, hrepresentable]
  have hlayered (kind : NamedKind) (otherwise : Refusal) :
      layered demand kind otherwise t = layered demand kind otherwise u := by
    funext g
    cases g <;> simp only [layered, hname]
  cases demand <;> simp only [access, meet, hname, hprotocol, hresolved, hread, hlayered]

/-- **Annotations along the spine do not matter.** Hints that differ only in annotations along the
spine resolve to the same schema type, or to nothing, or fail with the same error, with the links of
any registry. References to them point to the same name, they are equally representable, and both
or neither are protocols. Every demand comes to the same for both, with the same record of the same
error if it fails. -/
theorem answers_eq_of_reannotated {t u : TypeHint} (h : Reannotated t u) :
    (∀ r : Registry, r.resolve t = r.resolve u) ∧ t.referenceName = u.referenceName ∧
    (∀ registry : Option Registry, t.isRepresentable registry = u.isRepresentable registry) ∧
    t.isProtocol = u.isProtocol ∧
    ∀ (demand : Demand) (s : Session), access demand t s = access demand u s := by
  have hspine := h.sameSpine
  have hresolve (r : Registry) := r.resolve_eq_of_sameSpine hspine
  have hrepresentable (registry : Option Registry) :=
    isRepresentable_congr registry hspine.outline_eq
  have hprotocol := isProtocol_congr hspine.outline_eq
  have hdestination : t.destination = u.destination :=
    congrArg Outline.destination hspine.outline_eq
  refine ⟨hresolve, ?_, hrepresentable, hprotocol, fun demand s => ?_⟩
  · rw [referenceName_eq, referenceName_eq, hdestination]
  · rw [access_congr demand hspine.displayName_eq hresolve hrepresentable hprotocol]

/-- An optional list of dates with annotations in all three places, of which two cannot be hashed,
is taken for an argument and refused as an object as it is without them. -/
theorem answers_eq_of_reannotated_dates :
    let date : TypeHint := .cls Class.Builtin.date
    let list := ListForm.subscript Class.Builtin.list (by decide)
    let optional := OptionalForm.typing false
    let t := annotate (optional.write (annotate (list.write (annotate date [.list 0 []]))
      [text "m"])) [.dict 1 [] []]
    let u := optional.write (list.write date)
    let s : Session := { new true Level.debug.rank with
      registry := (Registry.new true).run [⟨date, .named (.scalar "Date")⟩] }
    Reannotated t u ∧ t.unhashable? = some .list ∧ u.unhashable? = none ∧
      (access (.input (some "f")) t s).1 = .ok (.list (.nonNull (.named (.scalar "Date")))) ∧
      (access .object t s).1 =
        .error (.mapping (.refused .object .nullable "list[date] | None")) := by
  intro date list optional t u s
  have hdate : date ≠ .none := by simp [date]
  have hvariant : Reannotated t u :=
    .annotatedLeft _ (.optional _ (.annotatedLeft _ (.list _ (.annotatedLeft _ (.same hdate))))
      ⟨rfl, rfl⟩ rfl)
  have haccess := (answers_eq_of_reannotated hvariant).2.2.2.2
  have hlookup : s.registry.lookup date = .ok (some (.named (.scalar "Date"))) :=
    (Registry.new true).lookup_key_after ⟨date, .named (.scalar "Date")⟩ rfl
  have hresolve :
      s.registry.resolve u = .ok (some (.list (.nonNull (.named (.scalar "Date"))))) := by
    obtain ⟨hne, hnone, hunion⟩ := (list.listOf_write date).special
    have hm := isSingle_asType hne hnone hunion
    have hoptional := (optional.optionalOf_write hm (.inl rfl)).classify_eq hm
    have hlist : (list.write date).asType.stripAnnotated.classify = some ⟨.list, date⟩ := rfl
    have hleaf : date.classify = none := rfl
    have hentry : s.registry.entry date = .ok (some (.named (.scalar "Date"))) := by
      rw [Registry.entry, hlookup]
      rfl
    rw [s.registry.resolve_of_optional_wrapper hoptional hlist (by simp),
      s.registry.resolve_of_list_leaf hlist hleaf, hentry]
    rfl
  refine ⟨hvariant, by decide +kernel, by decide +kernel, ?_, ?_⟩
  · rw [haccess, (access_reads _ s.registry u s rfl).1, Demand.outcome, hresolve]
    rfl
  · have hname : u.displayName = "list[date] | None" := by decide +kernel
    rw [haccess, (access_reads _ s.registry u s rfl).1, Demand.outcome, hresolve, hname]
    rfl

end Session

end SchemaLink
