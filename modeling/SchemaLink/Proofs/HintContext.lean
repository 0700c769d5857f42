import SchemaLink.Hint.Union
import SchemaLink.Proofs.HintSpine

/-!
# Hints in context

A context is a nesting of lists, optional hints and annotations around a hole, each written in any
of the forms that the constructors of hints offer. Filling the hole gives a hint whose spine follows
the layers of the context. It may be shorter, because optional hints around each other make up one
union, but it passes as many lists, ends in the same way, and leads to what was filled in.
-/

namespace SchemaLink

namespace TypeHint

/-- As a type, the absence of a value is its class, a text is a forward reference, and every other
hint is itself. -/
theorem asType_cases (t : TypeHint) :
    t = none ∧ t.asType = noneType ∨ (∃ s, t = text s ∧ t.asType = .forward s) ∨ t.asType = t := by
  unfold asType
  split
  · exact .inl ⟨rfl, rfl⟩
  · exact .inr (.inl ⟨_, rfl, rfl⟩)
  · exact .inr (.inr rfl)

/-- Only a text becomes a forward reference, apart from the forward reference itself. -/
theorem eq_of_asType_eq_forward {t : TypeHint} {name : String} (h : t.asType = .forward name) :
    t = text name ∨ t = .forward name := by
  rcases t.asType_cases with ⟨-, htype⟩ | ⟨s, rfl, htype⟩ | htype
  · rw [htype] at h
    cases h
  · rw [htype] at h
    cases h
    exact .inl rfl
  · exact .inr (htype.symm.trans h)

/-- Only a hint itself becomes that hint, if it is neither a forward reference nor the class of
absent values. -/
theorem eq_of_asType_eq {t u : TypeHint} (h : t.asType = u) (hname : ∀ s, u ≠ .forward s)
    (hnone : u ≠ noneType) : t = u := by
  rcases t.asType_cases with ⟨-, htype⟩ | ⟨s, -, htype⟩ | htype
  · exact absurd (h.symm.trans htype) hnone
  · exact absurd (h.symm.trans htype) (hname s)
  · exact htype.symm.trans h

/-- Being made a type a second time changes nothing. -/
@[simp] theorem asType_asType (t : TypeHint) : t.asType.asType = t.asType := by
  rcases t.asType_cases with ⟨-, h⟩ | ⟨s, -, h⟩ | h
  · rw [h]
    rfl
  · rw [h]
    rfl
  · rw [h, h]

/-- A hint and the same hint as a type take the same steps. -/
theorem steps_asType (t : TypeHint) : t.asType.steps = t.steps := by
  rcases t.asType_cases with ⟨rfl, -⟩ | ⟨s, rfl, -⟩ | h
  · exact (steps_of_leaf rfl).trans (steps_of_leaf rfl).symm
  · exact (steps_of_reference rfl).trans (steps_of_reference rfl).symm
  · rw [h]

/-- A hint and the same hint as a type lead to the same core, as a type. -/
theorem asType_core_asType (t : TypeHint) : t.asType.core.asType = t.core.asType := by
  rcases t.asType_cases with ⟨rfl, -⟩ | ⟨s, rfl, -⟩ | h
  · rw [core_of_leaf (t := none) rfl, core_of_leaf (t := asType none) rfl]
    rfl
  · rw [core_of_reference (t := text s) rfl, core_of_reference (t := asType (text s)) rfl]
    rfl
  · rw [h]

/-- Hints that are the same as types lead the same way. -/
theorem steps_congr {t u : TypeHint} (h : t.asType = u.asType) : t.steps = u.steps := by
  rw [← steps_asType, h, steps_asType]

/-- Hints that are the same as types lead to cores that are the same as types. -/
theorem core_congr {t u : TypeHint} (h : t.asType = u.asType) :
    t.core.asType = u.core.asType := by
  rw [← asType_core_asType, h, asType_core_asType]

/-- A hint that is neither a union nor the class of absent values. -/
def IsSingle (m : TypeHint) : Prop := m.isNoneType = false ∧ m.unionMembers = [m]

/-- A hint is the union of another one and the class of absent values. -/
inductive OptionalOf (m : TypeHint) : TypeHint → Prop where
  | absentLast (flavour : UnionFlavour) : OptionalOf m (.union flavour [m, noneType])
  | absentFirst (flavour : UnionFlavour) : OptionalOf m (.union flavour [noneType, m])

/-- A single hint is neither the same key as the class of absent values nor equal to it. -/
theorem IsSingle.alike_eq_false {m : TypeHint} (hm : m.IsSingle) :
    (same noneType m = false ∧ same m noneType = false) ∧
      isEqual noneType m = false ∧ isEqual m noneType = false := by
  have hne : ∀ c, m = .cls c → Class.Builtin.noneType ≠ c ∧ c ≠ Class.Builtin.noneType := by
    rintro c rfl
    have hc : c ≠ Class.Builtin.noneType := of_decide_eq_false hm.1
    exact ⟨hc.symm, hc⟩
  cases m with
  | cls c => simp [same, isEqual, equals, hne c rfl]
  | _ => simp [same, isEqual, equals]

/-- A union keeps two members if they are kept whenever absent values count as alike and a single
hint as different from them. -/
theorem IsSingle.mkUnion_eq {m : TypeHint} (hm : m.IsSingle) (flavour : UnionFlavour)
    {args : List TypeHint} {x y : TypeHint}
    (h : ∀ alike : TypeHint → TypeHint → Bool, alike noneType noneType = true →
      alike noneType m = false → alike m noneType = false →
        distinctBeside alike [] (args.flatMap unionMembers) = [x, y]) :
    mkUnion flavour args = .union flavour [x, y] := by
  obtain ⟨hsame, hequal⟩ := hm.alike_eq_false
  have hdistinct : distinct flavour (args.flatMap unionMembers) = [x, y] := by
    rw [distinct]
    split
    · exact h same (by simp [same]) hsame.1 hsame.2
    · exact h isEqual (by simp [isEqual, equals, same]) hequal.1 hequal.2
  rw [mkUnion, hdistinct]

section Optional

variable {m t : TypeHint}

/-- Absent values join, behind it, a hint that may have them already. -/
theorem IsSingle.optionalOf_absentLast (hm : m.IsSingle) (h : t = m ∨ OptionalOf m t)
    (flavour : UnionFlavour) : OptionalOf m (mkUnion flavour [t, noneType]) := by
  rcases h with rfl | ⟨_⟩ | ⟨_⟩
  · rw [hm.mkUnion_eq flavour (x := t) (y := noneType)]
    · exact .absentLast flavour
    · intro alike _ hnone _
      simp [hm.2, distinctBeside, hnone]
  · rw [hm.mkUnion_eq flavour (x := m) (y := noneType)]
    · exact .absentLast flavour
    · intro alike hself hnone _
      simp [distinctBeside, hself, hnone]
  · rw [hm.mkUnion_eq flavour (x := noneType) (y := m)]
    · exact .absentFirst flavour
    · intro alike hself _ hm'
      simp [distinctBeside, hself, hm']

/-- Absent values join, in front of it, a hint that may have them already. -/
theorem IsSingle.optionalOf_absentFirst (hm : m.IsSingle) (h : t = m ∨ OptionalOf m t)
    (flavour : UnionFlavour) : OptionalOf m (mkUnion flavour [noneType, t]) := by
  rw [hm.mkUnion_eq flavour (x := noneType) (y := m)]
  · exact .absentFirst flavour
  · intro alike hself _ hm'
    rcases h with rfl | ⟨_⟩ | ⟨_⟩
    · simp [hm.2, distinctBeside, hm']
    · simp [distinctBeside, hself, hm']
    · simp [distinctBeside, hself, hm']

/-- The union of a hint and the class of absent values is a type already. -/
theorem OptionalOf.asType_eq (h : OptionalOf m t) : t.asType = t := by
  cases h <;> rfl

/-- The union of a single hint and the class of absent values is an optional hint. -/
theorem OptionalOf.classify_eq (h : OptionalOf m t) (hm : m.IsSingle) :
    t.classify = some ⟨.optional, m.stripAnnotated⟩ := by
  have hnone : noneType.isNoneType = true := rfl
  cases h with
  | absentLast flavour =>
    have hmember : optionalMember? [m, noneType] = some m := by
      simp [optionalMember?, hm.1, hnone]
    simp [classify, stripAnnotated, classifyBare, hmember]
  | absentFirst flavour =>
    have hmember : optionalMember? [noneType, m] = some m := by
      simp [optionalMember?, hm.1, hnone]
    simp [classify, stripAnnotated, classifyBare, hmember]

/-- An optional hint takes one step more than the hint inside. -/
theorem OptionalOf.steps_eq (h : OptionalOf m t) (hm : m.IsSingle) :
    t.steps = .optional :: m.steps := by
  rw [steps_of_optional (h.classify_eq hm), steps_stripAnnotated]

/-- An optional hint has the core of the hint inside. -/
theorem OptionalOf.core_eq (h : OptionalOf m t) (hm : m.IsSingle) : t.core = m.core := by
  rw [core_of_optional (h.classify_eq hm), core_stripAnnotated]

end Optional

/-- The ways to write a list. -/
inductive ListForm where
  /-- A collection with its element as argument. -/
  | subscript (origin : Class) (isList : origin ∈ listOrigins)
  /-- The name of a collection in the typing module with its element as argument. -/
  | apply (name : String) (origin : Class) (isName : collection? name = some origin)
    (isList : origin ∈ listOrigins)
  /-- A tuple of any length. -/
  | subscriptTuple
  /-- A tuple of any length, with its name in the typing module. -/
  | applyTuple

/-- A list of a hint, as it is written. -/
def ListForm.write : ListForm → TypeHint → TypeHint
  | .subscript origin _, t => TypeHint.subscript origin [t]
  | .apply name _ _ _, t => applyForm name [t]
  | .subscriptTuple, t => TypeHint.subscript Class.Builtin.tuple [t, .value .ellipsis]
  | .applyTuple, t => applyForm "Tuple" [t, .value .ellipsis]

/-- The ways to write an optional hint. -/
inductive OptionalForm where
  /-- A union of the typing module, with the absence of a value in one of its two places. -/
  | typing (absentFirst : Bool)
  /-- The `|` operator, with the absence of a value on one of its two sides. -/
  | operator (absentFirst : Bool)

/-- An optional hint, as it is written. -/
def OptionalForm.write : OptionalForm → TypeHint → TypeHint
  | .typing false, t => optional t
  | .typing true, t => unionOf [none, t]
  | .operator false, t => either t none
  | .operator true, t => either none t

/-- A hint is an alias that lists another one, which it may hold as a type. -/
structure ListOf (t list : TypeHint) : Prop where
  isAlias : ∃ flavour origin args, list = .generic flavour origin args
  classify_eq : ∃ element : TypeHint, (element = t ∨ element = t.asType) ∧
    list.classify = some ⟨.list, element.stripAnnotated⟩

/-- An alias keeps its first argument, perhaps as a type, and the others if they are types. -/
theorem exists_aliasArgs_eq (flavour : AliasFlavour) {origin : Class}
    (h : origin ≠ Class.Builtin.callable) (t : TypeHint) {rest : List TypeHint}
    (hrest : rest.map asType = rest) :
    ∃ element : TypeHint, (element = t ∨ element = t.asType) ∧
      aliasArgs flavour origin (t :: rest) = element :: rest := by
  cases flavour with
  | builtin => exact ⟨t, .inl rfl, by simp [aliasArgs, h]⟩
  | typing => exact ⟨t.asType, .inr rfl, by simp [aliasArgs, h, hrest]⟩

/-- A collection with its element as argument lists the element. -/
theorem listOf_collection (flavour : AliasFlavour) {origin : Class} (h : origin ∈ listOrigins)
    (t : TypeHint) : ListOf t (.generic flavour origin (aliasArgs flavour origin [t])) := by
  have hother : ∀ c, c ∉ listOrigins → origin ≠ c := by
    rintro c hc rfl
    exact hc h
  have hreference := hother Class.Builtin.reference (by decide)
  obtain ⟨element, helement, hargs⟩ :=
    exists_aliasArgs_eq flavour (hother Class.Builtin.callable (by decide)) t List.map_nil
  refine ⟨⟨_, _, _, rfl⟩, element, helement, ?_⟩
  rw [hargs]
  simp [classify, stripAnnotated, classifyBare, classifyAlias, hreference, h]

/-- A tuple of any length lists its element. -/
theorem listOf_tuple (flavour : AliasFlavour) (t : TypeHint) :
    ListOf t (.generic flavour Class.Builtin.tuple
      (aliasArgs flavour Class.Builtin.tuple [t, .value .ellipsis])) := by
  have htuple : Class.Builtin.tuple ≠ Class.Builtin.callable := by decide
  have hrest : [value .ellipsis].map asType = [value .ellipsis] := rfl
  obtain ⟨element, helement, hargs⟩ :=
    exists_aliasArgs_eq flavour htuple t hrest
  refine ⟨⟨_, _, _, rfl⟩, element, helement, ?_⟩
  rw [hargs]
  simp [classify, stripAnnotated, classifyBare, classifyAlias]

/-- A collection's name in the typing module makes an alias of the collection. -/
theorem applyForm_collection {name : String} {origin : Class} (h : collection? name = some origin)
    (args : List TypeHint) :
    applyForm name args = .generic .typing origin (aliasArgs .typing origin args) := by
  unfold applyForm
  split
  case h_4 => simp [h]
  all_goals cases h

/-- Every way to write a list lists the element. -/
theorem ListForm.listOf_write (way : ListForm) (t : TypeHint) : ListOf t (way.write t) := by
  cases way with
  | subscript origin isList => exact listOf_collection _ isList t
  | apply name origin isName isList =>
    rw [write, applyForm_collection isName]
    exact listOf_collection .typing isList t
  | subscriptTuple => exact listOf_tuple _ t
  | applyTuple => exact listOf_tuple .typing t

/-- Every way to write an optional hint makes the hint optional, which may be optional already. -/
theorem OptionalForm.optionalOf_write (way : OptionalForm) {m t : TypeHint} (hm : m.IsSingle)
    (h : t.asType = m ∨ OptionalOf m t.asType) : OptionalOf m (way.write t) := by
  cases way with
  | typing absentFirst =>
    cases absentFirst with
    | false => exact hm.optionalOf_absentLast h .typing
    | true => exact hm.optionalOf_absentFirst h .typing
  | operator absentFirst =>
    cases absentFirst with
    | false => exact hm.optionalOf_absentLast h _
    | true => exact hm.optionalOf_absentFirst h _

/-- An annotated hint is the hint as a type under an annotation. -/
theorem annotate_spec (t : TypeHint) (metadata : List TypeHint) :
    (∃ target all, annotate t metadata = .annotated target all) ∧
      (annotate t metadata).stripAnnotated = t.asType.stripAnnotated := by
  unfold annotate
  split
  case h_1 inner earlier h => exact ⟨⟨_, _, rfl⟩, by rw [h]; rfl⟩
  case h_2 => exact ⟨⟨_, _, rfl⟩, rfl⟩

/-- A layer of a context. -/
inductive Layer where
  | list (way : ListForm)
  | optional (way : OptionalForm)
  | annotated (metadata : List TypeHint)

/-- A hint inside a layer. -/
def Layer.write : Layer → TypeHint → TypeHint
  | .list way, t => way.write t
  | .optional way, t => way.write t
  | .annotated metadata, t => annotate t metadata

/-- What a layer does to the type inside it, if anything. -/
def Layer.modifier? : Layer → Option Modifier
  | .list _ => some .list
  | .optional _ => some .optional
  | .annotated _ => Option.none

/-- A hint inside the layers of a context, the outermost layer first. -/
def fill (context : List Layer) (t : TypeHint) : TypeHint := context.foldr Layer.write t

/-- A hint leads over the given modifiers to what was filled in, and absent values may join it. -/
structure Leads (filled : TypeHint) (modifiers : List Modifier) (t : TypeHint) : Prop where
  listDepth_eq : t.listDepth = modifiers.count .list
  last_eq : t.steps.getLast? = modifiers.getLast?
  core_eq : t.core.asType = filled.asType
  exists_single : ∃ m, m.IsSingle ∧ (t.asType = m ∨ OptionalOf m t.asType)

/-- A hint without steps leads over no modifiers to itself, if absent values may join it. -/
theorem leads_self {t : TypeHint} (hsteps : t.steps = []) (hcore : t.core = t)
    (hm : t.asType.IsSingle) : Leads t [] t :=
  ⟨listDepth_of_steps_eq_nil hsteps, by rw [hsteps], by rw [hcore], _, hm, .inl rfl⟩

section Leads

variable {filled t : TypeHint} {modifiers : List Modifier}

/-- A list leads over one list more than its element. -/
theorem Leads.list (h : Leads filled modifiers t) (way : ListForm) :
    Leads filled (.list :: modifiers) (way.write t) := by
  obtain ⟨⟨flavour, origin, args, halias⟩, element, hkept, hclassify⟩ := way.listOf_write t
  have helement : element.asType = t.asType := by
    rcases hkept with rfl | rfl
    · rfl
    · exact t.asType_asType
  have hsteps : (way.write t).steps = .list :: t.steps := by
    rw [steps_of_list hclassify, steps_stripAnnotated, steps_congr helement]
  constructor
  · rw [listDepth, hsteps, List.count_cons_self, List.count_cons_self]
    exact congrArg (· + 1) h.listDepth_eq
  · rw [hsteps, List.getLast?_cons, List.getLast?_cons, h.last_eq]
  · rw [core_of_list hclassify, core_stripAnnotated, core_congr helement, h.core_eq]
  · rw [halias]
    exact ⟨_, ⟨rfl, rfl⟩, .inl rfl⟩

/-- An optional hint leads over an optional hint more than the hint inside, or as that one does if
it is optional itself, and there is no telling between the two from how the way ends. -/
theorem Leads.optional (h : Leads filled modifiers t) (way : OptionalForm) :
    Leads filled (.optional :: modifiers) (way.write t) := by
  obtain ⟨m, hm, htype⟩ := h.exists_single
  have hoptional := way.optionalOf_write hm htype
  have hsteps := hoptional.steps_eq hm
  have hcore := hoptional.core_eq hm
  have hinner : t.listDepth = m.listDepth ∧ t.core.asType = m.core.asType ∧
      t.steps.getLast?.getD .optional = m.steps.getLast?.getD .optional := by
    rw [listDepth, listDepth, ← steps_asType t, ← asType_core_asType t]
    rcases htype with hsingle | hopt
    · rw [hsingle]
      exact ⟨rfl, rfl, rfl⟩
    · rw [hopt.steps_eq hm, hopt.core_eq hm, List.getLast?_cons]
      exact ⟨List.count_cons_of_ne (by simp), rfl, rfl⟩
  constructor
  · rw [listDepth, hsteps, List.count_cons_of_ne (by simp), List.count_cons_of_ne (by simp),
      ← h.listDepth_eq, hinner.1, listDepth]
  · rw [hsteps, List.getLast?_cons, List.getLast?_cons, ← h.last_eq, hinner.2.2]
  · rw [hcore, ← hinner.2.1, h.core_eq]
  · rw [hoptional.asType_eq]
    exact ⟨m, hm, .inr hoptional⟩

/-- An annotated hint leads as the hint inside does. -/
theorem Leads.annotated (h : Leads filled modifiers t) (metadata : List TypeHint) :
    Leads filled modifiers (annotate t metadata) := by
  obtain ⟨⟨target, all, hannotated⟩, hstrip⟩ := annotate_spec t metadata
  have hsteps : (annotate t metadata).steps = t.steps := by
    rw [← steps_stripAnnotated, hstrip, steps_stripAnnotated, steps_asType]
  constructor
  · rw [listDepth, hsteps]
    exact h.listDepth_eq
  · rw [hsteps, h.last_eq]
  · rw [← core_stripAnnotated, hstrip, core_stripAnnotated, asType_core_asType, h.core_eq]
  · rw [hannotated]
    exact ⟨_, ⟨rfl, rfl⟩, .inl rfl⟩

end Leads

/-- The modifiers of the layers of a context, the outermost first. -/
def contextModifiers (context : List Layer) : List Modifier := context.filterMap Layer.modifier?

/-- A filled context leads over the modifiers of its layers, if what was filled in does so over
none. -/
theorem Leads.fill {filled : TypeHint} (h : Leads filled [] filled) (context : List Layer) :
    Leads filled (contextModifiers context) (fill context filled) := by
  induction context with
  | nil => exact h
  | cons layer rest ih =>
    cases layer with
    | list way => exact ih.list way
    | optional way => exact ih.optional way
    | annotated metadata => exact ih.annotated metadata

end TypeHint

end SchemaLink
