import SchemaLink.Proofs.AnnotatedSpine
import SchemaLink.Proofs.VoidKeys

/-!
# The absence of a type inside lists

The absence of a type is written as a constant or as its class. Nothing links either of them unless
an annotation brings it in, so that no demand is met for them, however many lists stand around them.
The two spellings part in one place only: the class is representable by itself, and the constant is
not. They are one hint, on the other hand, as soon as the innermost list makes its element a type,
as the lists of the typing module do.
-/

namespace SchemaLink

namespace TypeHint

/-- Whether a way to write a list makes the element a type. -/
def ListForm.isTyping : ListForm → Bool
  | .subscript _ _ | .subscriptTuple => false
  | .apply _ _ _ _ | .applyTuple => true

/-- A hint inside lists, the outermost first. -/
def listed (ways : List ListForm) (t : TypeHint) : TypeHint := fill (ways.map .list) t

/-- Whether lists leave the constant inside them as it is. The innermost one decides, if there is
one. -/
def keepsNone (ways : List ListForm) : Bool := ways.getLast?.all fun way => !way.isTyping

section Lists

variable {ways : List ListForm} {way : ListForm} {t v : TypeHint}

/-- A collection with arguments, as it is written, keeps them as they are. -/
theorem subscript_eq {origin : Class} (hgeneric : isTypingGeneric origin = false)
    (hcallable : origin ≠ Class.Builtin.callable) (args : List TypeHint) :
    TypeHint.subscript origin args = .generic .builtin origin args := by
  simp [TypeHint.subscript, hgeneric, aliasArgs, hcallable]

/-- A list of the typing module does not tell the constant from its class. -/
theorem ListForm.write_none (h : way.isTyping = true) : way.write none = way.write noneType := by
  have harguments {origin : Class} (hcallable : origin ≠ Class.Builtin.callable)
      (rest : List TypeHint) : aliasArgs .typing origin (none :: rest) =
        aliasArgs .typing origin (noneType :: rest) := by
    simp only [aliasArgs, if_neg hcallable]
    rfl
  cases way with
  | subscript origin isList => cases h
  | subscriptTuple => cases h
  | apply name origin isName isList =>
    rw [write, write, applyForm_collection isName, applyForm_collection isName,
      harguments (ne_callable_of_mem_listOrigins isList)]
  | applyTuple => exact congrArg (generic .typing Class.Builtin.tuple) (harguments (by decide) _)

/-- A list that does not make its element a type keeps any hint, and takes one step more. -/
theorem ListForm.outline_write_of_keeps (h : way.isTyping = false) (t : TypeHint) :
    (way.write t).outline = t.outline.after .list := by
  have hclassify : (way.write t).classify = some ⟨.list, t.stripAnnotated⟩ := by
    cases way with
    | apply name origin isName isList => cases h
    | applyTuple => cases h
    | subscript origin isList =>
      have hlists : ∀ c ∈ listOrigins, isTypingGeneric c = false ∧
          c ≠ Class.Builtin.reference := by decide +kernel
      obtain ⟨hgeneric, hreference⟩ := hlists origin isList
      rw [write, subscript_eq hgeneric (ne_callable_of_mem_listOrigins isList)]
      simp [classify, stripAnnotated, classifyBare, classifyAlias, hreference, isList]
    | subscriptTuple =>
      have htuple : isTypingGeneric Class.Builtin.tuple = false := by decide +kernel
      rw [write, subscript_eq htuple (by decide)]
      simp [classify, stripAnnotated, classifyBare, classifyAlias]
  rw [outline_of_list hclassify, outline_stripAnnotated]

/-- Lists are none, or an innermost one with the others around it. -/
theorem listed_append (ways : List ListForm) (way : ListForm) (t : TypeHint) :
    listed (ways ++ [way]) t = listed ways (way.write t) := by
  simp [listed, fill, Layer.write]

/-- The innermost list decides whether the constant is kept. -/
theorem keepsNone_append (ways : List ListForm) (way : ListForm) :
    keepsNone (ways ++ [way]) = !way.isTyping := by
  simp [keepsNone]

/-- Lists fit around any hint. -/
theorem fits_lists (ways : List ListForm) (t : TypeHint) : fits t (ways.map .list) = true := by
  induction ways with
  | nil => rfl
  | cons way rest ih => exact ih

/-- Lists that do not keep the constant do not tell it from its class. -/
theorem listed_none (h : keepsNone ways = false) : listed ways none = listed ways noneType := by
  rcases ways.eq_nil_or_concat' with rfl | ⟨front, way, rfl⟩
  · cases h
  · rw [keepsNone_append, Bool.not_eq_false'] at h
    rw [listed_append, listed_append, ListForm.write_none h]

/-- The absence of a type is a leaf without annotations. -/
theorem leaf_of_isVoid (hv : v.isVoid = true) :
    v.stripAnnotated = v ∧ v.classify = Option.none := by
  rcases isVoid_iff.mp hv with rfl | rfl <;> exact ⟨rfl, rfl⟩

/-- The absence of a type leads to itself. -/
theorem outline_of_isVoid (hv : v.isVoid = true) : v.outline = ⟨[], false, v⟩ := by
  obtain ⟨hbare, hleaf⟩ := leaf_of_isVoid hv
  rw [outline_of_leaf hleaf, hbare]

/-- Inside lists, too, the absence of a type is what is led to, unless the lists make it another
one. -/
theorem leads_of_isVoid (hv : v.isVoid = true) (hkept : v ≠ none ∨ keepsNone ways = true) :
    (listed ways v).isDeferred = false ∧ (listed ways v).destination = v := by
  obtain ⟨-, hdeferred, hdestination⟩ := Outline.mk.inj (outline_of_isVoid hv)
  rcases ways.eq_nil_or_concat' with rfl | ⟨front, way, rfl⟩
  · exact ⟨hdeferred, hdestination⟩
  · have hway : (way.write v).outline = v.outline.after .list := by
      rcases hkept with hne | hkeeps
      · exact way.outline_write hne
      · rw [keepsNone_append, Bool.not_eq_true'] at hkeeps
        exact ListForm.outline_write_of_keeps hkeeps v
    obtain ⟨hne, hclass, -⟩ := (way.listOf_write v).special
    obtain ⟨houtline, -⟩ := outline_fill (isVoid_eq_false_iff.mpr ⟨hne, hclass⟩)
      (fits_lists front (way.write v))
    obtain ⟨-, hwayDeferred, hwayDestination⟩ := Outline.mk.inj hway
    obtain ⟨-, hfillDeferred, hfillDestination⟩ := Outline.mk.inj houtline
    rw [listed_append]
    exact ⟨hfillDeferred.trans (hwayDeferred.trans hdeferred),
      hfillDestination.trans (hwayDestination.trans hdestination)⟩

/-- Lists of hints that are called alike are called alike. -/
theorem displayName_listed {u : TypeHint} (ways : List ListForm)
    (h : t.displayName = u.displayName) :
    (listed ways t).displayName = (listed ways u).displayName := by
  induction ways with
  | nil => exact h
  | cons way rest ih =>
    obtain ⟨name, texts, hname⟩ := way.exists_displayName_write
    exact (hname _).trans ((congrArg (fun shown => applied name (shown :: texts)) ih).trans
      (hname _).symm)

/-- The absence of a type is no protocol. -/
theorem isProtocol_of_isVoid (hv : v.isVoid = true) : v.isProtocol = false := by
  rcases isVoid_iff.mp hv with rfl | rfl
  · rfl
  · decide +kernel

/-- The absence of a type is representable exactly as the class, if nothing links it. -/
theorem isRepresentable_of_isVoid {registry : Option Registry} (hv : v.isVoid = true)
    (hunlinked : v.isLinked registry = .ok false) :
    v.isRepresentable registry = .ok v.isNoneType := by
  obtain ⟨hbare, hleaf⟩ := leaf_of_isVoid hv
  have hkind : v.isRepresentableLeaf = v.isNoneType := by
    rcases isVoid_iff.mp hv with rfl | rfl
    · rfl
    · decide +kernel
  rw [isRepresentable_of_leaf registry hleaf, isProtocol_of_isVoid hv, hbare, hunlinked, hkind]
  rfl

end Lists

end TypeHint

open TypeHint hiding none

/-- Whether the call links the absence of a type under an annotation. -/
def LinkCall.annotatesVoid (call : LinkCall) : Bool := call.key.isVoid && !call.hint.isVoid

/-- What a demand is refused for if the hint resolves to nothing and is no protocol. -/
def Demand.absence (representable : Bool) : Demand → Refusal
  | .output _ => if representable then .unmapped else .notRepresentable
  | .interface => .notProtocol
  | _ => .unmapped

/-- A demand is refused if the hint resolves to nothing and is no protocol. -/
theorem Demand.outcome_of_absent (demand : Demand) {r : Registry} {t : TypeHint} {b : Bool}
    (hrepresentable : t.isRepresentable (some r) = .ok b) (hprotocol : t.isProtocol = false)
    (hresolve : r.resolve t = .ok none) :
    demand.outcome r t = demand.refused (demand.absence b) t.displayName := by
  cases demand with
  | output field =>
    rw [outcome, admission, hrepresentable, hresolve]
    cases b <;> rfl
  | interface =>
    rw [outcome, admission, hprotocol]
    rfl
  | _ =>
    rw [outcome, hresolve]
    rfl

/-- The refusals of what is representable and of what may not be are of one kind, unless the demand
is for output and the latter is not representable. -/
theorem Demand.absence_kind_iff (demand : Demand) (kept : Bool) (typeName : String) :
    (demand.refused (α := SchemaType) (demand.absence !kept) typeName).mapError
        AccessError.kindName =
      (demand.refused (demand.absence true) typeName).mapError AccessError.kindName ↔
    ((∃ field, demand = .output field) → kept = false) := by
  cases kept with
  | false => simp
  | true =>
    have hkinds : Refusal.notRepresentable.kindName ≠ Refusal.unmapped.kindName := by decide
    cases demand with
    | output field =>
      refine ⟨fun heq => absurd (Except.error.inj heq) hkinds, fun h => ?_⟩
      exact absurd (h ⟨field, rfl⟩) nofun
    | _ => simp [absence]

namespace Registry

variable {r : Registry} {v : TypeHint} {ways : List ListForm}

/-- After a run without annotations that bring it in, the absence of a type is not linked. -/
theorem get?_run_of_isVoid (strict : Bool) {calls : List LinkCall}
    (h : ∀ call ∈ calls, call.annotatesVoid = false) (hv : v.isVoid = true) :
    ((new strict).run calls).get? v = none := by
  rw [← Option.not_isSome_iff_eq_none, ← contains_iff_of_isVoid hv,
    contains_run_of_isVoid strict calls hv]
  rintro ⟨call, hcall, hwrites, rfl⟩
  have hbare := h call hcall
  rw [LinkCall.annotatesVoid, hv, Bool.true_and, Bool.not_eq_false'] at hbare
  simp [LinkCall.writes, hbare] at hwrites

/-- Inside lists, the absence of a type resolves to nothing if it is not linked. -/
theorem resolve_listed (hfree : r.get? v = none) (hv : v.isVoid = true)
    (hkept : v ≠ .none ∨ keepsNone ways = true) : r.resolve (listed ways v) = .ok none := by
  obtain ⟨hdeferred, hdestination⟩ := leads_of_isVoid hv hkept
  rw [resolve_eq_settle, coreEntry_core, hdeferred, hdestination, if_neg Bool.false_ne_true,
    r.entry_of_hashable (unhashable?_of_isVoid hv), hfree]
  rfl

/-- Inside lists, with or without the links of the registry, the absence of a type is representable
exactly as the class if it is not linked. -/
theorem isRepresentable_listed (hfree : r.get? v = none) (hv : v.isVoid = true)
    (hkept : v ≠ .none ∨ keepsNone ways = true) {registry : Option Registry}
    (hregistry : registry ∈ [none, some r]) :
    (listed ways v).isRepresentable registry = .ok v.isNoneType := by
  have hunlinked : v.isLinked registry = .ok false := by
    rcases List.mem_pair.mp hregistry with rfl | rfl
    · rfl
    · rw [isLinked, contains, r.lookup_of_hashable (unhashable?_of_isVoid hv), hfree]
      rfl
  rw [isRepresentable_destination, (leads_of_isVoid hv hkept).2]
  exact isRepresentable_of_isVoid hv hunlinked

/-- Inside lists, the absence of a type meets no demand if it is not linked. -/
theorem outcome_listed (demand : Demand) (hfree : r.get? v = none) (hv : v.isVoid = true)
    (hkept : v ≠ .none ∨ keepsNone ways = true) : demand.outcome r (listed ways v) =
      demand.refused (demand.absence v.isNoneType) (listed ways v).displayName := by
  have hprotocol : (listed ways v).isProtocol = false := by
    rw [isProtocol_eq, (leads_of_isVoid hv hkept).2, isProtocol_of_isVoid hv, Bool.and_false]
  exact demand.outcome_of_absent (isRepresentable_listed hfree hv hkept (by simp)) hprotocol
    (resolve_listed hfree hv hkept)

/-- Inside lists, the constant is representable exactly if the lists make it its class. -/
theorem isRepresentable_listed_none (hfree : ∀ v : TypeHint, v.isVoid = true → r.get? v = none)
    (ways : List ListForm) {registry : Option Registry} (hregistry : registry ∈ [none, some r]) :
    (listed ways .none).isRepresentable registry = .ok (!keepsNone ways) := by
  cases hkept : keepsNone ways with
  | true => exact isRepresentable_listed (hfree .none rfl) rfl (.inr hkept) hregistry
  | false =>
    rw [listed_none hkept]
    exact isRepresentable_listed (hfree noneType rfl) rfl (.inl nofun) hregistry

/-- Inside lists, the constant is refused for what its class is refused for, unless the lists keep
it: then it is not even representable. -/
theorem outcome_listed_none (demand : Demand)
    (hfree : ∀ v : TypeHint, v.isVoid = true → r.get? v = none) (ways : List ListForm) :
    demand.outcome r (listed ways .none) =
      demand.refused (demand.absence !keepsNone ways) (listed ways noneType).displayName := by
  cases hkept : keepsNone ways with
  | true =>
    have hname : (listed ways .none).displayName = (listed ways noneType).displayName :=
      displayName_listed ways rfl
    rw [outcome_listed demand (hfree .none rfl) rfl (.inr hkept), hname]
    rfl
  | false =>
    rw [listed_none hkept]
    exact outcome_listed demand (hfree noneType rfl) rfl (.inl nofun)

end Registry

namespace Session

/-- **The constant and its class differ in being representable only.** Inside lists of any depth,
with any registry whose links do not bring the absence of a type in under an annotation, every
demand is refused for both, under one name. The refusals are of one kind, unless the demand is for
output: it finds the class unlinked, and the constant not even representable. Both are treated alike
throughout exactly if the innermost list makes its element a type, and they are one hint then. -/
theorem absence_interchangeable_iff {strict : Bool} {calls : List LinkCall}
    (hcalls : ∀ call ∈ calls, call.annotatesVoid = false) {s : Session}
    (hs : s.registry = (Registry.new strict).run calls) (ways : List ListForm) :
    let constant := listed ways .none
    let absent := listed ways noneType
    (constant = absent ↔ keepsNone ways = false) ∧
    (∀ registry ∈ [none, some s.registry],
      absent.isRepresentable registry = .ok true ∧
        (constant.isRepresentable registry = absent.isRepresentable registry ↔
          keepsNone ways = false)) ∧
    ∀ demand : Demand,
      (access demand constant s).1 =
        demand.refused (demand.absence !keepsNone ways) absent.displayName ∧
      (access demand absent s).1 = demand.refused (demand.absence true) absent.displayName ∧
      ((access demand constant s).1.mapError AccessError.kindName =
          (access demand absent s).1.mapError AccessError.kindName ↔
        (∃ field, demand = .output field) → keepsNone ways = false) := by
  intro constant absent
  have hfree (v : TypeHint) (hv : v.isVoid = true) : s.registry.get? v = none := by
    rw [hs]
    exact Registry.get?_run_of_isVoid strict hcalls hv
  have hfreeClass := hfree noneType rfl
  have hconstant {registry : Option Registry} (h : registry ∈ [none, some s.registry]) :
      constant.isRepresentable registry = .ok (!keepsNone ways) :=
    Registry.isRepresentable_listed_none hfree ways h
  have habsent {registry : Option Registry} (h : registry ∈ [none, some s.registry]) :
      absent.isRepresentable registry = .ok true :=
    Registry.isRepresentable_listed hfreeClass rfl (.inl nofun) h
  have hrepresentable {registry : Option Registry} (h : registry ∈ [none, some s.registry]) :
      constant.isRepresentable registry = absent.isRepresentable registry ↔
        keepsNone ways = false := by
    rw [hconstant h, habsent h]
    cases keepsNone ways <;> simp
  refine ⟨⟨fun heq => ?_, listed_none⟩, fun registry h => ⟨habsent h, hrepresentable h⟩,
    fun demand => ?_⟩
  · exact (hrepresentable (List.mem_cons_self ..)).mp (by rw [heq])
  · have hrefusedConstant : (access demand constant s).1 =
        demand.refused (demand.absence !keepsNone ways) absent.displayName := by
      rw [access_eq_outcome]
      exact Registry.outcome_listed_none demand hfree ways
    have hrefusedAbsent : (access demand absent s).1 =
        demand.refused (demand.absence true) absent.displayName := by
      rw [access_eq_outcome]
      exact Registry.outcome_listed demand hfreeClass rfl (.inl nofun)
    refine ⟨hrefusedConstant, hrefusedAbsent, ?_⟩
    rw [hrefusedConstant, hrefusedAbsent]
    exact demand.absence_kind_iff (keepsNone ways) _

/-- A sequence of the typing module around an alias of lists, and inside it, on a registry that is
told to link the constant. -/
theorem absence_interchangeable_iff_collection :
    let calls : List LinkCall := [⟨.none, .named (.scalar "Null")⟩]
    let sequence := ListForm.apply "Sequence" Class.Builtin.sequence (by decide) (by decide)
    let list := ListForm.subscript Class.Builtin.list (by decide)
    let s : Session := { new true 0 with registry := (Registry.new true).run calls }
    (∀ call ∈ calls, call.annotatesVoid = false) ∧
      listed [sequence, list] .none ≠ listed [sequence, list] noneType ∧
      listed [list, sequence] .none = listed [list, sequence] noneType ∧
      (access .named (listed [sequence, list] .none) s).1 =
        Demand.named.refused .unmapped "Sequence[list[None]]" := by
  intro calls sequence list s
  have hcalls : ∀ call ∈ calls, call.annotatesVoid = false := by decide
  obtain ⟨hsame, -, haccess⟩ := absence_interchangeable_iff hcalls (s := s) rfl [sequence, list]
  obtain ⟨hsame', -, -⟩ := absence_interchangeable_iff hcalls (s := s) rfl [list, sequence]
  refine ⟨hcalls, fun heq => ?_, hsame'.mpr rfl, ?_⟩
  · exact absurd (hsame.mp heq) (by decide)
  · rw [(haccess .named).1]
    have hname : (listed [sequence, list] noneType).displayName = "Sequence[list[None]]" := by
      decide +kernel
    rw [hname]
    rfl

/-- On a new registry, the constant and its class differ as they are and in an alias of lists. -/
theorem none_not_representable :
    let s := new true 0
    ∀ ways ∈ [[], [ListForm.subscript Class.Builtin.list (by decide)]],
      (listed ways .none).isRepresentable (some s.registry) = .ok false ∧
      (listed ways noneType).isRepresentable (some s.registry) = .ok true ∧
      (access (.output (some "f")) (listed ways .none) s).1.mapError AccessError.kindName =
        .error "NotRepresentableError" ∧
      (access (.output (some "f")) (listed ways noneType) s).1.mapError AccessError.kindName =
        .error "UnmappedTypeError" := by
  intro s ways hways
  have hkept : keepsNone ways = true := by
    rcases List.mem_pair.mp hways with rfl | rfl <;> rfl
  have hnone : s.registry.get? .none = none := Registry.get?_new_of_isVoid true rfl
  have hclass : s.registry.get? noneType = none := Registry.get?_new_of_isVoid true rfl
  have hregistry : some s.registry ∈ [none, some s.registry] := List.mem_cons_of_mem _ (by simp)
  refine ⟨Registry.isRepresentable_listed hnone rfl (.inr hkept) hregistry,
    Registry.isRepresentable_listed hclass rfl (.inr hkept) hregistry, ?_, ?_⟩
  · rw [access_eq_outcome, Registry.outcome_listed _ hnone rfl (.inr hkept)]
    rfl
  · rw [access_eq_outcome, Registry.outcome_listed _ hclass rfl (.inr hkept)]
    rfl

end Session

end SchemaLink
