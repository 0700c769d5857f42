import SchemaLink.Proofs.HintContext
import SchemaLink.Proofs.HintOutline
import SchemaLink.Proofs.SchemaLayers

/-!
# Substituting deferred references

A field may refer to a class directly or defer it by name. The direct hint resolves through the link
of the class, the deferred one through a reference that is replaced once the schema is complete.
Both build the same tower, because the layers of a tower depend on the context of the hint alone,
and a replacement rebuilds every layer around what the reference names.
-/

namespace SchemaLink

namespace SchemaType

variable {types : List (String × SchemaType)} {u : SchemaType}

/-- A tower around a reference becomes the tower around what the reference names. -/
theorem replaceDeferred_tower {name : String} (h : types.lookup name = some u) (lists : Nat)
    (optional : Bool) :
    (tower lists optional (.deferred name)).replaceDeferred types =
      .ok (tower lists optional u) := by
  rw [replaceDeferred_of_deferred (innermost_tower lists optional (.deferred name)) h,
    withInnermost_tower]
  rfl

/-- The tower around a type that the layers of a context make. -/
def inContext (context : List TypeHint.Layer) (g : SchemaType) : SchemaType :=
  tower ((TypeHint.contextModifiers context).count .list)
    ((TypeHint.contextModifiers context).getLast? = some .optional) g

end SchemaType

namespace TypeHint

/-- A name that does not start with an opening parenthesis, as no identifier does, is normal. -/
theorem normalizeName_eq_self {name : String} (h : name.toList.head? ≠ some '(') :
    normalizeName name = name := by
  unfold normalizeName
  split
  case h_1 rest heq => simp [heq] at h
  case h_2 => rfl

/-- A name points to what it spells. -/
theorem referenceName_of_isName {t : TypeHint} (h : t.isName = true) :
    t.referenceName = normalizeName t.displayName := by
  rw [referenceName, target_of_isName h]

/-- A reference to a class points to the name of the class. -/
theorem referenceName_cls {c : Class} (hc : c ≠ Class.Builtin.noneType) :
    (cls c).referenceName = normalizeName c.name := by
  rw [referenceName, target_of_leaf (t := cls c) rfl, displayName, if_neg hc]

/-- The hints that defer a class by its name. -/
def deferrals (c : Class) : List TypeHint :=
  [text c.name, .forward c.name, reference (text c.name).asType, reference (.cls c)]

/-- A hint that is the same as a type as a deferral of a class is a reference to the name of the
class. -/
theorem classify_of_deferral {c : Class} (hc : c ≠ Class.Builtin.noneType) {deferral t : TypeHint}
    (hmem : deferral ∈ deferrals c) (h : t.asType = deferral.asType) :
    ∃ target, t.classify = some ⟨.reference, target⟩ ∧
      target.referenceName = normalizeName c.name := by
  have hforward (heq : t.asType = .forward c.name) : ∃ target,
      t.classify = some ⟨.reference, target⟩ ∧ target.referenceName = normalizeName c.name := by
    rcases eq_of_asType_eq_forward heq with rfl | rfl
    · exact ⟨_, rfl, referenceName_of_isName rfl⟩
    · exact ⟨_, rfl, referenceName_of_isName rfl⟩
  simp only [deferrals, List.mem_cons, List.not_mem_nil, or_false] at hmem
  rcases hmem with rfl | rfl | rfl | rfl
  · exact hforward h
  · exact hforward h
  · rw [eq_of_asType_eq h (fun _ => nofun) nofun]
    exact ⟨_, rfl, referenceName_of_isName rfl⟩
  · rw [eq_of_asType_eq h (fun _ => nofun) nofun]
    exact ⟨_, rfl, referenceName_cls hc⟩

/-- A deferral of a class leads over no modifiers to itself. -/
theorem leads_of_deferral {c : Class} {deferral : TypeHint} (hmem : deferral ∈ deferrals c) :
    Leads deferral [] deferral := by
  simp only [deferrals, List.mem_cons, List.not_mem_nil, or_false] at hmem
  rcases hmem with rfl | rfl | rfl | rfl
  all_goals exact leads_self (steps_of_reference rfl) (core_of_reference rfl) ⟨rfl, rfl⟩

/-- A class leads over no modifiers to itself, unless it is the class of absent values. -/
theorem leads_cls {c : Class} (hc : c ≠ Class.Builtin.noneType) : Leads (.cls c) [] (.cls c) := by
  have hsingle : (cls c).isNoneType = false := decide_eq_false hc
  exact leads_self (steps_of_leaf rfl) (core_of_leaf rfl) ⟨hsingle, rfl⟩

end TypeHint

open TypeHint hiding none

namespace Registry

/-- A hint that leads over the modifiers of a context resolves to the tower that its layers make
around the type of its core. -/
theorem resolve_of_leads (r : Registry) {filled t : TypeHint} {context : List Layer}
    (h : Leads filled (contextModifiers context) t)
    (hleaf : t.core.classify = none →
      t.core.unhashable? = none ∧ ∀ g, r.get? t.core = some g → g.isNullable = true)
    {g : SchemaType} (hcore : r.coreType t.core = some g) :
    r.resolve t = .ok (some (.inContext context g)) := by
  rw [r.resolve_eq_tower hleaf, hcore, h.listDepth_eq, endsOptional, h.last_eq]
  rfl

/-- **Deferring a class and linking it agree.** Whatever the registry and the context, a class that
is linked to a named type resolves to a tower around that type, and each deferral of the class to
the same tower around a reference, which becomes the former once the reference is replaced. -/
theorem resolve_deferral_eq_direct (r : Registry) {c : Class} {g : NamedType}
    {types : List (String × SchemaType)} (hc : c ≠ Class.Builtin.noneType)
    (hname : c.name.toList.head? ≠ some '(') (hlink : r.lookup (.cls c) = .ok (some (.named g)))
    (htypes : types.lookup c.name = some (.named g)) (context : List Layer) :
    r.resolve (fill context (.cls c)) = .ok (some (.inContext context (.named g))) ∧
    ∀ deferral ∈ deferrals c,
      r.resolve (fill context deferral) = .ok (some (.inContext context (.deferred c.name))) ∧
      (SchemaType.inContext context (.deferred c.name)).replaceDeferred types =
        .ok (.inContext context (.named g)) := by
  constructor
  · have hlead := (leads_cls hc).fill context
    have hcore : (fill context (.cls c)).core = .cls c :=
      eq_of_asType_eq hlead.core_eq (fun _ => nofun) fun h => hc (TypeHint.cls.inj h)
    have hget : r.get? (.cls c) = some (.named g) := Except.ok.inj hlink
    have hleaf : (TypeHint.cls c).classify = none := rfl
    refine r.resolve_of_leads hlead (fun _ => ?_) ?_
    · rw [hcore, hget]
      exact ⟨rfl, fun g' hg' => by obtain rfl := Option.some.inj hg'; rfl⟩
    · rw [hcore, r.coreType_of_leaf hleaf, hget]
  · intro deferral hmem
    have hlead := (leads_of_deferral hmem).fill context
    obtain ⟨target, hreference, htarget⟩ := classify_of_deferral hc hmem hlead.core_eq
    refine ⟨r.resolve_of_leads hlead (fun hleaf => ?_) ?_,
      SchemaType.replaceDeferred_tower htypes _ _⟩
    · rw [hreference] at hleaf
      cases hleaf
    · rw [r.coreType_of_reference hreference, htarget, normalizeName_eq_self hname]

/-- A list of annotated optional integers, linked or deferred, on a new registry. -/
theorem resolve_deferral_eq_direct_int :
    let context := [Layer.list (.subscript Class.Builtin.list (by decide)),
      .optional (.typing false), .annotated [text "m"]]
    let types := [("int", SchemaType.named (.scalar "Int"))]
    (new true).resolve (fill context (.cls Class.Builtin.int)) =
        .ok (some (.list (.named (.scalar "Int")))) ∧
      (new true).resolve (fill context (.forward "int")) =
        .ok (some (.list (.deferred "int"))) ∧
      (SchemaType.list (.deferred "int")).replaceDeferred types =
        .ok (.list (.named (.scalar "Int"))) := by
  intro context types
  have hlink : (new true).lookup (.cls Class.Builtin.int) =
      .ok (some (.named (.scalar "Int"))) := by
    simp [new, lookup, get?, unhashable?, isHashable, firstUnhashable, primitives, find?,
      identical, same]
  have htypes : types.lookup Class.Builtin.int.name = some (.named (.scalar "Int")) := rfl
  have hagree := resolve_deferral_eq_direct (new true) (by decide) (by decide) hlink htypes context
  have hmem : TypeHint.forward "int" ∈ deferrals Class.Builtin.int :=
    List.mem_cons_of_mem _ List.mem_cons_self
  exact ⟨hagree.1, hagree.2 _ hmem⟩

end Registry

end SchemaLink
