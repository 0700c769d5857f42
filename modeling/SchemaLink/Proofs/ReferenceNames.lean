import Mathlib.Data.List.TakeWhile
import SchemaLink.Proofs.DeferredSubstitution
import SchemaLink.Proofs.RecastNames

/-!
# Names of references

A reference is named after its innermost target, the leaf or the name that is reached by going down
through annotations, optional hints, lists and references, however they are mixed. Wrappers that are
put around a hint or taken from it therefore never change the name. The name is what the innermost
target is called, unless that starts with an opening parenthesis: then it is cut out between the
parenthesis and the first blank. An optional hint around a reference takes its non-null layer away
and nothing else, although the two resolve to the name in different ways.
-/

namespace SchemaLink

namespace TypeHint

/-- The leaf or the name that is reached from a hint by going down through all annotations and
wrappers. -/
structure InnermostTarget (t k : TypeHint) : Prop where
  onSpine : OnSpine t k
  atEnd : k.classify = Option.none ∨ k.isName = true

/-- A hint with wrappers around it, each in any of the forms in which it may be written. -/
inductive Enclosed (t : TypeHint) : TypeHint → Prop where
  | itself : Enclosed t t
  | list (way : ListForm) {u : TypeHint} (h : Enclosed t u) : Enclosed t (way.write u)
  /-- A union would take the absence of a value up as one more member. -/
  | optional (way : OptionalForm) {u : TypeHint} (h : Enclosed t u) (single : u.isUnion = false) :
      Enclosed t (way.write u)
  | reference {u : TypeHint} (h : Enclosed t u) : Enclosed t (reference u.asType)
  | annotated (metadata : List TypeHint) {u : TypeHint} (h : Enclosed t u) :
      Enclosed t (annotate u metadata)

section InnermostTarget

variable {t k : TypeHint}

/-- Annotations do not change the target, but for annotations around it. -/
theorem stripAnnotated_target_stripAnnotated (t : TypeHint) :
    t.stripAnnotated.target.stripAnnotated = t.target.stripAnnotated := by
  cases h : t.classify with
  | none =>
    have hstrip : t.stripAnnotated.classify = Option.none := by rw [classify_stripAnnotated, h]
    rw [target_of_leaf h, target_of_leaf hstrip, stripAnnotated_stripAnnotated]
  | some w =>
    have hstrip : t.stripAnnotated.classify = some w := by rw [classify_stripAnnotated, h]
    rw [target_of_wrapper h, target_of_wrapper hstrip]

/-- No annotation stands around a hint on the way down. -/
theorem OnSpine.stripAnnotated_eq (h : OnSpine t k) : k.stripAnnotated = k := by
  induction h with
  | here t => exact stripAnnotated_stripAnnotated t
  | inside _ _ ih => exact ih

/-- All hints on the way down have one target. -/
theorem OnSpine.target_eq (h : OnSpine t k) :
    k.target.stripAnnotated = t.target.stripAnnotated := by
  induction h with
  | here t => exact stripAnnotated_target_stripAnnotated t
  | inside hw _ ih => rw [ih, target_of_wrapper hw]

/-- The innermost target is the target without the annotations around it. -/
theorem InnermostTarget.eq (h : InnermostTarget t k) : k = t.target.stripAnnotated := by
  have htarget : k.target = k := by
    rcases h.atEnd with hleaf | hname
    · exact target_of_leaf hleaf
    · exact target_of_isName hname
  rw [← h.onSpine.target_eq, htarget, h.onSpine.stripAnnotated_eq]

/-- Every hint has an innermost target. -/
theorem exists_innermostTarget (t : TypeHint) : ∃ k, InnermostTarget t k := by
  induction t using target_induction with
  | leaf t h => exact ⟨_, .here t, .inl (by rw [classify_stripAnnotated, h])⟩
  | name t h => exact ⟨_, .here t, .inr h⟩
  | wrapper t w hw ih =>
    obtain ⟨k, hspine, hend⟩ := ih
    exact ⟨k, .inside hw hspine, hend⟩

/-- A reference is named after what its innermost target is called. -/
theorem InnermostTarget.referenceName_eq (h : InnermostTarget t k) :
    t.referenceName = normalizeName k.displayName := by
  rw [h.eq, displayName_stripAnnotated, referenceName]

end InnermostTarget

/-- Behind an opening parenthesis, the schema name is the text up to the first blank or the end. -/
theorem normalizeName_of_parenthesis {name : String} {rest : List Char}
    (h : name.toList = '(' :: rest) :
    ' ' ∉ (normalizeName name).toList ∧
      (rest = (normalizeName name).toList ∨
        ∃ after, rest = (normalizeName name).toList ++ ' ' :: after) := by
  have hcut : (normalizeName name).toList = rest.takeWhile (· ≠ ' ') := by
    simp only [normalizeName, h, String.toList_ofList]
  have hsplit := List.takeWhile_append_dropWhile (p := (· ≠ ' ')) (l := rest)
  rw [hcut]
  refine ⟨fun hmem => ?_, ?_⟩
  · have hother := List.mem_takeWhile_imp hmem
    simp at hother
  · cases hdrop : rest.dropWhile (· ≠ ' ') with
    | nil =>
      rw [hdrop, List.append_nil] at hsplit
      exact .inl hsplit.symm
    | cons c after =>
      have hstop := List.head?_dropWhile_not (· ≠ ' ') rest
      rw [hdrop] at hsplit hstop
      obtain rfl : c = ' ' := by simpa using hstop
      exact .inr ⟨after, hsplit.symm⟩

section Wrappers

variable {t target : TypeHint} {w : Wrapper}

/-- A wrapper gives a reference the name that the hint inside gives it. -/
theorem referenceName_of_wrapper (h : t.classify = some w) :
    t.referenceName = w.wrapped.referenceName := by
  rw [referenceName, target_of_wrapper h, referenceName]

/-- Annotations do not change the name of a reference. -/
theorem referenceName_stripAnnotated (t : TypeHint) :
    t.stripAnnotated.referenceName = t.referenceName := by
  rw [referenceName_eq, referenceName_eq, destination_stripAnnotated]

/-- A hint as a type gives a reference the same name. -/
theorem referenceName_asType (t : TypeHint) : t.asType.referenceName = t.referenceName := by
  rcases t.asType_cases with ⟨rfl, htype⟩ | ⟨s, rfl, htype⟩ | htype
  · rw [htype, referenceName, referenceName, target_of_leaf (t := none) rfl,
      target_of_leaf (t := noneType) rfl]
    rfl
  · rw [htype, referenceName_of_isName (t := text s) rfl, referenceName_of_isName rfl]
    rfl
  · rw [htype]

/-- A list gives a reference the name that its element gives it. -/
theorem ListForm.referenceName_write (way : ListForm) (t : TypeHint) :
    (way.write t).referenceName = t.referenceName := by
  obtain ⟨element, hkept, hclassify⟩ := (way.listOf_write t).classify_eq
  rw [referenceName_of_wrapper hclassify, referenceName_stripAnnotated]
  rcases hkept with rfl | rfl
  · rfl
  · exact referenceName_asType t

/-- The absence of a value, made optional, is its class. -/
theorem OptionalForm.write_none (way : OptionalForm) : way.write none = noneType := by
  have hclass : way.write none = way.write noneType := by
    rcases way with (_ | _) | (_ | _) <;> rfl
  rw [hclass, way.write_noneType]

/-- Absent values join a hint as a single type, unless the hint stands for their absence already or
is a union. -/
theorem isSingle_asType_or_isVoid (h : t.isUnion = false) :
    t.asType.IsSingle ∨ t.isVoid = true := by
  cases hvoid : t.isVoid with
  | true => exact .inr rfl
  | false =>
    obtain ⟨hne, hnone⟩ := isVoid_eq_false_iff.mp hvoid
    exact .inl (isSingle_asType hne hnone h)

/-- An optional hint gives a reference the name that the hint inside gives it, if that is no
union. -/
theorem OptionalForm.referenceName_write (way : OptionalForm) (h : t.isUnion = false) :
    (way.write t).referenceName = t.referenceName := by
  rcases isSingle_asType_or_isVoid h with hm | hvoid
  · have hoptional := way.optionalOf_write hm (.inl rfl)
    rw [referenceName_of_wrapper (hoptional.classify_eq hm), referenceName_stripAnnotated,
      referenceName_asType]
  · have hclass : way.write t = noneType := by
      rcases isVoid_iff.mp hvoid with rfl | rfl
      · exact way.write_none
      · exact way.write_noneType
    have htype : t.asType = noneType := by
      rcases isVoid_iff.mp hvoid with rfl | rfl <;> rfl
    rw [hclass, ← referenceName_asType t, htype]

/-- The marker of references gives a reference the name that the hint inside gives it. -/
theorem referenceName_reference (t : TypeHint) :
    (reference t).referenceName = t.referenceName := by
  have hclassify : (reference t).classify = some ⟨.reference, t.stripAnnotated⟩ := rfl
  rw [referenceName_of_wrapper hclassify, referenceName_stripAnnotated]

/-- Annotations that are put around a hint do not change the name of a reference. -/
theorem referenceName_annotate (t : TypeHint) (metadata : List TypeHint) :
    (annotate t metadata).referenceName = t.referenceName := by
  rw [← referenceName_stripAnnotated, (annotate_spec t metadata).2, referenceName_stripAnnotated,
    referenceName_asType]

/-- Wrappers around a hint do not change the name of a reference. -/
theorem Enclosed.referenceName_eq {u : TypeHint} (h : Enclosed t u) :
    u.referenceName = t.referenceName := by
  induction h with
  | itself => rfl
  | list way _ ih => rw [way.referenceName_write, ih]
  | optional way _ single ih => rw [way.referenceName_write single, ih]
  | reference _ ih => rw [referenceName_reference, referenceName_asType, ih]
  | annotated metadata _ ih => rw [referenceName_annotate, ih]

/-- A reference as a type is a reference, and absent values may join it. -/
theorem asType_of_reference (h : t.classify = some ⟨.reference, target⟩) :
    t.asType.IsSingle ∧ ∃ inner, t.asType.classify = some ⟨.reference, inner⟩ := by
  rcases t.asType_cases with ⟨rfl, -⟩ | ⟨s, rfl, htype⟩ | htype
  · cases h
  · rw [htype]
    exact ⟨⟨rfl, rfl⟩, _, rfl⟩
  · rw [htype]
    refine ⟨?_, _, h⟩
    cases t with
    | cls c => cases h
    | union flavour members => simp [classify, stripAnnotated, classifyBare] at h
    | _ => exact ⟨rfl, rfl⟩

end Wrappers

end TypeHint

open TypeHint hiding none

namespace Registry

variable {t target : TypeHint}

/-- A reference resolves to its name inside a non-null layer, and an optional hint around it to the
name alone. -/
theorem resolve_reference_and_optional (r : Registry)
    (h : t.classify = some ⟨.reference, target⟩) (way : OptionalForm) :
    r.resolve t = .ok (some (.nonNull (.deferred t.referenceName))) ∧
      r.resolve (way.write t) = .ok (some (.deferred t.referenceName)) := by
  obtain ⟨hm, inner, hinner⟩ := asType_of_reference h
  have hwrapped := ((way.optionalOf_write hm (.inl rfl)).classify_eq hm)
  have hreference : t.asType.stripAnnotated.classify = some ⟨.reference, inner⟩ := by
    rw [classify_stripAnnotated, hinner]
  constructor
  · rw [r.resolve_of_reference h, referenceName_of_wrapper h]
  · rw [r.resolve_of_optional_reference hwrapped hreference, ← referenceName_asType t,
      referenceName_of_wrapper hinner]

end Registry

namespace TypeHint

/-- **A reference is named after its innermost target.** Going down from a hint through annotations
and wrappers ends at one leaf or name, and what that is called decides the name: all of it, or the
text behind an opening parenthesis up to the first blank. Wrappers around a hint, in any order and
number, leave the name as it is. A reference resolves to a type inside a non-null layer, and an
optional hint around it to that very type. -/
theorem reference_named_after_innermost (t : TypeHint) :
    (∃! k, InnermostTarget t k) ∧
    (∀ k, InnermostTarget t k → t.referenceName = normalizeName k.displayName ∧
      (k.displayName.toList.head? ≠ some '(' → t.referenceName = k.displayName) ∧
      ∀ rest, k.displayName.toList = '(' :: rest →
        ' ' ∉ t.referenceName.toList ∧
          (rest = t.referenceName.toList ∨ ∃ after, rest = t.referenceName.toList ++ ' ' :: after)) ∧
    (∀ u, Enclosed t u → u.referenceName = t.referenceName) ∧
    ∀ (r : Registry) (target : TypeHint) (way : OptionalForm),
      t.classify = some ⟨.reference, target⟩ →
        ∃ g, r.resolve t = .ok (some (.nonNull g)) ∧ r.resolve (way.write t) = .ok (some g) := by
  refine ⟨?_, fun k hk => ?_, fun u hu => hu.referenceName_eq, fun r target way h => ?_⟩
  · obtain ⟨k, hk⟩ := exists_innermostTarget t
    exact ⟨k, hk, fun k' hk' => hk'.eq.trans hk.eq.symm⟩
  · have hname := hk.referenceName_eq
    refine ⟨hname, fun hhead => ?_, fun rest hrest => ?_⟩
    · rw [hname, normalizeName_eq_self hhead]
    · rw [hname]
      exact normalizeName_of_parenthesis hrest
  · exact ⟨_, r.resolve_reference_and_optional h way⟩

/-- A name that starts with a parenthesis points to the text inside it, under the marker of
references and in an optional list as well, and one that does not start so points to itself, which
resolves to a type that cannot be absent unless the name is optional. -/
theorem reference_named_after_innermost_parenthesis :
    let name := text "(Foo) -> Bar extra text"
    let node := TypeHint.forward "Node"
    let list := (ListForm.subscript Class.Builtin.list (by decide)).write name
    let u := TypeHint.reference ((OptionalForm.typing false).write list).asType
    (InnermostTarget name name ∧
      name.displayName.toList = '(' :: "Foo) -> Bar extra text".toList ∧
      ' ' ∉ name.referenceName.toList) ∧
    (InnermostTarget node node ∧ node.displayName.toList.head? ≠ some '(' ∧
      node.referenceName = "Node") ∧
    (Enclosed name u ∧ u.referenceName = "Foo)") ∧
    node.classify = some ⟨.reference, node⟩ ∧
      ∃ g, (Registry.new true).resolve node = .ok (some (.nonNull g)) ∧
        (Registry.new true).resolve ((OptionalForm.operator true).write node) = .ok (some g) := by
  intro name node list u
  have hname : InnermostTarget name name := ⟨.here name, .inr rfl⟩
  have hnode : InnermostTarget node node := ⟨.here node, .inr rfl⟩
  have henclosed : Enclosed name u := .reference (.optional _ (.list _ .itself) rfl)
  have hparenthesis : name.displayName.toList = '(' :: "Foo) -> Bar extra text".toList := by decide
  have hplain : node.displayName.toList.head? ≠ some '(' := by decide
  obtain ⟨-, hnamed, henclosure, -⟩ := reference_named_after_innermost name
  obtain ⟨-, hnodeNamed, -, hresolve⟩ := reference_named_after_innermost node
  refine ⟨⟨hname, hparenthesis, ((hnamed name hname).2.2 _ hparenthesis).1⟩,
    ⟨hnode, hplain, (hnodeNamed node hnode).2.1 hplain⟩, ⟨henclosed, ?_⟩, rfl,
    hresolve (.new true) node _ rfl⟩
  rw [henclosure u henclosed, (hnamed name hname).1]
  decide

end TypeHint

end SchemaLink
