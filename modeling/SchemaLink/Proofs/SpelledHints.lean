import SchemaLink.Hint.Expression
import SchemaLink.Proofs.AmbiguousKeys
import SchemaLink.Proofs.LinkMap

/-!
# Hints that can be spelled

The constructors of hints drop every member of a union that repeats an earlier one, and refuse to
annotate what may not carry metadata. A hint that an expression spells is therefore well-formed: no
union inside it has two members that are the same key, and no annotation inside it stands around a
constant or a raw container. Evaluation keeps this invariant for the hint that it gives and for all
hints that the workshop stores, by induction on the expression.
-/

namespace SchemaLink

namespace TypeHint

/-- No two members of a union are the same key, unless some member cannot be hashed. -/
def Distinct (members : List TypeHint) : Prop :=
  firstUnhashableOf members = Option.none → members.Pairwise fun m n => same n m = false

/-- The hints that a hint is made of. -/
def parts : TypeHint → List TypeHint
  | .newType _ _ t => [t]
  | .formAlias _ args | .generic _ _ args => args
  | .union _ members => members
  | .annotated t metadata => t :: metadata
  | .list _ items | .tuple items => items
  | .dict _ _ values => values
  | _ => []

/-- The outermost part of a hint is as its constructor leaves it: the members of a union are
distinct, and a hint that is annotated may carry metadata. -/
def IsMade : TypeHint → Prop
  | .union _ members => Distinct members
  | .annotated target _ => target.isAnnotatable = true
  | _ => True

/-- A hint and everything inside it is as the constructors leave it. -/
inductive WellFormed : TypeHint → Prop where
  | intro {t : TypeHint} (parts : ∀ p ∈ t.parts, WellFormed p) (made : t.IsMade) : WellFormed t

section Constructors

variable {t u : TypeHint} {ts : List TypeHint}

/-- The parts of a well-formed hint are well-formed. -/
theorem WellFormed.parts (h : t.WellFormed) : ∀ p ∈ t.parts, p.WellFormed := by
  cases h with
  | intro hparts _ => exact hparts

/-- The outermost part of a well-formed hint is as its constructor leaves it. -/
theorem WellFormed.made (h : t.WellFormed) : t.IsMade := by
  cases h with
  | intro _ hmade => exact hmade

/-- The members of a well-formed union are distinct. -/
theorem WellFormed.distinct {flavour : UnionFlavour} (h : (union flavour ts).WellFormed) :
    Distinct ts := h.made

/-- What is annotated in a well-formed hint may carry metadata. -/
theorem WellFormed.isAnnotatable (h : (annotated t ts).WellFormed) : t.isAnnotatable = true :=
  h.made

/-- A hint without parts is well-formed. -/
theorem wellFormed_of_parts_eq_nil (h : t.parts = []) : t.WellFormed := by
  refine .intro (fun p hp => by rw [h] at hp; cases hp) ?_
  cases t with
  | union flavour members =>
    obtain rfl : members = [] := h
    exact fun _ => .nil
  | annotated target metadata => cases h
  | _ => trivial

/-- No annotation stands around a constant in a well-formed hint. -/
theorem WellFormed.eq_of_stripAnnotated_eq_value {v : Value} (h : t.WellFormed)
    (hv : t.stripAnnotated = .value v) : t = .value v := by
  fun_induction TypeHint.stripAnnotated t with
  | case1 target metadata ih =>
    have htarget := ih (h.parts target List.mem_cons_self) hv
    have hannotatable := h.isAnnotatable
    rw [htarget] at hannotatable
    cases hannotatable
  | case2 => exact hv

/-- A well-formed hint is well-formed without its annotations. -/
theorem WellFormed.stripAnnotated (h : t.WellFormed) : t.stripAnnotated.WellFormed := by
  fun_induction TypeHint.stripAnnotated t with
  | case1 target metadata ih => exact ih (h.parts target List.mem_cons_self)
  | case2 => exact h

/-- A well-formed hint is well-formed as a type. -/
theorem WellFormed.asType (h : t.WellFormed) : t.asType.WellFormed := by
  unfold TypeHint.asType
  split
  · exact wellFormed_of_parts_eq_nil rfl
  · exact wellFormed_of_parts_eq_nil rfl
  · exact h

/-- Well-formed hints are well-formed as types. -/
theorem wellFormed_map_asType (h : ∀ t ∈ ts, t.WellFormed) :
    ∀ t ∈ ts.map TypeHint.asType, t.WellFormed := by
  intro t ht
  obtain ⟨u, hu, rfl⟩ := List.mem_map.mp ht
  exact (h u hu).asType

/-- What is left of the members of a union without repetitions is distinct. -/
theorem distinct_distinct (flavour : UnionFlavour) (ts : List TypeHint) :
    Distinct (distinct flavour ts) := by
  intro hhash
  rw [firstUnhashableOf_eq_none_iff] at hhash
  rw [distinct] at hhash ⊢
  split at hhash
  case isTrue hkeys =>
    rw [if_pos hkeys]
    exact (Registry.distinctBeside_pairwise same [] ts).1
  case isFalse hkeys =>
    rw [if_neg hkeys]
    have hpairwise := (Registry.distinctBeside_pairwise isEqual [] ts).1
    refine hpairwise.imp_of_mem fun {m n} hm hn hother => ?_
    refine Bool.eq_false_iff.mpr fun hsame => ?_
    have hequal := equals_of_same (hhash n hn) (hhash m hm) hsame
    simp [isEqual, hequal] at hother

/-- A union of well-formed hints is well-formed. -/
theorem wellFormed_mkUnion (flavour : UnionFlavour) (h : ∀ t ∈ ts, t.WellFormed) :
    (mkUnion flavour ts).WellFormed := by
  have hmembers : ∀ t ∈ ts.flatMap unionMembers, t.WellFormed := by
    intro m hm
    obtain ⟨t, ht, hm⟩ := List.mem_flatMap.mp hm
    unfold unionMembers at hm
    split at hm
    case h_1 => exact (h _ ht).parts m hm
    case h_2 =>
      rw [List.mem_singleton.mp hm]
      exact h t ht
  have hkept : ∀ t ∈ distinct flavour (ts.flatMap unionMembers), t.WellFormed := by
    intro m hm
    rw [distinct] at hm
    split at hm
    · exact hmembers m (Registry.mem_of_mem_distinctBeside hm)
    · exact hmembers m (Registry.mem_of_mem_distinctBeside hm)
  unfold mkUnion
  split
  case h_1 single heq => exact hkept single (by rw [heq]; exact List.mem_cons_self)
  case h_2 => exact .intro hkept (distinct_distinct flavour _)

/-- A union of the typing module of well-formed hints is well-formed. -/
theorem wellFormed_unionOf (h : ∀ t ∈ ts, t.WellFormed) : (unionOf ts).WellFormed :=
  wellFormed_mkUnion .typing (wellFormed_map_asType h)

/-- A well-formed hint that may be absent is well-formed. -/
theorem WellFormed.optional (h : t.WellFormed) : (optional t).WellFormed := by
  refine wellFormed_unionOf fun u hu => ?_
  simp only [List.mem_cons, List.not_mem_nil, or_false] at hu
  rcases hu with rfl | rfl
  · exact h
  · exact wellFormed_of_parts_eq_nil rfl

/-- The alternatives of well-formed hints are well-formed. -/
theorem wellFormed_alternatives (h : ∀ t ∈ ts, t.WellFormed) : (alternatives ts).WellFormed := by
  cases ts with
  | nil => exact wellFormed_of_parts_eq_nil rfl
  | cons first rest =>
    rw [alternatives]
    have hfirst := h first List.mem_cons_self
    replace h : ∀ t ∈ rest, t.WellFormed := fun t ht => h t (List.mem_cons_of_mem _ ht)
    induction rest generalizing first with
    | nil => exact hfirst
    | cons second rest ih =>
      refine ih (either first second) ?_ fun t ht => h t (List.mem_cons_of_mem _ ht)
      refine wellFormed_mkUnion _ fun t ht => ?_
      simp only [List.mem_cons, List.not_mem_nil, or_false] at ht
      rcases ht with rfl | rfl
      · exact hfirst.asType
      · exact (h second List.mem_cons_self).asType

/-- A well-formed hint that may carry metadata is well-formed with well-formed metadata. -/
theorem WellFormed.annotate (h : t.WellFormed) (hts : ∀ m ∈ ts, m.WellFormed)
    (hu : annotate? t ts = some u) : u.WellFormed := by
  obtain ⟨htarget, -, rfl⟩ := annotate?_eq_some_iff.mp hu
  have htype := h.asType
  unfold TypeHint.annotate
  split
  case h_1 inner earlier heq =>
    rw [heq] at htype
    obtain ⟨hinner, hearlier⟩ := List.forall_mem_cons.mp htype.parts
    have hmetadata := List.forall_mem_append.mpr ⟨hearlier, hts⟩
    exact .intro (List.forall_mem_cons.mpr ⟨hinner, hmetadata⟩) htype.isAnnotatable
  case h_2 => exact .intro (List.forall_mem_cons.mpr ⟨htype, hts⟩) htarget

/-- Well-formed arguments of a callable are well-formed when its parameter list is opened. -/
theorem wellFormed_callableArgs (h : ∀ t ∈ ts, t.WellFormed) :
    ∀ t ∈ callableArgs ts, t.WellFormed := by
  have opened {first : TypeHint} {result : List TypeHint}
      (h : ∀ t ∈ first :: result, t.WellFormed) : ∀ t ∈ first.parts ++ result, t.WellFormed := by
    obtain ⟨hfirst, hresult⟩ := List.forall_mem_cons.mp h
    exact List.forall_mem_append.mpr ⟨hfirst.parts, hresult⟩
  unfold callableArgs
  split
  case h_1 => exact opened h
  case h_2 => exact opened h
  case h_3 => exact h

/-- An alias keeps its arguments well-formed. -/
theorem wellFormed_aliasArgs (flavour : AliasFlavour) (origin : Class)
    (h : ∀ t ∈ ts, t.WellFormed) : ∀ t ∈ aliasArgs flavour origin ts, t.WellFormed := by
  have hargs : ∀ t ∈ (if origin = Class.Builtin.callable then callableArgs ts else ts),
      t.WellFormed := by
    split
    · exact wellFormed_callableArgs h
    · exact h
  cases flavour with
  | builtin => exact hargs
  | typing => exact wellFormed_map_asType hargs

/-- An alias of well-formed arguments is well-formed. -/
theorem wellFormed_alias (flavour : AliasFlavour) (origin : Class)
    (h : ∀ t ∈ ts, t.WellFormed) :
    (generic flavour origin (aliasArgs flavour origin ts)).WellFormed :=
  .intro (wellFormed_aliasArgs flavour origin h) trivial

/-- A name of the typing module is well-formed. -/
theorem wellFormed_named (name : String) : (named name).WellFormed := by
  unfold named
  split
  · exact wellFormed_of_parts_eq_nil rfl
  · split <;> exact wellFormed_of_parts_eq_nil rfl

/-- A name of the typing module with well-formed arguments is well-formed. -/
theorem wellFormed_applyForm (name : String) (h : ∀ t ∈ ts, t.WellFormed) :
    (applyForm name ts).WellFormed := by
  unfold applyForm
  split
  case h_1 => exact wellFormed_unionOf h
  case h_2 t => exact (h t List.mem_cons_self).optional
  case h_3 => exact wellFormed_of_parts_eq_nil rfl
  case h_4 =>
    split
    · exact wellFormed_alias _ _ h
    · split
      · exact .intro (wellFormed_map_asType h) trivial
      · exact .intro (wellFormed_map_asType h) trivial

/-- What a name of the typing module makes of well-formed arguments is well-formed. -/
theorem wellFormed_applyForm? (name : String) (h : ∀ t ∈ ts, t.WellFormed)
    (hu : applyForm? name ts = some u) : u.WellFormed := by
  unfold applyForm? at hu
  split at hu
  case h_1 t metadata =>
    refine (h t List.mem_cons_self).annotate (fun m hm => ?_) hu
    exact h m (List.mem_cons_of_mem _ hm)
  case h_2 => cases hu
  case h_3 =>
    obtain rfl := Option.some.inj hu
    exact wellFormed_applyForm name h

/-- A reference to a well-formed hint is well-formed. -/
theorem WellFormed.reference (h : t.WellFormed) : (reference t.asType).WellFormed := by
  refine .intro (fun p hp => ?_) trivial
  rw [List.mem_singleton.mp hp]
  exact h.asType

end Constructors

end TypeHint

namespace Workshop

/-- All hints that a workshop stores are well-formed. -/
structure Sound (w : Workshop) : Prop where
  objects : ∀ entry ∈ w.objects, entry.2.WellFormed
  typeVars : ∀ entry ∈ w.typeVars, entry.2.WellFormed
  newTypes : ∀ entry ∈ w.newTypes, entry.2.WellFormed
  vars : ∀ entry ∈ w.vars, entry.2.WellFormed

variable {w : Workshop}

/-- What a lookup finds stands in the list. -/
theorem mem_of_lookup_eq_some {α β : Type} [BEq α] [LawfulBEq α] {key : α} {value : β}
    {entries : List (α × β)} (h : entries.lookup key = some value) : (key, value) ∈ entries := by
  obtain ⟨before, after, rfl, -⟩ := List.lookup_eq_some_iff.mp h
  exact List.mem_append_right _ List.mem_cons_self

/-- A workshop that has made nothing is sound. -/
theorem sound_new (classes : List Class) : Sound { classes } :=
  ⟨nofun, nofun, nofun, nofun⟩

/-- Making a token keeps a workshop sound. -/
theorem Sound.fresh (hw : w.Sound) : w.fresh.2.Sound :=
  ⟨hw.objects, hw.typeVars, hw.newTypes, hw.vars⟩

/-- Making a constant keeps a workshop sound. -/
theorem Sound.constant (hw : w.Sound) (v : Value) :
    (w.constant v).1.WellFormed ∧ (w.constant v).2.Sound := by
  unfold Workshop.constant
  split
  · exact ⟨TypeHint.wellFormed_of_parts_eq_nil rfl, hw.fresh⟩
  · exact ⟨TypeHint.wellFormed_of_parts_eq_nil rfl, hw⟩

/-- What is made once for each label is well-formed if all that was made before is. -/
theorem wellFormed_once (label : String) {t : TypeHint} {made : List (String × TypeHint)}
    (ht : t.WellFormed) (hmade : ∀ entry ∈ made, entry.2.WellFormed) :
    (once label t made).1.WellFormed ∧ ∀ entry ∈ (once label t made).2, entry.2.WellFormed := by
  unfold once
  split
  case h_1 earlier heq => exact ⟨hmade _ (mem_of_lookup_eq_some heq), hmade⟩
  case h_2 => exact ⟨ht, List.forall_mem_cons.mpr ⟨ht, hmade⟩⟩

/-- Making an object keeps a workshop sound. -/
theorem Sound.object (hw : w.Sound) (label : String) (name : Option String) (text : String) :
    (w.object label name text).1.WellFormed ∧ (w.object label name text).2.Sound := by
  have hmade : (TypeHint.object label name text).WellFormed :=
    TypeHint.wellFormed_of_parts_eq_nil rfl
  obtain ⟨ht, hobjects⟩ := wellFormed_once label hmade hw.objects
  exact ⟨ht, hobjects, hw.typeVars, hw.newTypes, hw.vars⟩

/-- Making a type variable keeps a workshop sound. -/
theorem Sound.typeVar (hw : w.Sound) (label name : String) :
    (w.typeVar label name).1.WellFormed ∧ (w.typeVar label name).2.Sound := by
  have hmade : (TypeHint.typeVar label name).WellFormed := TypeHint.wellFormed_of_parts_eq_nil rfl
  obtain ⟨ht, htypeVars⟩ := wellFormed_once label hmade hw.typeVars
  exact ⟨ht, hw.objects, htypeVars, hw.newTypes, hw.vars⟩

/-- Making a new type of a well-formed hint keeps a workshop sound. -/
theorem Sound.newType (hw : w.Sound) (label name : String) {underlying : TypeHint}
    (h : underlying.WellFormed) :
    (w.newType label name underlying).1.WellFormed ∧ (w.newType label name underlying).2.Sound := by
  have hmade : (TypeHint.newType label name underlying).WellFormed := by
    refine .intro (fun p hp => ?_) trivial
    rw [List.mem_singleton.mp hp]
    exact h
  obtain ⟨ht, hnewTypes⟩ := wellFormed_once label hmade hw.newTypes
  exact ⟨ht, hw.objects, hw.typeVars, hnewTypes, hw.vars⟩

/-- Binding a name to a well-formed hint keeps a workshop sound. -/
theorem Sound.bind (hw : w.Sound) (name : String) {t : TypeHint} (h : t.WellFormed) :
    Sound { w with vars := (name, t) :: w.vars } :=
  ⟨hw.objects, hw.typeVars, hw.newTypes, List.forall_mem_cons.mpr ⟨h, hw.vars⟩⟩

end Workshop

namespace HintExpr

open TypeHint

/-- What is made of well-formed results of an evaluation, if anything, is well-formed. -/
theorem sound_of_bind {α : Type} {P : α → Prop} {f : α → Option TypeHint}
    {evaluated : Option (α × Workshop)} {t : TypeHint} {w : Workshop}
    (hevaluated : ∀ a w, evaluated = some (a, w) → P a ∧ w.Sound)
    (hf : ∀ a, P a → ∀ {u}, f a = some u → u.WellFormed)
    (h : (evaluated.bind fun (a, w) => (f a).map fun t => (t, w)) = some (t, w)) :
    t.WellFormed ∧ w.Sound := by
  obtain ⟨⟨a, w₁⟩, ha, hmade⟩ := Option.bind_eq_some_iff.mp h
  obtain ⟨u, hu, heq⟩ := Option.map_eq_some_iff.mp hmade
  obtain ⟨rfl, rfl⟩ := Prod.mk.inj heq
  obtain ⟨hP, hw⟩ := hevaluated a w₁ ha
  exact ⟨hf a hP hu, hw⟩

/-- What is made of well-formed results of an evaluation is well-formed. -/
theorem sound_of_map {α : Type} {P : α → Prop} {f : α → TypeHint}
    {evaluated : Option (α × Workshop)} {t : TypeHint} {w : Workshop}
    (hevaluated : ∀ a w, evaluated = some (a, w) → P a ∧ w.Sound)
    (hf : ∀ a, P a → (f a).WellFormed)
    (h : evaluated.map (fun (a, w) => (f a, w)) = some (t, w)) : t.WellFormed ∧ w.Sound := by
  refine sound_of_bind (f := fun a => some (f a)) hevaluated (fun a ha u hu => ?_) ?_
  · obtain rfl := Option.some.inj hu
    exact hf a ha
  · rwa [Option.map_eq_bind] at h

mutual

/-- An expression spells a well-formed hint in a sound workshop, which stays sound. -/
theorem eval_sound : ∀ (e : HintExpr) {w w' : Workshop} {t : TypeHint}, w.Sound →
    e.eval w = some (t, w') → t.WellFormed ∧ w'.Sound
  | .value v, w, w', t, hw, h => by
    have hmade := hw.constant v
    rwa [Option.some.inj h] at hmade
  | .cls id, w, w', t, hw, h => by
    obtain ⟨c, -, heq⟩ := Option.map_eq_some_iff.mp h
    cases heq
    exact ⟨wellFormed_of_parts_eq_nil rfl, hw⟩
  | .forward name, w, w', t, hw, h => by
    cases h
    exact ⟨wellFormed_of_parts_eq_nil rfl, hw⟩
  | .typeVar label name, w, w', t, hw, h => by
    have hmade := hw.typeVar label name
    rwa [Option.some.inj h] at hmade
  | .newType label name underlying, w, w', t, hw, h => by
    obtain ⟨⟨u, w₁⟩, hu, heq⟩ := Option.map_eq_some_iff.mp h
    obtain ⟨hu, hw₁⟩ := eval_sound underlying hw hu
    have hmade := hw₁.newType label name hu
    change w₁.newType label name u = (t, w') at heq
    rwa [heq] at hmade
  | .object label name text, w, w', t, hw, h => by
    have hmade := hw.object label name text
    rwa [Option.some.inj h] at hmade
  | .list items, w, w', t, hw, h => by
    obtain ⟨⟨ts, w₁⟩, hts, heq⟩ := Option.map_eq_some_iff.mp h
    obtain ⟨hts, hw₁⟩ := evalAll_sound items hw hts
    cases heq
    exact ⟨.intro hts trivial, hw₁.fresh⟩
  | .tuple items, w, w', t, hw, h =>
    sound_of_map (f := TypeHint.tuple) (fun _ _ => evalAll_sound items hw)
      (fun _ hts => .intro hts trivial) h
  | .dict keys values, w, w', t, hw, h => by
    obtain ⟨⟨ts, w₁⟩, hts, heq⟩ := Option.map_eq_some_iff.mp h
    obtain ⟨hts, hw₁⟩ := evalAll_sound values hw hts
    cases heq
    exact ⟨.intro hts trivial, hw₁.fresh⟩
  | .var name, w, w', t, hw, h => by
    obtain ⟨u, hu, heq⟩ := Option.map_eq_some_iff.mp h
    cases heq
    exact ⟨hw.vars _ (Workshop.mem_of_lookup_eq_some hu), hw⟩
  | .subscript id args, w, w', t, hw, h => by
    rw [HintExpr.eval] at h
    split at h
    · cases h
    · next c _ =>
      exact sound_of_map (fun _ _ => evalAll_sound args hw) (fun _ => wellFormed_alias _ c) h
  | .form name, w, w', t, hw, h => by
    cases h
    exact ⟨wellFormed_named name, hw⟩
  | .apply name args, w, w', t, hw, h =>
    sound_of_bind (fun _ _ => evalAll_sound args hw)
      (fun _ hts _ hu => wellFormed_applyForm? name hts hu) h
  | .union members, w, w', t, hw, h =>
    sound_of_map (fun _ _ => evalAll_sound members hw) (fun _ => wellFormed_unionOf) h
  | .optional target, w, w', t, hw, h =>
    sound_of_map (fun _ _ => eval_sound target hw) (fun _ => WellFormed.optional) h
  | .either members, w, w', t, hw, h =>
    sound_of_map (fun _ _ => evalAll_sound members hw) (fun _ => wellFormed_alternatives) h
  | .reference target, w, w', t, hw, h =>
    sound_of_map (fun _ _ => eval_sound target hw) (fun _ => WellFormed.reference) h
  | .annotated target metadata, w, w', t, hw, h => by
    rw [HintExpr.eval] at h
    split at h
    · cases h
    · next u w₁ hu =>
      obtain ⟨hu, hw₁⟩ := eval_sound target hw hu
      exact sound_of_bind (fun _ _ => evalAll_sound metadata hw₁)
        (fun _ hts _ hmade => hu.annotate hts hmade) h
  | .literal items, w, w', t, hw, h =>
    sound_of_map (fun _ _ => evalAll_sound items hw)
      (fun _ _ => wellFormed_of_parts_eq_nil rfl) h

/-- Several expressions spell well-formed hints in a sound workshop, which stays sound. -/
theorem evalAll_sound : ∀ (es : List HintExpr) {w w' : Workshop} {ts : List TypeHint}, w.Sound →
    HintExpr.evalAll es w = some (ts, w') → (∀ t ∈ ts, t.WellFormed) ∧ w'.Sound
  | [], w, w', ts, hw, h => by
    cases h
    exact ⟨nofun, hw⟩
  | e :: es, w, w', ts, hw, h => by
    rw [HintExpr.evalAll] at h
    split at h
    · cases h
    · next t w₁ he =>
      obtain ⟨ht, hw₁⟩ := eval_sound e hw he
      obtain ⟨⟨us, w₂⟩, hes, heq⟩ := Option.map_eq_some_iff.mp h
      cases heq
      obtain ⟨hus, hw₂⟩ := evalAll_sound es hw₁ hes
      exact ⟨List.forall_mem_cons.mpr ⟨ht, hus⟩, hw₂⟩

end

end HintExpr

/-- Binding names in order keeps a workshop sound. -/
theorem Workshop.bindAll_sound {bindings : List (String × HintExpr)} {w w' : Workshop}
    (hw : w.Sound) (h : bindAll bindings w = some w') : w'.Sound := by
  induction bindings generalizing w with
  | nil =>
    cases h
    exact hw
  | cons binding rest ih =>
    rw [bindAll] at h
    split at h
    · cases h
    · next t w₁ he =>
      obtain ⟨ht, hw₁⟩ := HintExpr.eval_sound binding.2 hw he
      exact ih (hw₁.bind binding.1 ht) h

namespace TypeHint

/-- A hint that an expression spells, with some classes and with names that were bound before. -/
def Spelled (t : TypeHint) : Prop :=
  ∃ (classes : List Class) (bindings : List (String × HintExpr)) (e : HintExpr) (w w' : Workshop),
    Workshop.bindAll bindings { classes } = some w ∧ e.eval w = some (t, w')

/-- Every hint that can be spelled is well-formed. -/
theorem Spelled.wellFormed {t : TypeHint} (h : t.Spelled) : t.WellFormed := by
  obtain ⟨classes, bindings, e, w, w', hw, he⟩ := h
  exact (HintExpr.eval_sound e (Workshop.bindAll_sound (Workshop.sound_new classes) hw) he).1

end TypeHint

end SchemaLink
