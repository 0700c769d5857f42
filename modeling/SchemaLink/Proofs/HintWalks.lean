import Mathlib.Logic.Relation
import SchemaLink.Proofs.HintContext
import SchemaLink.Proofs.SingleEntry

/-!
# Walks down a hint

The name of a reference, the schema type of a hint and its representability are found by walking
down the wrappers of the hint, turn by turn. A wrapper holds a proper part of the hint, except that
a name on its own holds itself, so that a walk that went on from a name would never end. Each walk
keeps out of that circle in its own way. The one for a name stops at a hint that holds itself, and
therefore takes one more turn if annotations stand around the name; the one for a schema type only
goes on from optional hints and lists; and the one for representability takes names on trust. All
three end after a turn for each wrapper and at most two more, with the answers of the functions that
are defined by them.
-/

namespace SchemaLink

/-- What one turn of a walk comes to: an answer, or a hint to go on with and what is made of the
answer for that. -/
inductive Turn (α : Type) where
  | done (answer : α)
  | goOn (t : TypeHint) (back : α → α)

namespace Turn

variable {α : Type}

/-- The hint that a turn goes on with. -/
def next? : Turn α → Option TypeHint
  | done _ => none
  | goOn t _ => some t

/-- The answer that a turn leads to, if every hint is answered as given. -/
def answer (given : TypeHint → α) : Turn α → α
  | done a => a
  | goOn t back => back (given t)

/-- The answer of a walk that takes so many turns at most. There is none if the walk goes on after
them. -/
def walk (turn : TypeHint → Turn α) : Nat → TypeHint → Option α
  | 0, _ => none
  | n + 1, t =>
    match turn t with
    | done a => some a
    | goOn u back => (walk turn n u).map back

/-- A walk ends if every turn that goes on lowers a rank, and then answers as any function does that
is answered turn by turn. -/
theorem walk_eq_some {turn : TypeHint → Turn α} {f : TypeHint → α} (rank : TypeHint → Nat)
    (hf : ∀ t, f t = (turn t).answer f)
    (hrank : ∀ t u, (turn t).next? = some u → rank u < rank t) {n : Nat} {t : TypeHint}
    (h : rank t < n) : walk turn n t = some (f t) := by
  induction n generalizing t with
  | zero => exact absurd h (Nat.not_lt_zero _)
  | succ n ih =>
    rw [walk, hf]
    cases hturn : turn t with
    | done a => rfl
    | goOn u back =>
      have hlt : rank u < rank t := hrank t u (by rw [hturn]; rfl)
      simp only [ih (Nat.lt_of_lt_of_le hlt (Nat.le_of_lt_succ h)), Option.map_some, answer]

end Turn

namespace TypeHint

/-- A hint is a part of another one, or a part of a part, and so on. -/
def Inside (u t : TypeHint) : Prop := Relation.TransGen (fun p q => p ∈ q.parts) u t

section Inside

variable {t u : TypeHint} {w : Wrapper}

/-- A part of a hint is smaller than the hint. -/
theorem sizeOf_lt_of_mem_parts (h : u ∈ t.parts) : sizeOf u < sizeOf t := by
  cases t with
  | newType label name underlying =>
    obtain rfl := List.mem_singleton.mp h
    rw [newType.sizeOf_spec]
    omega
  | annotated target metadata =>
    rw [annotated.sizeOf_spec]
    rcases List.mem_cons.mp h with rfl | hmem
    · omega
    · have := List.sizeOf_lt_of_mem hmem
      omega
  | formAlias _ parts | generic _ _ parts | union _ parts | list _ parts | tuple parts
  | dict _ _ parts =>
    have hmem : u ∈ parts := h
    have := List.sizeOf_lt_of_mem hmem
    simp only [formAlias.sizeOf_spec, generic.sizeOf_spec, union.sizeOf_spec, list.sizeOf_spec,
      tuple.sizeOf_spec, dict.sizeOf_spec]
    omega
  | _ => cases h

/-- A part of a hint is inside it. -/
theorem inside_of_mem_parts (h : u ∈ t.parts) : Inside u t := .single h

/-- What is inside a hint is smaller than the hint. -/
theorem Inside.sizeOf_lt (h : Inside u t) : sizeOf u < sizeOf t := by
  induction h with
  | single hpart => exact sizeOf_lt_of_mem_parts hpart
  | tail _ hpart ih => exact Nat.lt_trans ih (sizeOf_lt_of_mem_parts hpart)

/-- The hint below all annotations is the hint itself or inside it. -/
theorem stripAnnotated_eq_or_inside (t : TypeHint) :
    t.stripAnnotated = t ∨ Inside t.stripAnnotated t := by
  fun_induction stripAnnotated t with
  | case1 target metadata ih =>
    have hpart : target ∈ (annotated target metadata).parts := List.mem_cons_self
    rcases ih with heq | hinside
    · rw [heq]
      exact .inr (.single hpart)
    · exact .inr (hinside.tail hpart)
  | case2 => exact .inl rfl

/-- What is below all annotations of something inside a hint is inside the hint. -/
theorem Inside.stripAnnotated (h : Inside u t) : Inside u.stripAnnotated t := by
  rcases u.stripAnnotated_eq_or_inside with heq | hinside
  · rwa [heq]
  · exact hinside.trans h

/-- A wrapper holds something inside the hint below all annotations, unless that hint is a name,
which holds itself as a reference. -/
theorem inside_or_isName_of_classify (h : t.classify = some w) :
    Inside w.wrapped t.stripAnnotated ∨
      t.stripAnnotated.isName = true ∧ w = ⟨.reference, t.stripAnnotated⟩ := by
  obtain ⟨hname, -⟩ | ⟨p, hp, heq⟩ := exists_part_of_classify h
  · have hself := classify_of_isName hname
    rw [classify_stripAnnotated, h] at hself
    exact .inr ⟨hname, Option.some.inj hself⟩
  · rw [heq]
    exact .inl (inside_of_mem_parts hp).stripAnnotated

/-- A wrapper other than a name holds something inside the hint. -/
theorem inside_of_classify (h : t.classify = some w) (hw : w.wrapped ≠ t) :
    Inside w.wrapped t := by
  have hstrip := t.stripAnnotated_eq_or_inside
  rcases inside_or_isName_of_classify h with hinside | ⟨-, rfl⟩
  · rcases hstrip with heq | hbelow
    · rwa [heq] at hinside
    · exact hinside.trans hbelow
  · exact hstrip.resolve_left hw

/-- Only a name holds itself. -/
theorem wrapped_eq_self_iff (h : t.classify = some w) : w.wrapped = t ↔ t.isName = true := by
  constructor
  · intro hself
    rcases inside_or_isName_of_classify h with hinside | ⟨hname, rfl⟩
    · have hlt := hinside.sizeOf_lt
      have hle := sizeOf_stripAnnotated_le t
      rw [hself] at hlt
      omega
    · rwa [show t.stripAnnotated = t from hself] at hname
  · intro hname
    rw [classify_of_isName hname] at h
    exact (Option.some.inj h) ▸ rfl

end Inside

/-- The number of wrappers around the leaf or the name at the end, without the one by which the name
is a reference. -/
def depth (t : TypeHint) : Nat :=
  match _hw : t.classify with
  | some w => if _hname : w.isNamed then 0 else depth w.wrapped + 1
  | Option.none => 0
termination_by sizeOf t
decreasing_by
  rcases classify_wrapped _hw with hlt | ⟨hn, rfl⟩
  · exact hlt
  · exact absurd (by simp [Wrapper.isNamed, hn]) _hname

/-- A wrapper that is not a reference to a name adds one to the depth of the hint inside. -/
theorem depth_of_wrapper {t : TypeHint} {w : Wrapper} (h : t.classify = some w)
    (hnamed : w.isNamed = false) : t.depth = w.wrapped.depth + 1 := by
  rw [depth]
  split <;> simp_all

/-- A reference to a name is at the end. -/
theorem depth_of_named {t : TypeHint} {w : Wrapper} (h : t.classify = some w)
    (hnamed : w.isNamed = true) : t.depth = 0 := by
  rw [depth]
  split <;> simp_all

/-- A wrapper that is no reference to a name holds something inside a hint that is no name. -/
theorem inside_of_not_isNamed {t : TypeHint} {w : Wrapper} (h : t.classify = some w)
    (hnamed : w.isNamed = false) : Inside w.wrapped t ∧ t.stripAnnotated.isName = false := by
  cases hname : t.stripAnnotated.isName with
  | true =>
    have hself := classify_of_isName hname
    rw [classify_stripAnnotated, h] at hself
    obtain rfl := Option.some.inj hself
    simp [Wrapper.isNamed, hname] at hnamed
  | false =>
    refine ⟨inside_of_classify h fun hself => ?_, rfl⟩
    have hbare := (wrapped_eq_self_iff h).mp hself
    rw [stripAnnotated_of_isName hbare, hbare] at hname
    cases hname

/-- A walk goes on only with what a wrapper holds that is no reference to a name. -/
def PassesWrappers {α : Type} (turn : TypeHint → Turn α) : Prop :=
  ∀ t u, (turn t).next? = some u → ∃ w, t.classify = some w ∧ w.wrapped = u ∧ w.isNamed = false

namespace PassesWrappers

variable {α : Type} {turn : TypeHint → Turn α} {t u : TypeHint}

/-- Such a walk goes on with something inside the hint. -/
theorem inside (h : PassesWrappers turn) (hnext : (turn t).next? = some u) : Inside u t := by
  obtain ⟨w, hw, rfl, hnamed⟩ := h t u hnext
  exact (inside_of_not_isNamed hw hnamed).1

/-- Such a walk ends at a name, with or without annotations around it. -/
theorem next?_of_name (h : PassesWrappers turn) (hname : t.stripAnnotated.isName = true) :
    (turn t).next? = Option.none := by
  cases hnext : (turn t).next? with
  | none => rfl
  | some u =>
    obtain ⟨w, hw, -, hnamed⟩ := h t u hnext
    rw [(inside_of_not_isNamed hw hnamed).2] at hname
    cases hname

/-- Such a walk takes a turn for each wrapper and one more. -/
theorem walk_eq_some (h : PassesWrappers turn) {f : TypeHint → α}
    (hf : ∀ t, f t = (turn t).answer f) {n : Nat} (hn : t.depth + 1 ≤ n) :
    Turn.walk turn n t = some (f t) := by
  refine Turn.walk_eq_some depth hf (fun t u hnext => ?_) hn
  obtain ⟨w, hw, rfl, hnamed⟩ := h t u hnext
  rw [depth_of_wrapper hw hnamed]
  exact Nat.lt_succ_self _

end PassesWrappers

open Classical in
/-- A turn of the walk to the target of a reference: it goes on with the hint inside a wrapper,
unless that is the very hint it has come to. -/
noncomputable def targetTurn (t : TypeHint) : Turn TypeHint :=
  match t.classify with
  | Option.none => .done t
  | some w => if w.wrapped = t then .done t else .goOn w.wrapped id

/-- A turn of the walk that finds out whether a hint is representable: it goes on with the hint
inside a wrapper, unless that is a name. -/
def representableTurn (registry : Option Registry) (t : TypeHint) : Turn (Except Unhashable Bool) :=
  if t.isProtocol then .done (.ok true)
  else
    match t.classify with
    | some w =>
      if w.modifier = .reference ∧ w.wrapped.isName = true then .done (.ok true)
      else .goOn w.wrapped id
    | Option.none => .done do
      let leaf := t.stripAnnotated
      if (← leaf.isLinked registry) then return true
      return leaf.isRepresentableLeaf

end TypeHint

open TypeHint hiding none

namespace Registry

/-- A turn of the walk to the schema type of a hint: it goes on with the hint inside a list or an
optional hint if that is a wrapper, and inside an optional hint only if it is no reference. -/
def resolveTurn (r : Registry) (t : TypeHint) : Turn (Except ResolveError (Option SchemaType)) :=
  match t.classify with
  | none => .done ((r.entry t.stripAnnotated).map required)
  | some ⟨.optional, wrapped⟩ =>
    match wrapped.classify with
    | none => .done (r.entry wrapped)
    | some ⟨.reference, target⟩ => .done (.ok (some (.deferred target.referenceName)))
    | some _ => .goOn wrapped id
  | some ⟨.list, wrapped⟩ =>
    match wrapped.classify with
    | none => .done ((r.entry wrapped).bind (listOf t))
    | some _ => .goOn wrapped fun element => element.map (Option.map .list)
  | some ⟨.reference, target⟩ => .done (.ok (some (.nonNull (.deferred target.referenceName))))

end Registry

section Turns

variable {t u : TypeHint} {w : Wrapper}

/-- The target of a hint is found turn by turn. -/
theorem TypeHint.target_eq_answer (t : TypeHint) : t.target = (targetTurn t).answer target := by
  unfold targetTurn
  cases h : t.classify with
  | none => exact target_of_leaf h
  | some w =>
    dsimp only
    split
    · next hself => exact target_of_isName ((wrapped_eq_self_iff h).mp hself)
    · exact target_of_wrapper h

/-- Whether a hint is representable is found turn by turn. -/
theorem TypeHint.isRepresentable_eq_answer (registry : Option Registry) (t : TypeHint) :
    t.isRepresentable registry =
      (representableTurn registry t).answer (isRepresentable registry) := by
  rw [isRepresentable, representableTurn]
  split
  · rfl
  · cases h : t.classify with
    | none => rfl
    | some w =>
      dsimp only
      split <;> rfl

/-- The schema type of a hint is found turn by turn. -/
theorem Registry.resolve_eq_answer (r : Registry) (t : TypeHint) :
    r.resolve t = (r.resolveTurn t).answer r.resolve := by
  unfold resolveTurn
  cases h : t.classify with
  | none => exact r.resolve_of_leaf h
  | some w =>
    obtain ⟨modifier, wrapped⟩ := w
    cases modifier with
    | reference => exact r.resolve_of_reference h
    | optional =>
      dsimp only
      cases hw : wrapped.classify with
      | none => exact r.resolve_of_optional_leaf h hw
      | some inner =>
        obtain ⟨modifier, target⟩ := inner
        cases modifier with
        | reference => exact r.resolve_of_optional_reference h hw
        | optional => exact r.resolve_of_optional_wrapper h hw nofun
        | list => exact r.resolve_of_optional_wrapper h hw nofun
    | list =>
      dsimp only
      cases hw : wrapped.classify with
      | none => exact r.resolve_of_list_leaf h hw
      | some inner => exact r.resolve_of_list_wrapper h hw

/-- The walk to the target goes on with what a wrapper other than a name holds. -/
theorem TypeHint.targetTurn_next (h : (targetTurn t).next? = some u) :
    ∃ w, t.classify = some w ∧ w.wrapped = u ∧ u ≠ t := by
  unfold targetTurn at h
  split at h
  · cases h
  · next w hw =>
    split at h
    · cases h
    · next hother =>
      cases h
      exact ⟨w, hw, rfl, hother⟩

/-- The walk to the target ends at a name. -/
theorem TypeHint.targetTurn_of_isName (h : t.isName = true) :
    (targetTurn t).next? = Option.none := by
  simp [targetTurn, classify_of_isName h, Turn.next?]

/-- From a name with annotations around it, the walk to the target goes on once. -/
theorem TypeHint.targetTurn_of_annotated (h : t.stripAnnotated.isName = true)
    (hannotated : t.stripAnnotated ≠ t) : (targetTurn t).next? = some t.stripAnnotated := by
  have hself := classify_of_isName h
  rw [classify_stripAnnotated] at hself
  simp [targetTurn, hself, hannotated, Turn.next?]

/-- The rank that every turn of the walk to the target lowers. -/
def TypeHint.targetRank (t : TypeHint) : Nat :=
  if t.isWrapper && !t.isName then t.depth + 1 else 0

/-- Every turn of the walk to the target lowers the rank: annotations around a name count for one
turn, and the name for none. -/
theorem TypeHint.targetRank_lt (h : (targetTurn t).next? = some u) :
    targetRank u < targetRank t := by
  obtain ⟨w, hw, rfl, hother⟩ := targetTurn_next h
  have hname : t.isName = false := by
    rw [← Bool.not_eq_true, ← wrapped_eq_self_iff hw]
    exact hother
  have hrank : targetRank t = t.depth + 1 := by simp [targetRank, isWrapper, hw, hname]
  rw [hrank, targetRank]
  cases hnamed : w.isNamed with
  | true =>
    have hinner : w.wrapped.isName = true := by
      simp only [Wrapper.isNamed, Bool.and_eq_true] at hnamed
      exact hnamed.2
    simp [hinner]
  | false =>
    rw [depth_of_wrapper hw hnamed]
    split <;> omega

/-- The walk that finds out whether a hint is representable takes names on trust. -/
theorem TypeHint.representableTurn_passes (registry : Option Registry) :
    PassesWrappers (representableTurn registry) := by
  intro t u h
  unfold representableTurn at h
  split at h
  · cases h
  · split at h
    · next w hw =>
      split at h
      · cases h
      · next hother =>
        cases h
        exact ⟨w, hw, rfl, by simpa [Wrapper.isNamed] using hother⟩
    · cases h

/-- The walk to the schema type goes on from optional hints and lists only. -/
theorem Registry.resolveTurn_passes (r : Registry) : PassesWrappers r.resolveTurn := by
  intro t u h
  unfold resolveTurn at h
  split at h
  case h_1 => cases h
  case h_2 wrapped hw =>
    split at h <;> cases h
    exact ⟨_, hw, rfl, rfl⟩
  case h_3 wrapped hw =>
    split at h <;> cases h
    exact ⟨_, hw, rfl, rfl⟩
  case h_4 => cases h

end Turns

namespace TypeHint

/-- **All walks down a hint end.** A wrapper holds something strictly inside the hint below all
annotations, or that hint is a name and holds itself as a reference. The three walks give the
answers of the functions that they stand for after as many turns as there are wrappers, and one more
or, to the target, two. They only go on with what is inside the hint that they have come to. If that
is a name, the walk to the target goes on once from the annotations around it, and otherwise every
walk ends there. -/
theorem walks_end (t : TypeHint) :
    (∀ w, t.classify = some w →
      Inside w.wrapped t.stripAnnotated ∧ sizeOf w.wrapped < sizeOf t.stripAnnotated ∨
        t.stripAnnotated.isName = true ∧ w = ⟨.reference, t.stripAnnotated⟩) ∧
    (∀ n, t.depth + 2 ≤ n →
      (Turn.walk targetTurn n t).map (fun k => normalizeName k.displayName) =
        some t.referenceName) ∧
    (∀ (r : Registry) n, t.depth + 1 ≤ n → Turn.walk r.resolveTurn n t = some (r.resolve t)) ∧
    (∀ registry n, t.depth + 1 ≤ n →
      Turn.walk (representableTurn registry) n t = some (t.isRepresentable registry)) ∧
    (∀ u, (targetTurn t).next? = some u ∨ (∃ r : Registry, (r.resolveTurn t).next? = some u) ∨
      (∃ registry, (representableTurn registry t).next? = some u) → Inside u t) ∧
    (t.stripAnnotated.isName = true →
      (targetTurn t.stripAnnotated).next? = Option.none ∧
      (t.stripAnnotated ≠ t → (targetTurn t).next? = some t.stripAnnotated) ∧
      (∀ r : Registry, (r.resolveTurn t).next? = Option.none) ∧
      ∀ registry, (representableTurn registry t).next? = Option.none) := by
  have hrank : targetRank t < t.depth + 2 := by
    unfold targetRank
    split <;> omega
  refine ⟨fun w hw => ?_, fun n hn => ?_, fun r n hn => ?_, fun registry n hn => ?_, ?_,
    fun hname => ⟨targetTurn_of_isName hname, targetTurn_of_annotated hname,
      fun r => r.resolveTurn_passes.next?_of_name hname,
      fun registry => (representableTurn_passes registry).next?_of_name hname⟩⟩
  · exact (inside_or_isName_of_classify hw).imp_left fun hinside => ⟨hinside, hinside.sizeOf_lt⟩
  · rw [Turn.walk_eq_some targetRank target_eq_answer (fun _ _ => targetRank_lt)
      (Nat.lt_of_lt_of_le hrank hn)]
    rfl
  · exact r.resolveTurn_passes.walk_eq_some r.resolve_eq_answer hn
  · exact (representableTurn_passes registry).walk_eq_some (isRepresentable_eq_answer registry) hn
  · rintro u (h | ⟨r, h⟩ | ⟨registry, h⟩)
    · obtain ⟨w, hw, rfl, hother⟩ := targetTurn_next h
      exact inside_of_classify hw hother
    · exact r.resolveTurn_passes.inside h
    · exact (representableTurn_passes registry).inside h

/-- The walks end at an annotated name after one turn, or two to the target, and in a list of it
after one turn more. -/
theorem walks_end_annotated_name :
    let name := TypeHint.forward "Node"
    let t := annotate name [text "m"]
    let list := (ListForm.subscript Class.Builtin.list (by decide)).write t
    let r := Registry.new true
    (list.classify = some ⟨.list, name⟩ ∧ Inside name list.stripAnnotated) ∧
    (list.depth = 1 ∧
      (Turn.walk targetTurn 3 list).map (fun k => normalizeName k.displayName) =
        some list.referenceName ∧
      Turn.walk r.resolveTurn 2 list = some (r.resolve list) ∧
      Turn.walk (representableTurn (some r)) 2 list = some (list.isRepresentable (some r))) ∧
    (t.stripAnnotated.isName = true ∧ t.stripAnnotated ≠ t ∧
      (targetTurn t).next? = some name ∧ Inside name t ∧ (targetTurn name).next? = Option.none ∧
      (r.resolveTurn t).next? = Option.none ∧
      (representableTurn (some r) t).next? = Option.none) := by
  intro name t list r
  have hlist : list.classify = some ⟨.list, name⟩ := by
    obtain ⟨element, hkept, hclassify⟩ :=
      (ListForm.listOf_write (.subscript Class.Builtin.list (by decide)) t).classify_eq
    rcases hkept with rfl | rfl <;> exact hclassify
  have hname : name.depth = 0 := depth_of_named (w := ⟨.reference, name⟩) rfl rfl
  have hdepth : list.depth = 1 := by rw [depth_of_wrapper hlist rfl, hname]
  have hannotated : t.stripAnnotated ≠ t := nofun
  obtain ⟨hheld, htarget, hresolve, hrepresentable, -, -⟩ := walks_end list
  obtain ⟨-, -, -, -, hinside, hends⟩ := walks_end t
  obtain ⟨hstop, honce, hresolved, htrusted⟩ := hends rfl
  have hnext := honce hannotated
  have hsteps : Inside name list.stripAnnotated := by
    rcases hheld _ hlist with ⟨hwrapped, -⟩ | ⟨-, hself⟩
    · exact hwrapped
    · cases hself
  exact ⟨⟨hlist, hsteps⟩,
    ⟨hdepth, htarget 3 (by rw [hdepth]), hresolve r 2 (by rw [hdepth]),
      hrepresentable (some r) 2 (by rw [hdepth])⟩,
    rfl, hannotated, hnext, hinside name (.inl hnext), hstop, hresolved r, htrusted (some r)⟩

end TypeHint

end SchemaLink
