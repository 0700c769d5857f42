import SchemaLink.Proofs.WrapperKeys

/-!
# The names of wrappers

A wrapper is called by a name that holds the name of the hint inside and is longer than it, whereas
annotations add nothing to a name. So the wrapper around the core of a hint has the name of the
whole hint only if no other wrapper stands around it.
-/

namespace SchemaLink

namespace TypeHint

/-- Several hints are called by their names. -/
theorem displayNames_eq_map (ts : List TypeHint) : displayNames ts = ts.map displayName := by
  induction ts with
  | nil => rfl
  | cons t rest ih => rw [displayNames, ih, List.map_cons]

section Length

variable {text separator : String} {texts : List String}

/-- A text among others is no longer than all of them with separators in between. -/
theorem length_le_intercalate (separator : String) (h : text ∈ texts) :
    text.length ≤ (separator.intercalate texts).length := by
  induction texts with
  | nil => cases h
  | cons first rest ih =>
    cases rest with
    | nil => rw [List.mem_singleton.mp h, String.intercalate_singleton]
    | cons second rest =>
      rw [String.intercalate_cons_cons, String.length_append, String.length_append]
      rcases List.mem_cons.mp h with rfl | hrest
      · omega
      · have hle := ih hrest
        omega

/-- A text among several is shorter than all of them with separators in between. -/
theorem length_lt_intercalate (hseparator : 0 < separator.length) (h : text ∈ texts)
    (hseveral : 1 < texts.length) : text.length < (separator.intercalate texts).length := by
  match texts, h, hseveral with
  | first :: second :: rest, h, _ =>
    rw [String.intercalate_cons_cons, String.length_append, String.length_append]
    rcases List.mem_cons.mp h with rfl | hrest
    · omega
    · have hle := length_le_intercalate separator hrest
      omega

/-- An argument in brackets is shorter than the whole. -/
theorem length_lt_applied (name : String) (h : text ∈ texts) :
    text.length < (applied name texts).length := by
  have hne : texts.isEmpty = false := by
    cases texts with
    | nil => cases h
    | cons first rest => rfl
  have hle := length_le_intercalate ", " h
  rw [applied, hne, if_neg Bool.false_ne_true, Text.commaList]
  simp only [String.length_append]
  have hopen : "[".length = 1 := by decide
  omega

end Length

/-- Only callables show their arguments in another way than one by one. -/
theorem displayName_generic {origin : Class} (h : origin ≠ Class.Builtin.callable)
    (flavour : AliasFlavour) (args : List TypeHint) :
    (generic flavour origin args).displayName = applied origin.name (args.map displayName) := by
  rw [displayName, displayNames_eq_map, aliasParts]
  simp [h]

/-- A collection that makes a list is no callable. -/
theorem ne_callable_of_mem_listOrigins {origin : Class} (h : origin ∈ listOrigins) :
    origin ≠ Class.Builtin.callable := by
  rintro rfl
  exact absurd h (by decide)

section Wrappers

variable {t : TypeHint} {w : Wrapper}

/-- An optional hint or a list is no name. -/
theorem isName_of_modifier (hw : t.classify = some w) (hm : w.modifier ≠ .reference) :
    t.stripAnnotated.isName = false := by
  refine Bool.eq_false_iff.mpr fun hname => hm ?_
  rw [← classify_stripAnnotated, classify_of_isName hname] at hw
  rw [← Option.some.inj hw]

/-- What an alias wraps has a shorter name than the alias. -/
theorem length_displayName_lt_of_classifyAlias (flavour : AliasFlavour) {origin : Class}
    {args : List TypeHint} (hw : classifyAlias origin args = some w) :
    w.wrapped.displayName.length < (generic flavour origin args).displayName.length := by
  have named {arg : TypeHint} (horigin : origin ≠ Class.Builtin.callable) (harg : arg ∈ args)
      (hwrapped : w.wrapped = arg.stripAnnotated) :
      w.wrapped.displayName.length < (generic flavour origin args).displayName.length := by
    rw [displayName_generic horigin, hwrapped, displayName_stripAnnotated]
    exact length_lt_applied _ (List.mem_map_of_mem harg)
  unfold classifyAlias at hw
  split at hw
  case h_1 arg =>
    split at hw
    case isTrue horigin =>
      subst horigin
      exact named (by decide) List.mem_cons_self (Option.some.inj hw ▸ rfl)
    case isFalse =>
      split at hw
      case isTrue hlist =>
        exact named (ne_callable_of_mem_listOrigins hlist) List.mem_cons_self
          (Option.some.inj hw ▸ rfl)
      case isFalse => cases hw
  case h_2 arg =>
    split at hw
    case isTrue horigin =>
      subst horigin
      exact named (by decide) List.mem_cons_self (Option.some.inj hw ▸ rfl)
    case isFalse => cases hw
  case h_3 => cases hw

/-- What a wrapper holds has a shorter name than the wrapper, unless the wrapper is a name. -/
theorem length_displayName_wrapped_lt (hw : t.classify = some w)
    (hname : t.stripAnnotated.isName = false) :
    w.wrapped.displayName.length < t.displayName.length := by
  rw [← displayName_stripAnnotated t]
  unfold classify classifyBare at hw
  split at hw
  case h_1 s heq =>
    rw [heq] at hname
    cases hname
  case h_2 name heq =>
    rw [heq] at hname
    cases hname
  case h_3 flavour members heq =>
    obtain ⟨m, hm, rfl⟩ := Option.map_eq_some_iff.mp hw
    have hseveral := (optionalMember?_eq_some_iff.mp hm).2
    rw [heq, displayName, displayNames_eq_map, displayName_stripAnnotated]
    exact length_lt_intercalate (by decide) (List.mem_map_of_mem (mem_of_optionalMember? hm))
      (by rwa [List.length_map])
  case h_4 flavour origin args heq =>
    rw [heq]
    exact length_displayName_lt_of_classifyAlias flavour hw
  case h_5 => cases hw

/-- The way to the core takes a step exactly at an optional hint or a list. -/
theorem exists_wrapper_of_steps_ne_nil (h : t.steps ≠ []) :
    ∃ w, t.classify = some w ∧ w.modifier ≠ .reference ∧
      t.steps = w.modifier :: w.wrapped.steps := by
  match hw : t.classify with
  | Option.none => exact absurd (steps_of_leaf hw) h
  | some ⟨.reference, target⟩ => exact absurd (steps_of_reference hw) h
  | some ⟨.optional, wrapped⟩ => exact ⟨_, rfl, nofun, steps_of_optional hw⟩
  | some ⟨.list, wrapped⟩ => exact ⟨_, rfl, nofun, steps_of_list hw⟩

/-- Without steps there is no wrapper around the core but the hint itself. -/
theorem innermostWrapper_of_steps_eq_nil (h : t.steps = []) : t.innermostWrapper = t := by
  rw [innermostWrapper]
  split
  case h_1 wrapped hw => rw [steps_of_optional hw] at h; cases h
  case h_2 wrapped hw => rw [steps_of_list hw] at h; cases h
  case h_3 => rfl

end Wrappers

/-- No wrapper on the way to the core has a longer name than the whole hint. -/
theorem length_displayName_innermostWrapper_le (t : TypeHint) :
    t.innermostWrapper.displayName.length ≤ t.displayName.length := by
  have step {t : TypeHint} {w : Wrapper} (hw : t.classify = some w) (hm : w.modifier ≠ .reference)
      (ih : w.wrapped.innermostWrapper.displayName.length ≤ w.wrapped.displayName.length) :
      t.innermostWrapper.displayName.length ≤ t.displayName.length := by
    have hlt := length_displayName_wrapped_lt hw (isName_of_modifier hw hm)
    rw [innermostWrapper_of_step hw hm]
    split
    · exact Nat.le_refl _
    · omega
  induction t using spine_induction with
  | leaf t h => rw [innermostWrapper_of_steps_eq_nil (steps_of_leaf h)]
  | reference t target h => rw [innermostWrapper_of_steps_eq_nil (steps_of_reference h)]
  | optional t wrapped h ih => exact step h nofun ih
  | list t wrapped h ih => exact step h nofun ih

/-- The wrapper around the core has the name of the whole hint exactly if no other wrapper stands
around it. -/
theorem displayName_innermostWrapper_eq_iff (t : TypeHint) :
    t.innermostWrapper.displayName = t.displayName ↔ t.steps.length ≤ 1 := by
  by_cases hsteps : t.steps = []
  · simp [innermostWrapper_of_steps_eq_nil hsteps, hsteps]
  · obtain ⟨w, hw, hm, hcons⟩ := exists_wrapper_of_steps_ne_nil hsteps
    rw [innermostWrapper_of_step hw hm, hcons]
    by_cases hinner : w.wrapped.steps = []
    · simp [hinner]
    · have hlt := length_displayName_wrapped_lt hw (isName_of_modifier hw hm)
      have hle := length_displayName_innermostWrapper_le w.wrapped
      have hpos := List.length_pos_iff.mpr hinner
      rw [if_neg hinner, List.length_cons]
      refine iff_of_false (fun heq => ?_) (by omega)
      rw [heq] at hle
      omega

end TypeHint

end SchemaLink
