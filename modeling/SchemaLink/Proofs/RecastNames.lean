import SchemaLink.Proofs.AnnotatedSpine
import SchemaLink.Proofs.ErrorSubjects

/-!
# Names of recast hints

The same hint can be cast in several forms: with aliases and unions of either family, with a text or
the forward reference to it, with the absence of a value or its class, and with annotations around
any part. All of these have one plain form, which is shown as they are, so that errors of one kind
say the same about them. The walk to the destination, however, recognizes the mark of an optional
hint only where no annotation stands around the mark itself; the dots that mark a list carry none.
References to hints without such annotations point to one name.
-/

namespace SchemaLink

namespace TypeHint

section Plain

/-- The arguments of an alias as they are shown, from their plain forms: a callable that lists its
parameters holds the list of them. -/
def shownArgs (origin : Class) (args plain : List TypeHint) : List TypeHint :=
  if origin = Class.Builtin.callable && !args.isEmpty && listsParameters args then
    [.list 0 plain.dropLast, plain.getLastD none]
  else plain

mutual

/-- The plain form of a hint, in which all its parts are of one family and no part is annotated. -/
def plain : TypeHint → TypeHint
  | .value (.text s) => .forward s
  | .value .none => noneType
  | .formAlias name args => .formAlias name (plainAll args)
  | .bare origin => .generic .typing origin []
  | .generic _ origin args => .generic .typing origin (shownArgs origin args (plainAll args))
  | .union _ members => .union .typing (plainAll members)
  | .annotated target _ => plain target
  | .list _ items => .list 0 (plainAll items)
  | .tuple items => .tuple (plainAll items)
  | t => t

/-- The plain forms of several hints. -/
def plainAll : List TypeHint → List TypeHint
  | [] => []
  | x :: xs => plain x :: plainAll xs

end

/-- Several hints have their plain forms. -/
theorem plainAll_eq_map (ts : List TypeHint) : plainAll ts = ts.map plain := by
  induction ts with
  | nil => rfl
  | cons t rest ih => rw [plainAll, ih, List.map_cons]

/-- A hint that stands for all parameters of a callable does so in its plain form. -/
theorem coversParameters_plain {t : TypeHint} (h : t.coversParameters = true) :
    t.plain.coversParameters = true := by
  unfold coversParameters at h
  split at h
  · rfl
  · rfl
  · rfl
  · cases h

/-- A callable without a list of parameters has none in its plain form. -/
theorem listsParameters_map_plain {args : List TypeHint} (h : listsParameters args = false) :
    listsParameters (args.map plain) = false := by
  unfold listsParameters at h
  split at h
  · next first result =>
    have hfirst : first.coversParameters = true := by simpa using h
    simp [listsParameters, coversParameters_plain hfirst]
  · cases h

/-- A callable with arguments shows its parameters and its result. -/
theorem displayName_callable (flavour : AliasFlavour) {args : List TypeHint} (h : args ≠ []) :
    (generic flavour Class.Builtin.callable args).displayName =
      applied Class.Builtin.callable.name (callableParts args (args.map displayName)) := by
  have hargs : args.isEmpty = false := List.isEmpty_eq_false_iff.mpr h
  rw [displayName, displayNames_eq_map, aliasParts]
  simp [hargs]

/-- The list of parameters and the result are shown as the callable shows them. -/
theorem map_displayName_shownArgs {args : List TypeHint} (h : args ≠ []) :
    [list 0 args.dropLast, args.getLastD none].map displayName =
      ["[" ++ Text.commaList (args.map displayName).dropLast ++ "]",
        (args.map displayName).getLastD ""] := by
  have hlast : (args.getLastD none).displayName = (args.map displayName).getLastD "" := by
    rw [List.getLastD_eq_getLast?, List.getLastD_eq_getLast?, List.getLast?_map,
      List.getLast?_eq_some_getLast h]
    rfl
  rw [List.map_cons, List.map_cons, List.map_nil, displayName, displayNames_eq_map,
    List.map_dropLast, hlast]

/-- An alias in its plain form is shown like the alias. -/
theorem displayName_shownArgs {origin : Class} {args : List TypeHint}
    (h : ∀ a ∈ args, a.plain.displayName = a.displayName) (flavour flavour' : AliasFlavour) :
    (generic flavour origin (shownArgs origin args (args.map plain))).displayName =
      (generic flavour' origin args).displayName := by
  have hnames : (args.map plain).map displayName = args.map displayName := by
    rw [List.map_map]
    exact List.map_congr_left h
  by_cases hcallable : origin = Class.Builtin.callable
  · subst hcallable
    by_cases hargs : args = []
    · subst hargs
      rfl
    · have hplain : args.map plain ≠ [] := by simpa using hargs
      rw [displayName_callable flavour' hargs, callableParts, shownArgs]
      cases hlists : listsParameters args with
      | true =>
        rw [if_pos (by simp [hargs]), if_pos rfl, displayName_callable flavour (by simp),
          map_displayName_shownArgs hplain, hnames]
        rfl
      | false =>
        rw [if_neg (by simp), if_neg (by simp), displayName_callable flavour hplain, hnames,
          callableParts, listsParameters_map_plain hlists, if_neg (by simp)]
  · rw [shownArgs]
    simp [hcallable, displayName_generic hcallable, hnames]

/-- A hint is shown as its plain form is. -/
theorem displayName_plain (t : TypeHint) : t.plain.displayName = t.displayName := by
  have hnames {ts : List TypeHint} (ih : ∀ t ∈ ts, t.plain.displayName = t.displayName) :
      displayNames (plainAll ts) = displayNames ts := by
    rw [displayNames_eq_map, displayNames_eq_map, plainAll_eq_map, List.map_map]
    exact List.map_congr_left ih
  induction t using TypeHint.ind with
  | value v => cases v <;> rfl
  | formAlias name args ih => rw [plain, displayName, displayName, hnames ih]
  | bare origin => simp [plain, displayName, applied, aliasParts, displayNames]
  | generic flavour origin args ih =>
    rw [plain, plainAll_eq_map]
    exact displayName_shownArgs ih _ _
  | union flavour members ih => rw [plain, displayName, displayName, hnames ih]
  | annotated target metadata ih => rw [plain, displayName, ih]
  | list token items ih => rw [plain, displayName, displayName, hnames ih]
  | tuple items ih => rw [plain, displayName, displayName, hnames ih]
  | _ => rfl

/-- A hint with metadata has the plain form of the hint without. -/
theorem plain_annotate (t : TypeHint) (metadata : List TypeHint) :
    (annotate t metadata).plain = t.plain := by
  have hplain : t.asType.plain = t.plain := by
    unfold asType
    split <;> rfl
  rw [← hplain, annotate]
  split
  · next heq => rw [heq, plain, plain]
  · rw [plain]

end Plain

/-- Two hints that differ only in the forms that some of their parts are cast in. Forms can be
changed one after the other, and so below annotations as well, which are taken away and put back. -/
inductive Recast : TypeHint → TypeHint → Prop where
  | refl (t : TypeHint) : Recast t t
  | symm {t u : TypeHint} (h : Recast t u) : Recast u t
  | trans {t u v : TypeHint} (h : Recast t u) (h' : Recast u v) : Recast t v
  /-- Aliases of either family. -/
  | aliases (f g : AliasFlavour) (origin : Class) (args : List TypeHint) :
      Recast (.generic f origin args) (.generic g origin args)
  /-- An alias that was never given arguments, and one without any. -/
  | bareAlias (f : AliasFlavour) (origin : Class) : Recast (.bare origin) (.generic f origin [])
  /-- Unions of either family, with the same members in the same order. -/
  | unions (f g : UnionFlavour) (members : List TypeHint) :
      Recast (.union f members) (.union g members)
  /-- A text, and the forward reference that it stands for. -/
  | name (s : String) : Recast (text s) (.forward s)
  /-- The absence of a value, and its class. -/
  | absence : Recast none noneType
  /-- A hint that may carry metadata, and the hint with it. -/
  | annotated {t u : TypeHint} (metadata : List TypeHint) (h : t.annotate? metadata = some u) :
      Recast t u
  /-- Raw lists are told apart by their tokens, even if they hold the same items. -/
  | token (j k : Nat) (items : List TypeHint) : Recast (.list j items) (.list k items)
  | formArgument (name : String) (before after : List TypeHint) {t u : TypeHint}
      (h : Recast t u) :
      Recast (.formAlias name (before ++ t :: after)) (.formAlias name (before ++ u :: after))
  /-- An argument of an alias. A callable without a list of parameters is another than one that
  lists them, whatever stands in the list. -/
  | argument (f : AliasFlavour) (origin : Class) (before after : List TypeHint) {t u : TypeHint}
      (h : Recast t u) (lists : origin = Class.Builtin.callable →
        listsParameters (before ++ t :: after) = listsParameters (before ++ u :: after)) :
      Recast (.generic f origin (before ++ t :: after)) (.generic f origin (before ++ u :: after))
  | member (f : UnionFlavour) (before after : List TypeHint) {t u : TypeHint} (h : Recast t u) :
      Recast (.union f (before ++ t :: after)) (.union f (before ++ u :: after))
  | item (k : Nat) (before after : List TypeHint) {t u : TypeHint} (h : Recast t u) :
      Recast (.list k (before ++ t :: after)) (.list k (before ++ u :: after))
  | tupleItem (before after : List TypeHint) {t u : TypeHint} (h : Recast t u) :
      Recast (.tuple (before ++ t :: after)) (.tuple (before ++ u :: after))

/-- Recast hints have one plain form. -/
theorem Recast.plain_eq {t u : TypeHint} (h : Recast t u) : t.plain = u.plain := by
  induction h with
  | refl => rfl
  | symm _ ih => exact ih.symm
  | trans _ _ ih ih' => exact ih.trans ih'
  | aliases => rfl
  | bareAlias f origin => simp [plain, plainAll, shownArgs]
  | unions => rfl
  | name => rfl
  | absence => rfl
  | annotated metadata h =>
    obtain ⟨-, -, rfl⟩ := annotate?_eq_some_iff.mp h
    exact (plain_annotate _ _).symm
  | token => rfl
  | formArgument name before after h ih => simp [plain, plainAll_eq_map, ih]
  | argument f origin before after h lists ih =>
    rw [plain, plain, plainAll_eq_map, plainAll_eq_map, shownArgs, shownArgs, List.map_append,
      List.map_append, List.map_cons, List.map_cons, ih]
    by_cases hcallable : origin = Class.Builtin.callable
    · simp [lists hcallable]
    · simp [hcallable]
  | member f before after h ih => simp [plain, plainAll_eq_map, ih]
  | item k before after h ih => simp [plain, plainAll_eq_map, ih]
  | tupleItem before after h ih => simp [plain, plainAll_eq_map, ih]

/-- Recast hints are shown alike. -/
theorem Recast.displayName_eq {t u : TypeHint} (h : Recast t u) :
    t.displayName = u.displayName := by
  rw [← displayName_plain t, h.plain_eq, displayName_plain]

section Spine

variable {t u : TypeHint} {w : Wrapper}

/-- A hint that stands on the way to the destination of another one, without its annotations. -/
inductive OnSpine : TypeHint → TypeHint → Prop where
  | here (t : TypeHint) : OnSpine t t.stripAnnotated
  | inside {t x : TypeHint} {w : Wrapper} (h : t.classify = some w) (rest : OnSpine w.wrapped x) :
      OnSpine t x

/-- No annotation stands around the mark of an optional hint, the class of absent values. -/
def HasBareMark : TypeHint → Prop
  | .union _ members => ∀ m ∈ members, m.stripAnnotated.isVoid = true → m = noneType
  | _ => True

/-- All hints on the way to the destination have bare marks. -/
def BareMarks (t : TypeHint) : Prop := ∀ x, OnSpine t x → x.HasBareMark

/-- The hint inside a wrapper stands on the way. -/
theorem BareMarks.wrapped (h : t.BareMarks) (hw : t.classify = some w) : w.wrapped.BareMarks :=
  fun x hx => h x (.inside hw hx)

/-- A well-formed hint with bare marks, so that the way to the destination is the same in its plain
form. -/
structure HasPlainSpine (t : TypeHint) : Prop where
  wellFormed : t.WellFormed
  bareMarks : t.BareMarks

/-- The hint inside a wrapper has a plain spine if the wrapper has. -/
theorem HasPlainSpine.wrapped (h : t.HasPlainSpine) (hw : t.classify = some w) :
    w.wrapped.HasPlainSpine :=
  ⟨h.wellFormed.wrapped hw, h.bareMarks.wrapped hw⟩

/-- Annotations are left out of the plain form. -/
@[simp] theorem plain_stripAnnotated (t : TypeHint) : t.stripAnnotated.plain = t.plain := by
  fun_induction stripAnnotated t with
  | case1 target metadata ih => rw [ih, plain]
  | case2 => rfl

/-- No annotation stands around a plain form. -/
@[simp] theorem stripAnnotated_plain (t : TypeHint) : t.plain.stripAnnotated = t.plain := by
  induction t using TypeHint.ind with
  | value v => cases v <;> rfl
  | annotated target metadata ih => rw [plain, ih]
  | _ => rfl

/-- The plain form of a hint is the class of absent values exactly if the hint stands for no type
below all annotations. -/
theorem isNoneType_plain (t : TypeHint) : t.plain.isNoneType = t.stripAnnotated.isVoid := by
  induction t using TypeHint.ind with
  | value v => cases v <;> rfl
  | annotated target metadata ih => rw [plain, ih, stripAnnotated]
  | _ => rfl

/-- A union with a bare mark has the same only member in its plain form. -/
theorem optionalMember?_map_plain {members : List TypeHint}
    (h : ∀ m ∈ members, m.stripAnnotated.isVoid = true → m = noneType) :
    optionalMember? (members.map plain) = (optionalMember? members).map plain := by
  have hfilter : (members.map plain).filter (fun m => !m.isNoneType) =
      (members.filter fun m => !m.isNoneType).map plain := by
    rw [List.filter_map]
    refine congrArg _ (List.filter_congr fun m hm => congrArg not ?_)
    rw [isNoneType_plain, Bool.eq_iff_iff, isNoneType_iff]
    exact ⟨h m hm, fun heq => heq ▸ rfl⟩
  unfold optionalMember?
  rw [hfilter, List.length_map]
  generalize members.filter (fun m => !m.isNoneType) = kept
  match kept with
  | [] => rfl
  | [single] => simp only [List.map_cons, List.map_nil]; split <;> rfl
  | _ :: _ :: _ => rfl

/-- The dots are their own plain form, and only hints with annotations around them share it. -/
theorem plain_eq_ellipsis_iff {t : TypeHint} :
    t.plain = .value .ellipsis ↔ t.stripAnnotated = .value .ellipsis := by
  induction t using TypeHint.ind with
  | value v => cases v <;> simp [plain, stripAnnotated]
  | annotated target metadata ih => rw [plain, ih, stripAnnotated]
  | _ => simp [plain, stripAnnotated]

/-- An alias with two arguments wraps only if it is a tuple. -/
theorem classifyAlias_pair_eq_none {origin : Class} (h : origin ≠ Class.Builtin.tuple)
    (arg last : TypeHint) : classifyAlias origin [arg, last] = Option.none := by
  unfold classifyAlias
  split
  · next heq => cases heq
  · exact if_neg h
  · rfl

/-- An alias of well-formed arguments wraps in its plain form as it does. -/
theorem classifyAlias_map_plain (origin : Class) {args : List TypeHint}
    (h : ∀ a ∈ args, a.WellFormed) : classifyAlias origin (args.map plain) =
      (classifyAlias origin args).map fun w => ⟨w.modifier, w.wrapped.plain⟩ := by
  match args with
  | [] => rfl
  | [arg] =>
    simp only [classifyAlias, List.map_cons, List.map_nil, stripAnnotated_plain]
    split
    · simp
    · split <;> simp
  | [arg, last] =>
    rw [List.map_cons, List.map_cons, List.map_nil]
    by_cases horigin : origin = Class.Builtin.tuple
    · by_cases hlast : last = .value .ellipsis
      · subst horigin hlast
        simp [classifyAlias, plain]
      · have hwell : last.WellFormed := h last (by simp)
        have hplain : last.plain ≠ .value .ellipsis :=
          fun heq => hlast (hwell.eq_of_stripAnnotated_eq_value (plain_eq_ellipsis_iff.mp heq))
        rw [classifyAlias_eq_none (by simp) (by simp [hplain]),
          classifyAlias_eq_none (by simp) (by simp [hlast])]
        rfl
    · rw [classifyAlias_pair_eq_none horigin, classifyAlias_pair_eq_none horigin]
      rfl
  | _ :: _ :: _ :: _ =>
    rw [classifyAlias_eq_none (by simp) (by simp), classifyAlias_eq_none (by simp) (by simp)]
    rfl

/-- A callable does not wrap. -/
theorem classifyAlias_callable (args : List TypeHint) :
    classifyAlias Class.Builtin.callable args = Option.none := by
  have hcallable : Class.Builtin.callable ≠ Class.Builtin.reference ∧
      Class.Builtin.callable ∉ listOrigins ∧ Class.Builtin.callable ≠ Class.Builtin.tuple := by
    decide
  unfold classifyAlias
  split
  · rw [if_neg hcallable.1, if_neg hcallable.2.1]
  · rw [if_neg hcallable.2.2]
  · rfl

/-- A well-formed hint with a bare mark wraps in its plain form as it does. -/
theorem classify_plain (hwell : t.WellFormed) (h : t.stripAnnotated.HasBareMark) :
    t.plain.classify = t.classify.map fun w => ⟨w.modifier, w.wrapped.plain⟩ := by
  induction t using TypeHint.ind with
  | value v => cases v <;> rfl
  | generic flavour origin args =>
    change classifyAlias origin (shownArgs origin args (plainAll args)) =
      (classifyAlias origin args).map _
    rw [plainAll_eq_map]
    by_cases hcallable : origin = Class.Builtin.callable
    · rw [hcallable, classifyAlias_callable, classifyAlias_callable]
      rfl
    · have hargs : ∀ a ∈ args, a.WellFormed := hwell.parts
      rw [shownArgs]
      simp [hcallable, classifyAlias_map_plain origin hargs]
  | union flavour members =>
    change (optionalMember? (plainAll members)).map _ =
      ((optionalMember? members).map _).map _
    rw [plainAll_eq_map, optionalMember?_map_plain h]
    cases optionalMember? members <;> simp
  | annotated target metadata ih => exact ih (hwell.parts target List.mem_cons_self) h
  | _ => rfl

/-- A leaf with a plain spine is one in its plain form. -/
theorem HasPlainSpine.classify_plain_of_leaf (h : t.HasPlainSpine)
    (hleaf : t.classify = Option.none) : t.plain.classify = Option.none := by
  rw [classify_plain h.wellFormed (h.bareMarks _ (.here t)), hleaf, Option.map_none]

/-- A wrapper with a plain spine is one in its plain form. -/
theorem HasPlainSpine.classify_plain_of_wrapper (h : t.HasPlainSpine) (hw : t.classify = some w) :
    t.plain.classify = some ⟨w.modifier, w.wrapped.plain⟩ := by
  rw [classify_plain h.wellFormed (h.bareMarks _ (.here t)), hw, Option.map_some]

/-- The plain form of a name is the forward reference that it stands for. -/
theorem plain_of_isName (h : t.isName = true) : t.plain = t.asForward := by
  obtain ⟨s, rfl⟩ | ⟨s, rfl⟩ := isName_cases h <;> rfl

/-- The plain form of a hint with a plain spine leads to the plain form of its destination. -/
theorem HasPlainSpine.destination_plain (h : t.HasPlainSpine) :
    t.plain.destination = t.destination.plain := by
  induction t using target_induction with
  | leaf t hleaf =>
    rw [destination_of_leaf hleaf, destination_of_leaf (h.classify_plain_of_leaf hleaf),
      stripAnnotated_plain, plain_stripAnnotated]
  | name t hname =>
    have hforward := isName_asForward hname
    rw [← plain_stripAnnotated, ← destination_stripAnnotated t, destination_of_isName hname,
      plain_of_isName hname, plain_of_isName hforward, destination_of_isName hforward]
  | wrapper t w hw ih =>
    rw [destination_of_wrapper hw, destination_of_wrapper (h.classify_plain_of_wrapper hw),
      ih (h.wrapped hw)]

/-- The plain form of a hint with a plain spine takes the same steps to its core. -/
theorem HasPlainSpine.steps_plain (h : t.HasPlainSpine) : t.plain.steps = t.steps := by
  induction t using spine_induction with
  | leaf t hleaf => rw [steps_of_leaf hleaf, steps_of_leaf (h.classify_plain_of_leaf hleaf)]
  | reference t target hw =>
    rw [steps_of_reference hw, steps_of_reference (h.classify_plain_of_wrapper hw)]
  | optional t wrapped hw ih =>
    rw [steps_of_optional hw, steps_of_optional (h.classify_plain_of_wrapper hw),
      ih (h.wrapped hw)]
  | list t wrapped hw ih =>
    rw [steps_of_list hw, steps_of_list (h.classify_plain_of_wrapper hw), ih (h.wrapped hw)]

/-- The plain form of a hint with a plain spine is deferred if the hint is. -/
theorem HasPlainSpine.isDeferred_plain (h : t.HasPlainSpine) :
    t.plain.isDeferred = t.isDeferred := by
  induction t using spine_induction with
  | leaf t hleaf =>
    rw [isDeferred_of_leaf hleaf, isDeferred_of_leaf (h.classify_plain_of_leaf hleaf)]
  | reference t target hw =>
    rw [isDeferred_of_reference hw, isDeferred_of_reference (h.classify_plain_of_wrapper hw)]
  | optional t wrapped hw ih =>
    rw [isDeferred, isDeferred, core_of_optional hw,
      core_of_optional (h.classify_plain_of_wrapper hw)]
    exact ih (h.wrapped hw)
  | list t wrapped hw ih =>
    rw [isDeferred, isDeferred, core_of_list hw, core_of_list (h.classify_plain_of_wrapper hw)]
    exact ih (h.wrapped hw)

/-- The plain form of a hint with a plain spine shows the same wrapper around its core. -/
theorem HasPlainSpine.innermostName_plain (h : t.HasPlainSpine) :
    t.plain.innermostName = t.innermostName := by
  have core {t : TypeHint} (h : t.HasPlainSpine) (hsteps : t.steps = []) :
      t.plain.innermostName = t.innermostName := by
    rw [innermostName_of_steps_eq_nil hsteps,
      innermostName_of_steps_eq_nil (h.steps_plain.trans hsteps), displayName_plain]
  have step {t : TypeHint} {w : Wrapper} (h : t.HasPlainSpine) (hw : t.classify = some w)
      (hm : w.modifier ≠ .reference)
      (ih : w.wrapped.HasPlainSpine → w.wrapped.plain.innermostName = w.wrapped.innermostName) :
      t.plain.innermostName = t.innermostName := by
    rw [innermostName_of_step hw hm, innermostName_of_step (h.classify_plain_of_wrapper hw) hm,
      (h.wrapped hw).steps_plain, ih (h.wrapped hw), displayName_plain]
  induction t using spine_induction with
  | leaf t hleaf => exact core h (steps_of_leaf hleaf)
  | reference t target hw => exact core h (steps_of_reference hw)
  | optional t wrapped hw ih => exact step h hw nofun ih
  | list t wrapped hw ih => exact step h hw nofun ih

/-- Recast hints with plain spines lead to destinations of one name. -/
theorem Recast.displayName_destination_eq (h : Recast t u) (ht : t.HasPlainSpine)
    (hu : u.HasPlainSpine) : t.destination.displayName = u.destination.displayName := by
  rw [← displayName_plain t.destination, ← ht.destination_plain, h.plain_eq, hu.destination_plain,
    displayName_plain]

/-- References to recast hints with plain spines point to one name. -/
theorem Recast.referenceName_eq (h : Recast t u) (ht : t.HasPlainSpine) (hu : u.HasPlainSpine) :
    t.referenceName = u.referenceName := by
  rw [TypeHint.referenceName_eq, TypeHint.referenceName_eq, h.displayName_destination_eq ht hu]

/-- Recast hints with plain spines have one name for the wrapper around their cores. -/
theorem Recast.innermostName_eq (h : Recast t u) (ht : t.HasPlainSpine) (hu : u.HasPlainSpine) :
    t.innermostName = u.innermostName := by
  rw [← ht.innermostName_plain, h.plain_eq, hu.innermostName_plain]

/-- Deferred hints that are recast resolve to the same type, whatever is linked, if their spines are
plain. -/
theorem Recast.resolve_eq (h : Recast t u) (ht : t.HasPlainSpine) (hu : u.HasPlainSpine)
    (hdeferred : t.isDeferred = true) (r r' : Registry) : r.resolve t = r'.resolve u := by
  have hsteps : t.steps = u.steps := by rw [← ht.steps_plain, h.plain_eq, hu.steps_plain]
  have hdeferred' : u.isDeferred = true := by
    rw [← hu.isDeferred_plain, ← h.plain_eq, ht.isDeferred_plain, hdeferred]
  rw [r.resolve_eq_settle, r'.resolve_eq_settle, r.coreEntry_core, r'.coreEntry_core,
    if_pos hdeferred, if_pos hdeferred', h.displayName_destination_eq ht hu,
    Registry.settle_eq hsteps (h.innermostName_eq ht hu)]

end Spine

end TypeHint

open TypeHint hiding none

namespace Session

variable {demand : Demand} {s s' : Session} {t u : TypeHint}

end Session

end SchemaLink
