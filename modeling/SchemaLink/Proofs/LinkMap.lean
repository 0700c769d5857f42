import SchemaLink.Hint.Union
import SchemaLink.Proofs.AmbiguousKeys
import SchemaLink.Proofs.LinkRun

/-!
# The registry as a map

After any run, a registry holds the links that it started with and those that the run made: a key
is linked to the type of the last link of a key that is the same, and the keys are the first ones of
their kind, in order. What counts as the same is the comparison of registry keys. Equality of hints
describes the registry in the same way exactly on an unambiguous stock of hints, since an equal hint
that is another key is not found.
-/

namespace SchemaLink

open TypeHint hiding none

namespace Registry

/-- The type of the last of some links whose key suits. -/
def latest? (suits : TypeHint → Bool) : List (TypeHint × SchemaType) → Option SchemaType
  | [] => none
  | (k, target) :: rest => (latest? suits rest).or (if suits k then some target else none)

/-- The first keys of their kind among some links, in order. -/
def firstKeys (alike : TypeHint → TypeHint → Bool) (links : List (TypeHint × SchemaType)) :
    List TypeHint :=
  distinctBeside (fun t k => alike k t) [] (links.map Prod.fst)

/-- The links of a new registry after a run: those that it starts with, and those that are made. -/
def history (strict : Bool) (calls : List LinkCall) : List (TypeHint × SchemaType) :=
  primitives ++ (new strict).linksMade calls

/-- The registry answers about a stock of hints as a map of the links would, with keys up to a
comparison. -/
structure IsMapOf (alike : TypeHint → TypeHint → Bool) (stock : Set TypeHint)
    (links : List (TypeHint × SchemaType)) (r : Registry) : Prop where
  /-- A hint is linked to the type of the last link of a like key. -/
  lookup_eq : ∀ t ∈ stock, t.unhashable? = none → r.lookup t = .ok (latest? (alike · t) links)
  contains_iff : ∀ t ∈ stock, t.unhashable? = none →
    (r.contains t = .ok true ↔ ∃ target, r.lookup t = .ok (some target))
  /-- The keys are the first ones of their kind, in order. -/
  types_eq : r.types = firstKeys alike links
  primitives_prefix : primitives.map Prod.fst <+: r.types
  types_pairwise : r.types.Pairwise fun k t => alike k t = false ∧ alike t k = false
  size_eq : r.size = r.types.length
  /-- Later calls only ever add keys at the end. -/
  types_prefix : ∀ calls, r.types <+: (r.run calls).types
  /-- Later calls never take a hint out. -/
  contains_run : ∀ calls t, r.contains t = .ok true → (r.run calls).contains t = .ok true

/-- A put is found under the hints that are the same registry key, and changes no other find. -/
theorem find?_put (key t : TypeHint) (target : SchemaType)
    (entries : List (TypeHint × SchemaType)) :
    find? t (put key target entries) =
      if key.identical t then some target else find? t entries := by
  induction entries with
  | nil => simp [put, find?]
  | cons first rest ih =>
    obtain ⟨k, earlier⟩ := first
    rw [put]
    split
    case isTrue hkey =>
      rw [find?, find?, identical_congr_left hkey t]
      split <;> rfl
    case isFalse hkey =>
      rw [find?, find?, ih]
      by_cases hk : k.identical t = true
      · have hother : ¬ key.identical t = true :=
          fun h => hkey (identical_trans hk (identical_symm h))
        simp [hk, hother]
      · simp [hk]

/-- After a call that writes, its type is found under the hints that are the same as its key. -/
theorem get?_after (r : Registry) (call : LinkCall) (t : TypeHint) :
    (r.after call).get? t =
      if call.writes r.strict && call.key.identical t then some call.target else r.get? t := by
  rw [after_eq]
  cases call.writes r.strict with
  | false => rfl
  | true => exact find?_put call.key t call.target r.entries

/-- A key that a call writes is linked to the type of the call. -/
theorem lookup_key_after (r : Registry) (call : LinkCall) (h : call.writes r.strict = true) :
    (r.after call).lookup call.key = .ok (some call.target) := by
  rw [lookup, (LinkCall.of_writes h).2.2, get?_after, h, identical_refl]
  rfl

/-- A call changes nothing that is looked up under a hint that is not the same as its key. -/
theorem lookup_after_of_other (r : Registry) {call : LinkCall} {t : TypeHint}
    (h : call.key.unhashable? = none → t.unhashable? = none → call.key.identical t = false) :
    (r.after call).lookup t = r.lookup t := by
  cases hhash : t.unhashable? with
  | some container => rw [lookup, lookup, hhash]
  | none =>
    have hother : (call.writes r.strict && call.key.identical t) = false := by
      cases hwrites : call.writes r.strict with
      | false => rfl
      | true => exact h (LinkCall.of_writes hwrites).2.2 hhash
    rw [lookup, lookup, hhash, get?_after, hother]
    rfl

/-- After several puts, the last one of a like key is found, or else what was found before. -/
theorem find?_foldl_put (t : TypeHint) (links entries : List (TypeHint × SchemaType)) :
    find? t (links.foldl (fun entries l => put l.1 l.2 entries) entries) =
      (latest? (·.identical t) links).or (find? t entries) := by
  induction links generalizing entries with
  | nil => rfl
  | cons l rest ih =>
    rw [List.foldl_cons, ih, find?_put, latest?, Option.or_assoc]
    congr 1
    split <;> rfl

/-- A put adds its key at the end unless the same registry key is there already. -/
theorem keys_put (key : TypeHint) (target : SchemaType) (entries : List (TypeHint × SchemaType)) :
    (put key target entries).map Prod.fst =
      if (entries.map Prod.fst).any (·.identical key) then entries.map Prod.fst
      else entries.map Prod.fst ++ [key] := by
  induction entries with
  | nil => simp [put]
  | cons first rest ih =>
    obtain ⟨k, earlier⟩ := first
    rw [put]
    cases hk : k.identical key with
    | true => simp [hk]
    | false =>
      simp only [Bool.false_eq_true, if_false, List.map_cons, ih, List.any_cons, hk, Bool.false_or]
      split <;> rfl

/-- After several puts, the keys are the earlier ones and those of the puts that are the first of
their kind. -/
theorem keys_foldl_put (links entries : List (TypeHint × SchemaType)) (kept : List TypeHint)
    (hkept : ∀ t, kept.any (·.identical t) = (entries.map Prod.fst).any (·.identical t)) :
    (links.foldl (fun entries l => put l.1 l.2 entries) entries).map Prod.fst =
      entries.map Prod.fst ++
        distinctBeside (fun t k => k.identical t) kept (links.map Prod.fst) := by
  induction links generalizing entries kept with
  | nil => simp [distinctBeside]
  | cons l rest ih =>
    rw [List.foldl_cons, List.map_cons, distinctBeside, hkept]
    cases hany : (entries.map Prod.fst).any (·.identical l.1) with
    | true =>
      rw [if_pos rfl, ih _ kept, keys_put, if_pos hany]
      intro t
      rw [keys_put, if_pos hany, hkept]
    | false =>
      rw [if_neg (by simp), ih _ (l.1 :: kept), keys_put, if_neg (by simp [hany])]
      · simp
      · intro t
        rw [keys_put, if_neg (by simp [hany]), List.any_append, List.any_cons, hkept]
        simp [Bool.or_comm]

/-- The links of a new registry are those that are put into none. -/
theorem primitives_eq_foldl_put :
    primitives.foldl (fun entries l => put l.1 l.2 entries) [] = primitives := by
  have hclasses : Class.Builtin.int ≠ Class.Builtin.float ∧
      Class.Builtin.int ≠ Class.Builtin.str ∧ Class.Builtin.int ≠ Class.Builtin.bool ∧
      Class.Builtin.float ≠ Class.Builtin.str ∧ Class.Builtin.float ≠ Class.Builtin.bool ∧
      Class.Builtin.str ≠ Class.Builtin.bool := by decide
  simp [primitives, put, identical, isHashable, same, hclasses]

/-- The entries after a run are its history, put in order. -/
theorem run_entries_eq (strict : Bool) (calls : List LinkCall) :
    ((new strict).run calls).entries =
      (history strict calls).foldl (fun entries l => put l.1 l.2 entries) [] := by
  rw [run_entries, history, List.foldl_append, primitives_eq_foldl_put]
  rfl

/-- What is found after a run is the last of its history. -/
theorem get?_run (strict : Bool) (calls : List LinkCall) (t : TypeHint) :
    ((new strict).run calls).get? t = latest? (·.identical t) (history strict calls) := by
  rw [get?, run_entries_eq, find?_foldl_put, find?, Option.or_none]

/-- The keys after a run are the first ones of its history. -/
theorem types_run (strict : Bool) (calls : List LinkCall) :
    ((new strict).run calls).types = firstKeys identical (history strict calls) := by
  rw [types, run_entries_eq, keys_foldl_put _ _ [] (by simp)]
  rfl

/-- The keys of a registry stay in front of those that later calls add. -/
theorem types_prefix_run (r : Registry) (calls : List LinkCall) :
    r.types <+: (r.run calls).types := by
  rw [types, types, run_entries, keys_foldl_put _ _ (r.entries.map Prod.fst) fun _ => rfl]
  exact List.prefix_append _ _

/-- Later calls never take a hint out of a registry. -/
theorem contains_run {r : Registry} {t : TypeHint} (h : r.contains t = .ok true)
    (calls : List LinkCall) : (r.run calls).contains t = .ok true := by
  unfold contains lookup at h ⊢
  cases hhash : t.unhashable? with
  | some container => simp [hhash, Except.map] at h
  | none =>
    simp only [hhash, Except.map, Except.ok.injEq, get?] at h ⊢
    rw [run_entries, find?_foldl_put, Option.isSome_or, h, Bool.or_true]

/-- A hint is contained if it is linked to some type. -/
theorem contains_eq_true_iff (r : Registry) (t : TypeHint) :
    r.contains t = .ok true ↔ ∃ target, r.lookup t = .ok (some target) := by
  unfold contains
  cases r.lookup t with
  | error container => simp [Except.map]
  | ok linked => simp [Except.map, Option.isSome_iff_exists]

/-- A hint is linked exactly if a key is the same as it. -/
theorem isSome_get?_iff {r : Registry} {t : TypeHint} :
    (r.get? t).isSome = true ↔ ∃ k ∈ r.types, k.identical t = true := by
  rw [get?, types]
  induction r.entries with
  | nil => simp [find?]
  | cons first rest ih =>
    rw [find?]
    split
    case isTrue hfirst => simp [hfirst]
    case isFalse hfirst => simp [hfirst, ih]

/-- A hint is linked after a run if it was linked before, or if a call writes the same key. -/
theorem isSome_get?_run (r : Registry) (calls : List LinkCall) (t : TypeHint) :
    ((r.run calls).get? t).isSome = ((r.get? t).isSome ||
      calls.any fun call => call.writes r.strict && call.key.identical t) := by
  induction calls generalizing r with
  | nil => simp [run]
  | cons call rest ih =>
    change (((r.after call).run rest).get? t).isSome = _
    rw [ih, get?_after, after_strict, List.any_cons]
    cases call.writes r.strict && call.key.identical t <;> simp

/-- Hints that are the same registry key are linked to the same type. -/
theorem get?_congr (r : Registry) {t u : TypeHint} (h : t.identical u = true) :
    r.get? t = r.get? u := by
  rw [get?, get?]
  induction r.entries with
  | nil => rfl
  | cons first rest ih =>
    have hfirst : first.1.identical t = first.1.identical u := by
      rw [Bool.eq_iff_iff]
      exact ⟨fun hk => identical_trans hk h, fun hk => identical_trans hk (identical_symm h)⟩
    rw [find?, find?, hfirst, ih]

/-- Keeping the first hints of their kind keeps hints that are not like an earlier one. -/
theorem distinctBeside_pairwise (alike : TypeHint → TypeHint → Bool) (kept xs : List TypeHint) :
    (distinctBeside alike kept xs).Pairwise (fun k t => alike t k = false) ∧
      ∀ t ∈ distinctBeside alike kept xs, ∀ k ∈ kept, alike t k = false := by
  induction xs generalizing kept with
  | nil => simp [distinctBeside]
  | cons x xs ih =>
    rw [distinctBeside]
    split
    case isTrue => exact ih kept
    case isFalse hx =>
      obtain ⟨hpairwise, hkept⟩ := ih (x :: kept)
      refine ⟨List.pairwise_cons.mpr ⟨fun t ht => hkept t ht x (by simp), hpairwise⟩, ?_⟩
      intro t ht k hk
      rcases List.mem_cons.mp ht with rfl | ht
      · simp only [List.any_eq_true, not_exists, not_and] at hx
        simpa using hx k hk
      · exact hkept t ht k (by simp [hk])

/-- Keeping the first hints of their kind keeps some of the hints. -/
theorem mem_of_mem_distinctBeside {alike : TypeHint → TypeHint → Bool} {kept xs : List TypeHint}
    {t : TypeHint} (h : t ∈ distinctBeside alike kept xs) : t ∈ xs := by
  induction xs generalizing kept with
  | nil => simp [distinctBeside] at h
  | cons x xs ih =>
    rw [distinctBeside] at h
    split at h
    · exact List.mem_cons_of_mem _ (ih h)
    · rcases List.mem_cons.mp h with rfl | h
      · exact List.mem_cons_self
      · exact List.mem_cons_of_mem _ (ih h)

/-- Comparisons that agree on all hints keep the same hints. -/
theorem distinctBeside_congr {alike alike' : TypeHint → TypeHint → Bool}
    {kept xs : List TypeHint}
    (h : ∀ t ∈ xs, ∀ k ∈ kept ++ xs, alike t k = alike' t k) :
    distinctBeside alike kept xs = distinctBeside alike' kept xs := by
  induction xs generalizing kept with
  | nil => rfl
  | cons x xs ih =>
    have hany : kept.any (alike x) = kept.any (alike' x) := by
      rw [Bool.eq_iff_iff, List.any_eq_true, List.any_eq_true]
      exact exists_congr fun k => and_congr_right fun hk => by
        rw [h x (by simp) k (by simp [hk])]
    have hfront : distinctBeside alike kept xs = distinctBeside alike' kept xs := by
      refine ih fun t ht k hk => h t (List.mem_cons_of_mem _ ht) k ?_
      exact List.perm_middle.mem_iff.mpr (List.mem_cons_of_mem _ hk)
    have hback : distinctBeside alike (x :: kept) xs = distinctBeside alike' (x :: kept) xs := by
      refine ih fun t ht k hk => h t (List.mem_cons_of_mem _ ht) k ?_
      exact List.perm_middle.mem_iff.mpr hk
    rw [distinctBeside, distinctBeside, hany, hfront, hback]

/-- Conditions that agree on all keys find the same last type. -/
theorem latest?_congr {suits suits' : TypeHint → Bool} {links : List (TypeHint × SchemaType)}
    (h : ∀ l ∈ links, suits l.1 = suits' l.1) : latest? suits links = latest? suits' links := by
  induction links with
  | nil => rfl
  | cons l rest ih =>
    rw [latest?, latest?, ih fun l hl => h l (by simp [hl]), h l (by simp)]

/-- After any run, a registry is the map of its history up to the comparison of keys. -/
theorem isMapOf_identical (strict : Bool) (calls : List LinkCall) :
    ((new strict).run calls).IsMapOf identical Set.univ (history strict calls) where
  lookup_eq t _ hhash := by
    rw [lookup, hhash, get?_run]
  contains_iff t _ _ := contains_eq_true_iff _ t
  types_eq := types_run strict calls
  primitives_prefix := types_prefix_run (new strict) calls
  types_pairwise := by
    rw [types_run]
    refine (distinctBeside_pairwise (fun t k => identical k t) [] _).1.imp ?_
    intro k t hkt
    refine ⟨hkt, ?_⟩
    rw [Bool.eq_false_iff] at hkt ⊢
    exact fun htk => hkt (identical_symm htk)
  size_eq := (List.length_map _).symm
  types_prefix := types_prefix_run _
  contains_run later _ h := contains_run h later

/-- A map up to one comparison is a map up to another one that agrees with it on the keys, and
between the keys and the stock. -/
theorem IsMapOf.congr {alike alike' : TypeHint → TypeHint → Bool} {stock : Set TypeHint}
    {links : List (TypeHint × SchemaType)} {r : Registry}
    (h : r.IsMapOf alike Set.univ links)
    (hstock : ∀ l ∈ links, ∀ t ∈ stock, t.unhashable? = none → alike l.1 t = alike' l.1 t)
    (hkeys : ∀ l ∈ links, ∀ l' ∈ links, alike l.1 l'.1 = alike' l.1 l'.1) :
    r.IsMapOf alike' stock links where
  lookup_eq t ht hhash := by
    rw [h.lookup_eq t trivial hhash]
    exact congrArg Except.ok (latest?_congr fun l hl => hstock l hl t ht hhash)
  contains_iff t _ hhash := h.contains_iff t trivial hhash
  types_eq := by
    rw [h.types_eq, firstKeys, firstKeys]
    refine distinctBeside_congr fun t ht k hk => ?_
    obtain ⟨l', hl', rfl⟩ := List.mem_map.mp ht
    obtain ⟨l, hl, rfl⟩ := List.mem_map.mp hk
    exact hkeys l hl l' hl'
  primitives_prefix := h.primitives_prefix
  types_pairwise := by
    refine h.types_pairwise.imp_of_mem fun {k t} hk ht hkt => ?_
    rw [h.types_eq] at hk ht
    obtain ⟨l, hl, rfl⟩ := List.mem_map.mp (mem_of_mem_distinctBeside hk)
    obtain ⟨l', hl', rfl⟩ := List.mem_map.mp (mem_of_mem_distinctBeside ht)
    rwa [← hkeys l hl l' hl', ← hkeys l' hl' l hl]
  size_eq := h.size_eq
  types_prefix := h.types_prefix
  contains_run := h.contains_run

/-- The history of a run holds classes and the keys of its calls. -/
theorem key_of_mem_history {strict : Bool} {calls : List LinkCall}
    {l : TypeHint × SchemaType} (h : l ∈ history strict calls) :
    (∃ c, l.1 = .cls c) ∨ (l.1.IsKey ∧ ∃ call ∈ calls, l.1 = call.key) := by
  rcases List.mem_append.mp h with hprimitive | hmade
  · simp only [primitives, List.mem_cons, List.not_mem_nil, or_false] at hprimitive
    rcases hprimitive with rfl | rfl | rfl | rfl <;> exact .inl ⟨_, rfl⟩
  · rw [linksMade_eq] at hmade
    obtain ⟨call, hcall, rfl⟩ := List.mem_map.mp hmade
    obtain ⟨hmem, hwrites⟩ := List.mem_filter.mp hcall
    have hhash := (LinkCall.of_writes hwrites).2.2
    exact .inr ⟨⟨stripAnnotated_stripAnnotated call.hint, hhash⟩, call, hmem, rfl⟩

/-- On an unambiguous stock, equality compares the keys of a run among themselves and with the
stock as registry keys are compared. -/
theorem identical_eq_identityEqual {stock : Set TypeHint} (hstock : Unambiguous stock)
    {strict : Bool} {calls : List LinkCall} (hcalls : ∀ call ∈ calls, call.key ∈ stock)
    {l : TypeHint × SchemaType} (hl : l ∈ history strict calls) {t : TypeHint}
    (hhash : t.unhashable? = none) (ht : (∃ c, t = .cls c) ∨ t ∈ stock) :
    identical l.1 t = identityEqual l.1 t := by
  rcases key_of_mem_history hl with ⟨c, hc⟩ | ⟨hkey, call, hcall, hl⟩
  · rw [hc, identityEqual_cls_left]
  · rcases ht with ⟨c, rfl⟩ | ht
    · rw [identityEqual_cls_right]
    · rw [Bool.eq_iff_iff]
      have hmem : l.1 ∈ stock := hl ▸ hcalls call hcall
      exact ⟨identityEqual_of_identical hkey.2 hhash, hstock l.1 hmem hkey t ht hhash⟩

/-- On an unambiguous stock, a registry is after any run over the stock the map of its history up
to equality. -/
theorem isMapOf_identityEqual {stock : Set TypeHint} (hstock : Unambiguous stock) (strict : Bool)
    {calls : List LinkCall} (hcalls : ∀ call ∈ calls, call.key ∈ stock) :
    ((new strict).run calls).IsMapOf identityEqual stock (history strict calls) := by
  refine (isMapOf_identical strict calls).congr (fun l hl t ht hhash => ?_) fun l hl l' hl' => ?_
  · exact identical_eq_identityEqual hstock hcalls hl hhash (.inr ht)
  · rcases key_of_mem_history hl' with ⟨c, hc⟩ | ⟨hkey, call, hcall, hl'⟩
    · exact identical_eq_identityEqual hstock hcalls hl (by rw [hc]; rfl) (.inl ⟨c, hc⟩)
    · exact identical_eq_identityEqual hstock hcalls hl hkey.2 (.inr (hl' ▸ hcalls call hcall))

/-- A single call under an annotation writes its key into a lenient registry. -/
private theorem history_single {k : TypeHint} (hk : k.IsKey) :
    history false [⟨.annotated k [.noneType], .deferred ""⟩] =
      primitives ++ [(k, .deferred "")] := by
  have hkey : k.stripAnnotated.unhashable? = none := by rw [hk.1]; exact hk.2
  simp [history, linksMade_eq, LinkCall.writes, LinkCall.key, stripAnnotated, isVoid, isNoneType,
    SchemaType.isType, new, hk.1, hk.2]

/-- **The registry is a map.** After every run on a new registry, its readers agree with the map of
the links it started with and the links made, with keys up to the comparison of registry keys. With
keys up to equality they do so, for every run over a stock of hints, exactly if the stock is
unambiguous, which it is if no hint of it holds an alias of a class to itself. -/
theorem run_isMapOf_history (stock : Set TypeHint) :
    (∀ (strict : Bool) (calls : List LinkCall),
      ((new strict).run calls).IsMapOf identical Set.univ (history strict calls)) ∧
    ((∀ (strict : Bool) (calls : List LinkCall), (∀ call ∈ calls, call.key ∈ stock) →
        ((new strict).run calls).IsMapOf identityEqual stock (history strict calls)) ↔
      Unambiguous stock) ∧
    ((∀ t ∈ stock, t.holdsSelfAlias = false) → Unambiguous stock) := by
  refine ⟨isMapOf_identical, ⟨fun h k hk hkey t ht hhash hequal => ?_,
    fun hstock strict calls hcalls => isMapOf_identityEqual hstock strict hcalls⟩,
    unambiguous_of_not_holdsSelfAlias⟩
  have hmap := h false [⟨.annotated k [.noneType], .deferred ""⟩] (by
    simpa [LinkCall.key, stripAnnotated, hkey.1] using hk)
  have hlookup := hmap.lookup_eq t ht hhash
  rw [(isMapOf_identical _ _).lookup_eq t trivial hhash, history_single hkey] at hlookup
  by_contra hother
  simp [latest?, primitives, hequal, hother] at hlookup

/-- A link of the alias of lists to themselves is not found under an annotation of lists, which
equals the alias. No stock that holds both is unambiguous. -/
theorem selfAlias_not_found :
    let linked := selfAlias Class.Builtin.list
    let annotated : TypeHint := .annotated (.cls Class.Builtin.list) [.text "m"]
    let calls := [LinkCall.mk linked (.named (.scalar "ID"))]
    identityEqual linked annotated = true ∧
      ((new true).run calls).lookup annotated = .ok none ∧
      (∀ stock : Set TypeHint, linked ∈ stock → annotated ∈ stock → ¬ Unambiguous stock) ∧
      ¬ ((new true).run calls).IsMapOf identityEqual Set.univ (history true calls) := by
  intro linked annotated calls
  have hequal : identityEqual linked annotated = true := identityEqual_selfAlias _ _
  have hother : identical linked annotated = false := identical_selfAlias _ _
  have hhistory : history true calls = primitives ++ [(linked, .named (.scalar "ID"))] := by
    rw [history, linksMade_eq]
    rfl
  have hlookup : ((new true).run calls).lookup annotated = .ok none := by
    have hhash : annotated.unhashable? = none := rfl
    rw [lookup, hhash, get?_run, hhistory]
    simp [latest?, primitives, hother]
    simp [annotated, identical, isHashable, same]
  have hambiguous (stock : Set TypeHint) (hlinked : linked ∈ stock) (hmem : annotated ∈ stock) :
      ¬ Unambiguous stock :=
    not_unambiguous_of_selfAlias hlinked hmem rfl rfl
  refine ⟨hequal, hlookup, hambiguous, fun hmap => ?_⟩
  have hmapped := hmap.lookup_eq annotated trivial rfl
  rw [hlookup, hhistory] at hmapped
  simp [latest?, primitives, hequal] at hmapped

end Registry

end SchemaLink
