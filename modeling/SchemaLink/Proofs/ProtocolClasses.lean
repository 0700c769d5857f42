import Mathlib.Data.List.Basic
import SchemaLink.Registry.Capability

/-!
# Protocols among classes

A class keeps account of the requirements that it leaves open by looking at what its bases leave
open, one base at a time. This agrees with the resolution order as a whole: a requirement is open
exactly if the first definition along the order is only a requirement. The order of a class holds
the order of each base and repeats nothing, so that the first definition of all is also the first
one of a base, which has it on its account. Protocols are therefore the classes that list the
protocol base themselves and those whose order defines some member by a requirement first. Members
that the metaclass answers for are an exception: a requirement of one is open only in the class that
lists it.
-/

namespace SchemaLink.Class

section Merging

variable {lists : List (List ClassBody)} {merged : List ClassBody} {head : ClassBody}

/-- How several orders are merged: the next head leaves all lists that it stands at the front of. -/
inductive Merges : List (List ClassBody) → List ClassBody → Prop where
  | done {lists : List (List ClassBody)} (h : lists.all List.isEmpty = true) : Merges lists []
  | step {lists : List (List ClassBody)} {head : ClassBody} {merged : List ClassBody}
      (next : nextHead? lists = some head) (rest : Merges (lists.map (dropHead head)) merged) :
      Merges lists (head :: merged)

/-- A merged order is merged head by head. -/
theorem merges_of_mergeOrders {bound : Nat} (h : mergeOrders bound lists = some merged) :
    Merges lists merged := by
  induction bound generalizing lists merged with
  | zero =>
    rw [mergeOrders] at h
    split at h
    · next hempty =>
      obtain rfl := Option.some.inj h
      exact .done hempty
    · cases h
  | succ bound ih =>
    rw [mergeOrders] at h
    split at h
    · next hempty =>
      obtain rfl := Option.some.inj h
      exact .done hempty
    · cases hnext : nextHead? lists with
      | none => rw [hnext] at h; cases h
      | some head =>
        rw [hnext] at h
        obtain ⟨rest, hrest, rfl⟩ := Option.map_eq_some_iff.mp h
        exact .step hnext (ih hrest)

/-- The next head stands at the front of a list. -/
theorem exists_mem_of_nextHead? (h : nextHead? lists = some head) :
    ∃ xs ∈ lists, head ∈ xs := by
  obtain ⟨xs, hxs, hhead⟩ := List.mem_filterMap.mp (List.mem_of_find?_eq_some h)
  exact ⟨xs, hxs, List.mem_of_mem_head? hhead⟩

/-- The next head stands in no tail, and so nowhere once it was dropped. -/
theorem notMem_dropHead (h : nextHead? lists = some head) {xs : List ClassBody}
    (hxs : xs ∈ lists) : head ∉ dropHead head xs := by
  have htails := List.find?_some h
  have htail : head ∉ xs.tail := by simpa using List.all_eq_true.mp htails xs hxs
  cases xs with
  | nil => exact List.not_mem_nil
  | cons first rest =>
    rw [dropHead]
    split
    · exact htail
    · next hne =>
      rw [List.mem_cons, not_or]
      exact ⟨Ne.symm hne, htail⟩

/-- A list without its head holds nothing new. -/
theorem mem_of_mem_dropHead {body : ClassBody} {xs : List ClassBody}
    (h : body ∈ dropHead head xs) : body ∈ xs := by
  cases xs with
  | nil => exact h
  | cons first rest =>
    rw [dropHead] at h
    split at h
    · exact List.mem_cons_of_mem first h
    · exact h

/-- Every list is kept in its order. -/
theorem Merges.sublist (h : Merges lists merged) : ∀ xs ∈ lists, xs.Sublist merged := by
  induction h with
  | done hempty =>
    intro xs hxs
    rw [List.isEmpty_iff.mp (List.all_eq_true.mp hempty xs hxs)]
  | @step lists head merged hnext hrest ih =>
    intro xs hxs
    have hdropped := ih _ (List.mem_map_of_mem hxs)
    cases xs with
    | nil => exact List.nil_sublist _
    | cons first rest =>
      rw [dropHead] at hdropped
      split at hdropped
      · next heq => exact heq ▸ hdropped.cons_cons first
      · exact hdropped.cons head

/-- Everything comes from one of the lists. -/
theorem Merges.exists_mem (h : Merges lists merged) :
    ∀ body ∈ merged, ∃ xs ∈ lists, body ∈ xs := by
  induction h with
  | done => exact nofun
  | @step lists head merged hnext hrest ih =>
    intro body hbody
    rcases List.mem_cons.mp hbody with rfl | hbody
    · exact exists_mem_of_nextHead? hnext
    · obtain ⟨dropped, hdropped, hmem⟩ := ih body hbody
      obtain ⟨xs, hxs, rfl⟩ := List.mem_map.mp hdropped
      exact ⟨xs, hxs, mem_of_mem_dropHead hmem⟩

/-- Nothing is repeated. -/
theorem Merges.nodup (h : Merges lists merged) : merged.Nodup := by
  induction h with
  | done => exact List.nodup_nil
  | @step lists head merged hnext hrest ih =>
    refine List.nodup_cons.mpr ⟨fun hmem => ?_, ih⟩
    obtain ⟨dropped, hdropped, hhead⟩ := hrest.exists_mem head hmem
    obtain ⟨xs, hxs, rfl⟩ := List.mem_map.mp hdropped
    exact notMem_dropHead hnext hxs hhead

end Merging

section Ancestors

variable {bases : List Class} {ancestors : List ClassBody}

/-- The ancestors hold the order of every base, come from the orders of the bases, and do not
repeat. -/
theorem ancestors_of_linearize? (h : linearize? bases = some ancestors) :
    (∀ b ∈ bases, b.order.Sublist ancestors) ∧ (∀ body ∈ ancestors, ∃ b ∈ bases, body ∈ b.order) ∧
      ancestors.Nodup := by
  have hmerges := merges_of_mergeOrders h
  refine ⟨fun b hb => ?_, fun body hbody => ?_, hmerges.nodup⟩
  · exact hmerges.sublist _ (List.mem_append_left _ (List.mem_map_of_mem hb))
  · obtain ⟨xs, hxs, hmem⟩ := hmerges.exists_mem body hbody
    rcases List.mem_append.mp hxs with hxs | hxs
    · obtain ⟨b, hb, rfl⟩ := List.mem_map.mp hxs
      exact ⟨b, hb, hmem⟩
    · rw [List.mem_singleton.mp hxs] at hmem
      obtain ⟨b, hb, rfl⟩ := List.mem_map.mp hmem
      exact ⟨b, hb, List.mem_cons_self⟩

/-- The first definition of a member is the first one that a body gives. -/
theorem firstDefinition?_eq_findSome? (name : String) (order : List ClassBody) :
    firstDefinition? name order = order.findSome? fun body => body.member? name := by
  induction order with
  | nil => rfl
  | cons body rest ih =>
    rw [firstDefinition?, List.findSome?_cons, ih]
    cases body.member? name <;> rfl

/-- The first definition in a list without repetition is the first one in any part of the list that
holds the body it stands in. -/
theorem firstDefinition?_of_sublist {name : String} {isRequired : Bool} {order : List ClassBody}
    (hnodup : ancestors.Nodup) (hsub : order.Sublist ancestors) {before after : List ClassBody}
    {body : ClassBody} (hancestors : ancestors = before ++ body :: after)
    (hbefore : ∀ e ∈ before, e.member? name = none) (hbody : body.member? name = some isRequired)
    (hmem : body ∈ order) : firstDefinition? name order = some isRequired := by
  subst hancestors
  obtain ⟨hleft, hright, hdisjoint⟩ := List.nodup_append.mp hnodup
  obtain ⟨left, right, rfl, hsubleft, hsubright⟩ := List.sublist_append_iff.mp hsub
  have hnotleft : body ∉ left := fun h =>
    hdisjoint body (hsubleft.subset h) body List.mem_cons_self rfl
  have hinright : body ∈ right := (List.mem_append.mp hmem).resolve_left hnotleft
  rcases List.sublist_cons_iff.mp hsubright with hafter | ⟨rest, rfl, -⟩
  · exact absurd (hafter.subset hinright) (List.nodup_cons.mp hright).1
  · rw [firstDefinition?_eq_findSome?, List.findSome?_eq_some_iff]
    exact ⟨left, body, rest, rfl, hbody, fun e he => hbefore e (hsubleft.subset he)⟩

/-- What is defined first among the ancestors is defined first by a base. -/
theorem exists_base_of_firstDefinition? (h : linearize? bases = some ancestors) {name : String}
    {isRequired : Bool} (hname : firstDefinition? name ancestors = some isRequired) :
    ∃ b ∈ bases, firstDefinition? name b.order = some isRequired := by
  obtain ⟨hsublist, hfrom, hnodup⟩ := ancestors_of_linearize? h
  rw [firstDefinition?_eq_findSome?, List.findSome?_eq_some_iff] at hname
  obtain ⟨before, body, after, hancestors, hbody, hbefore⟩ := hname
  obtain ⟨b, hb, hmem⟩ := hfrom body (by simp [hancestors])
  exact ⟨b, hb, firstDefinition?_of_sublist hnodup (hsublist b hb) hancestors hbefore hbody hmem⟩

end Ancestors

section Account

variable {c : Class} {d : Definition}

/-- A class that has a requirement in its order keeps account. -/
def KeepsAccount (c : Class) : Prop :=
  (∃ body ∈ c.order, body.required ≠ []) → c.accountable = true

instance (c : Class) : Decidable c.KeepsAccount :=
  inferInstanceAs (Decidable ((∃ body ∈ c.order, body.required ≠ []) → c.accountable = true))

/-- A member is left open if it is defined first as a requirement, and by the class itself if the
metaclass answers for it. -/
def LeavesOpen (c : Class) (name : String) : Prop :=
  firstDefinition? name c.order = some true ∧ (name ∈ metaclassMembers → name ∈ c.body.required)

instance (c : Class) : DecidablePred c.LeavesOpen := fun name =>
  inferInstanceAs (Decidable (firstDefinition? name c.order = some true ∧
    (name ∈ metaclassMembers → name ∈ c.body.required)))

/-- The requirements that the class has on its account are those that it leaves open. -/
def Accounts (c : Class) : Prop := ∀ name, name ∈ c.openRequirements ↔ c.LeavesOpen name

/-- A body requires a member exactly if it defines it as a requirement. -/
theorem mem_required_iff {body : ClassBody} {name : String} :
    name ∈ body.required ↔ body.member? name = some true := by
  rw [ClassBody.member?]
  split
  · next hname => simp [hname]
  · next hname =>
    refine iff_of_false hname ?_
    split <;> exact nofun

/-- What is defined first as a requirement is required by a body. -/
theorem exists_required_of_firstDefinition? {name : String} {order : List ClassBody}
    (h : firstDefinition? name order = some true) : ∃ body ∈ order, name ∈ body.required := by
  rw [firstDefinition?_eq_findSome?] at h
  obtain ⟨body, hmem, hbody⟩ := List.exists_of_findSome?_eq_some h
  exact ⟨body, hmem, mem_required_iff.mpr hbody⟩

/-- No requirement is defined first if a definition with content comes before each. -/
theorem firstDefinition?_ne_true {name : String} {order : List ClassBody}
    (h : ∀ before body after, order = before ++ body :: after → name ∈ body.required →
      ∃ earlier ∈ before, earlier.member? name = some false) :
    firstDefinition? name order ≠ some true := by
  intro hname
  rw [firstDefinition?_eq_findSome?, List.findSome?_eq_some_iff] at hname
  obtain ⟨before, body, after, horder, hbody, hbefore⟩ := hname
  obtain ⟨earlier, hearlier, hcontent⟩ := h before body after horder (mem_required_iff.mpr hbody)
  rw [hbefore earlier hearlier] at hcontent
  cases hcontent

/-- A class that keeps account is abstract exactly if it leaves a member open. -/
theorem isAbstract_iff (hkeeps : c.KeepsAccount) (haccounts : c.Accounts) :
    c.isAbstract = true ↔ ∃ name, c.LeavesOpen name := by
  rw [isAbstract, Bool.and_eq_true, Bool.not_eq_true', List.isEmpty_eq_false_iff_exists_mem]
  simp only [haccounts _]
  refine and_iff_right_of_imp fun ⟨name, hname, _⟩ => ?_
  obtain ⟨body, hbody, hrequired⟩ := exists_required_of_firstDefinition? hname
  exact hkeeps ⟨body, hbody, List.ne_nil_of_mem hrequired⟩

/-- A class that is defined takes its parts from the definition and from its ancestors. -/
theorem ofDefinition?_parts (h : ofDefinition? d = some c) :
    linearize? d.bases = some c.ancestors ∧ c.body = ⟨d.id, d.concrete, d.required⟩ ∧
      c.openRequirements =
        (if c.accountable then openFrom c.body d.bases c.ancestors else []) ∧
      c.marked = d.marked := by
  obtain ⟨ancestors, hancestors, rfl⟩ := Option.map_eq_some_iff.mp h
  exact ⟨hancestors, rfl, rfl, rfl⟩

/-- A member that a class requires itself is left open. -/
theorem leavesOpen_of_mem_required {name : String} (h : name ∈ c.body.required) :
    c.LeavesOpen name := by
  refine ⟨?_, fun _ => h⟩
  rw [order, firstDefinition?, mem_required_iff.mp h]

/-- A member that a class does not require itself is left open if its ancestors leave it so and the
metaclass does not answer for it. -/
theorem leavesOpen_iff_of_notMem_required {name : String} (h : name ∉ c.body.required) :
    c.LeavesOpen name ↔
      name ∉ metaclassMembers ∧ firstDefinition? name c.order = some true := by
  rw [LeavesOpen, and_comm]
  refine and_congr_left fun _ => ⟨fun himp hmeta => h (himp hmeta), fun hmeta hin => ?_⟩
  exact absurd hin hmeta

/-- A defined class that keeps account has on it what it leaves open, if its bases do. -/
theorem accounts_of_ofDefinition? (h : ofDefinition? d = some c)
    (hbases : ∀ b ∈ d.bases, b.Accounts) (hkeeps : c.KeepsAccount) : c.Accounts := by
  intro name
  obtain ⟨hancestors, -, hopen, -⟩ := ofDefinition?_parts h
  cases haccountable : c.accountable with
  | false =>
    -- There is no requirement in the order, and so none is open.
    rw [haccountable, if_neg Bool.false_ne_true] at hopen
    rw [hopen]
    refine iff_of_false List.not_mem_nil fun hname => ?_
    obtain ⟨body, hbody, hrequired⟩ := exists_required_of_firstDefinition? hname.1
    cases haccountable.symm.trans (hkeeps ⟨body, hbody, List.ne_nil_of_mem hrequired⟩)
  | true =>
    rw [haccountable, if_pos rfl] at hopen
    rw [hopen, openFrom, List.mem_append, List.mem_filter, List.mem_flatMap, decide_eq_true_eq]
    by_cases hown : name ∈ c.body.required
    · exact iff_of_true (.inl hown) (leavesOpen_of_mem_required hown)
    · rw [leavesOpen_iff_of_notMem_required hown, or_iff_right hown]
      refine and_iff_right_of_imp fun ⟨hmeta, hname⟩ => ?_
      -- The class itself says nothing about the member, so that a base leaves it open.
      have hsilent : c.body.member? name = none := by
        cases hsaid : c.body.member? name with
        | none => rfl
        | some isRequired =>
          rw [firstDefinition?, hsaid] at hname
          exact absurd (mem_required_iff.mpr (hsaid.trans hname)) hown
      have hancestor : firstDefinition? name c.ancestors = some true := by
        rwa [firstDefinition?, hsilent] at hname
      obtain ⟨b, hb, hbase⟩ := exists_base_of_firstDefinition? hancestors hancestor
      exact ⟨b, hb, (hbases b hb name).mpr ⟨hbase, fun hin => (hmeta hin).elim⟩⟩

end Account

section Hierarchy

/-- A check of the account of a class, over the requirements in its order. -/
def isAccounted (c : Class) : Bool :=
  c.openRequirements.all (fun name => c.LeavesOpen name) &&
    (c.order.flatMap ClassBody.required).all fun name =>
      c.LeavesOpen name → name ∈ c.openRequirements

/-- A class whose account is checked has on it what it leaves open. -/
theorem accounts_of_isAccounted {c : Class} (h : c.isAccounted = true) : c.Accounts := by
  obtain ⟨hopen, hfirst⟩ := Bool.and_eq_true_iff.mp h
  refine fun name => ⟨fun hname => ?_, fun hname => ?_⟩
  · exact of_decide_eq_true (List.all_eq_true.mp hopen name hname)
  · obtain ⟨body, hbody, hrequired⟩ := exists_required_of_firstDefinition? hname.1
    have hmem : name ∈ c.order.flatMap ClassBody.required :=
      List.mem_flatMap.mpr ⟨body, hbody, hrequired⟩
    exact of_decide_eq_true (List.all_eq_true.mp hfirst name hmem) hname

/-- The built-in classes have on their accounts what they leave open. -/
theorem accounts_of_builtin : ∀ c ∈ Builtin.all, c.Accounts := by
  have hchecked : ∀ c ∈ Builtin.all, c.isAccounted = true := by decide +kernel
  exact fun c hc => accounts_of_isAccounted (hchecked c hc)

/-- No member of the declaration sets the mark of protocols by hand. -/
def Declaration.Unmarked (d : Declaration) : Prop := protocolMember ∉ d.listed ++ d.fields

instance (d : Declaration) : Decidable d.Unmarked :=
  inferInstanceAs (Decidable (protocolMember ∉ d.listed ++ d.fields))

/-- A declaration that does not set the mark by hand leaves it to the hook of the protocol base. -/
theorem Declaration.Unmarked.marked_eq {d : Declaration} (h : d.Unmarked) (bases : List Class)
    (ancestors : List ClassBody) : d.marked bases ancestors =
      (bases.contains Builtin.protocol &&
        decide (Builtin.protocol.body ∈ runningHooks ancestors)) := by
  simp only [Unmarked, listed, List.mem_append, not_or] at h
  obtain ⟨⟨⟨hmethods, hattributes⟩, hrequired⟩, -⟩ := h
  have hlookup : d.attributes.lookup protocolMember = none := by
    rw [List.lookup_eq_none_iff]
    intro entry hentry
    rw [bne_iff_ne]
    exact fun heq => hattributes (heq ▸ List.mem_map_of_mem hentry)
  have hlisted : (d.methods ++ d.required).contains protocolMember = false := by
    simp [hmethods, hrequired]
  rw [marked, hlookup, hlisted, Bool.false_or]

/-- The classes that can be declared one after the other, starting with the built-in ones, where
none is marked as a protocol by hand and each keeps account of requirements if there are any. -/
inductive Hierarchy : Class → Prop where
  | builtin {c : Class} (h : c ∈ Builtin.all) : Hierarchy c
  | declared {classes : List Class} {d : Declaration} {c : Class}
      (given : ∀ b ∈ classes, Hierarchy b)
      (unmarked : d.Unmarked) (keeps : c.KeepsAccount)
      (h : declare? classes d = some c) : Hierarchy c

variable {classes : List Class} {d : Declaration} {definition : Definition} {c : Class}

/-- The classes that are found by their identifiers are given. -/
theorem mem_of_mapM_find? {ids : List String} {found : List Class}
    (h : ids.mapM (find? classes) = some found) : ∀ b ∈ found, b ∈ classes := by
  induction ids generalizing found with
  | nil =>
    obtain rfl : [] = found := by simpa using h
    exact nofun
  | cons id ids ih =>
    rw [List.mapM_cons] at h
    obtain ⟨b, hb, h⟩ := Option.bind_eq_some_iff.mp h
    obtain ⟨rest, hrest, h⟩ := Option.bind_eq_some_iff.mp h
    obtain rfl := Option.some.inj h
    rintro x hx
    rcases List.mem_cons.mp hx with rfl | hx
    · exact List.mem_of_find?_eq_some hb
    · exact ih hrest x hx

/-- The bases that the kind of a class brings are built-in. -/
theorem mem_of_mem_impliedBases {declared : List Class} {b : Class}
    (h : b ∈ d.impliedBases declared) : b ∈ Builtin.all := by
  have hbuiltin : ∀ b ∈ [Builtin.abstractBase, Builtin.generic, Builtin.protocol, Builtin.tuple,
      Builtin.dict], b ∈ Builtin.all := by decide +kernel
  have hgeneric : ∀ b ∈ d.genericBases declared, b = Builtin.generic := by
    intro b hb
    unfold Declaration.genericBases at hb
    split at hb
    · cases hb
    · exact List.mem_singleton.mp hb
  refine hbuiltin b ?_
  cases hkind : d.kind <;> simp only [Declaration.impliedBases, hkind] at h
  case plain => simp [hgeneric b h]
  case dataClass => simp [hgeneric b h]
  case abstractBase =>
    rcases List.mem_cons.mp h with rfl | h
    · exact List.mem_cons_self
    · simp [hgeneric b h]
  case protocol => simp [List.mem_singleton.mp h]
  case namedTuple =>
    rcases List.mem_cons.mp h with rfl | h
    · simp
    · simp [hgeneric b h]
  case typedMapping =>
    rcases List.mem_append.mp h with h | h
    · simp [hgeneric b h]
    · simp [List.mem_singleton.mp h]

/-- All bases of a class are declared or built-in. -/
theorem mem_of_mem_allBases {declared : List Class} {b : Class} (h : b ∈ d.allBases declared) :
    b ∈ declared ∨ b ∈ Builtin.all := by
  unfold Declaration.allBases at h
  split at h
  · exact .inr (mem_of_mem_impliedBases h)
  · exact .inr (mem_of_mem_impliedBases h)
  · split at h
    · rw [List.mem_singleton.mp h]
      exact .inr List.mem_cons_self
    · next bases _ =>
      exact (List.mem_append.mp h).imp_right mem_of_mem_impliedBases

/-- A declaration that is adjusted to its bases lists the same members. -/
theorem Declaration.Unmarked.adjust (h : d.Unmarked) (declared : List Class) :
    (d.adjust declared).Unmarked := by
  rw [Declaration.adjust]
  split <;> exact h

/-- The bases of a declared class are given or built-in, and it is marked as a protocol by the hook
of the protocol base if not by hand. -/
theorem definition?_parts (h : d.definition? classes = some definition) :
    (∀ b ∈ definition.bases, b ∈ classes ∨ b ∈ Builtin.all) ∧
      (d.Unmarked → ∀ ancestors, linearize? definition.bases = some ancestors →
        definition.marked = (definition.bases.contains Builtin.protocol &&
          decide (Builtin.protocol.body ∈ runningHooks ancestors))) := by
  obtain ⟨declared, hdeclared, h⟩ := Option.bind_eq_some_iff.mp h
  obtain ⟨ancestors, hancestors, h⟩ := Option.bind_eq_some_iff.mp h
  obtain rfl := Option.some.inj h
  refine ⟨fun b hb => (mem_of_mem_allBases hb).imp_left (mem_of_mapM_find? hdeclared b), ?_⟩
  intro hunmarked ancestors' hancestors'
  obtain rfl := Option.some.inj (hancestors.symm.trans hancestors')
  exact (hunmarked.adjust declared).marked_eq _ _

/-- Every class of a hierarchy has on its account what it leaves open. -/
theorem Hierarchy.accounts (h : Hierarchy c) : c.Accounts := by
  induction h with
  | builtin h => exact accounts_of_builtin _ h
  | @declared classes d c given unmarked keeps h ih =>
    obtain ⟨definition, hdefinition, hclass⟩ := Option.bind_eq_some_iff.mp h
    refine accounts_of_ofDefinition? hclass (fun b hb => ?_) keeps
    exact ((definition?_parts hdefinition).1 b hb).elim (ih b) (accounts_of_builtin b)

/-- Declarations keep the classes that are given. -/
theorem mem_declareAll (h : c ∈ classes) (declarations : List Declaration) :
    c ∈ declareAll classes declarations := by
  induction declarations generalizing classes with
  | nil => exact h
  | cons d rest ih =>
    rw [declareAll]
    split
    · exact ih (List.mem_cons_of_mem _ h)
    · exact ih h

/-- Declarations of which none marks its class by hand make a hierarchy, if each class keeps account
of requirements. -/
theorem hierarchy_declareAll {declarations : List Declaration}
    (given : ∀ b ∈ classes, Hierarchy b) (unmarked : ∀ d ∈ declarations, d.Unmarked)
    (keeps : ∀ c ∈ declareAll classes declarations, c.KeepsAccount) :
    ∀ c ∈ declareAll classes declarations, Hierarchy c := by
  induction declarations generalizing classes with
  | nil => exact given
  | cons d rest ih =>
    have hrest := fun d hd => unmarked d (List.mem_cons_of_mem _ hd)
    rw [declareAll] at keeps ⊢
    split at keeps
    · next c hc =>
      refine ih (fun b hb => ?_) hrest keeps
      rcases List.mem_cons.mp hb with rfl | hb
      · exact .declared given (unmarked d List.mem_cons_self)
          (keeps _ (mem_declareAll List.mem_cons_self rest)) hc
      · exact given b hb
    · exact ih given hrest keeps

/-- **Protocols are contracts, whatever they inherit.** In every hierarchy, a declared class is a
protocol exactly if it lists the protocol base itself, or if some member is defined first in its
resolution order as a requirement, by the class itself if the metaclass answers for the member. So a
class that does not list the protocol base, and whose order has a definition with content before
every requirement, is no protocol, however far it is from the protocols it descends from; one that
lists the base again is a protocol whatever it defines. The mark of the protocol base is set by its
hook, which is assumed to run where the base is listed. -/
theorem isProtocol_iff_contract (given : ∀ b ∈ classes, Hierarchy b)
    (unmarked : d.Unmarked) (keeps : c.KeepsAccount)
    (hdefinition : d.definition? classes = some definition)
    (hclass : ofDefinition? definition = some c)
    (hook : Builtin.protocol ∈ definition.bases →
      Builtin.protocol.body ∈ runningHooks c.ancestors) :
    (∀ t : TypeHint, t.stripAnnotated = .cls c → (t.isProtocol = true ↔
      Builtin.protocol ∈ definition.bases ∨
        ∃ name, firstDefinition? name c.order = some true ∧
          (name ∈ metaclassMembers → name ∈ c.body.required))) ∧
    (Builtin.protocol ∉ definition.bases →
      (∀ before body after, c.order = before ++ body :: after → ∀ name ∈ body.required,
        ∃ earlier ∈ before, earlier.member? name = some false) → c.isProtocol = false) ∧
    (Builtin.protocol ∈ definition.bases → c.isProtocol = true) := by
  have hiff : c.isProtocol = true ↔ Builtin.protocol ∈ definition.bases ∨
      ∃ name, c.LeavesOpen name := by
    have hdeclared : declare? classes d = some c :=
      Option.bind_eq_some_iff.mpr ⟨definition, hdefinition, hclass⟩
    have haccounts := (Hierarchy.declared given unmarked keeps hdeclared).accounts
    obtain ⟨hancestors, -, -, hmark⟩ := ofDefinition?_parts hclass
    have hmarked : c.marked = true ↔ Builtin.protocol ∈ definition.bases := by
      rw [hmark, (definition?_parts hdefinition).2 unmarked _ hancestors, Bool.and_eq_true,
        List.contains_iff_mem, decide_eq_true_eq]
      exact and_iff_left_of_imp hook
    rw [isProtocol, Bool.or_eq_true, isAbstract_iff keeps haccounts, hmarked]
  refine ⟨fun t ht => ?_, fun hbase hcontent => ?_, fun hbase => hiff.mpr (.inl hbase)⟩
  · rw [TypeHint.isProtocol, ht]
    exact hiff
  · rw [Bool.eq_false_iff, ne_eq, hiff, not_or]
    exact ⟨hbase, fun ⟨name, hname, _⟩ => firstDefinition?_ne_true
      (fun before body after horder => hcontent before body after horder name) hname⟩

/-- A protocol, a class that gives its member content, a class that leaves it open, and a class of
the latter two. -/
def diamond : List Declaration :=
  let base : Declaration :=
    { id := "contract", name := "Contract", kind := .protocol, bases := [], parameters := []
      methods := [], required := ["run"], fields := [], attributes := [] }
  [ base,
    { base with id := "given", name := "Given", kind := .plain, bases := ["contract"]
                methods := ["run"], required := [] },
    { base with id := "open", name := "Open", kind := .plain, bases := ["contract"]
                required := [] } ]

/-- The class of the diamond that lists the open one first. -/
def diamondTip : Declaration :=
  { id := "tip", name := "Tip", kind := .plain, bases := ["open", "given"], parameters := []
    methods := [], required := [], fields := [], attributes := [] }

/-- The tip of the diamond is no protocol: its order has the content given by one parent before the
requirement that the other parent leaves open. -/
theorem isProtocol_iff_contract_diamond :
    ∃ definition c, diamondTip.definition? (declareAll Builtin.all diamond) = some definition ∧
      ofDefinition? definition = some c ∧ c.isProtocol = false ∧
      firstDefinition? "run" c.order = some false ∧
      ∀ name, firstDefinition? name c.order = some true →
        name ∈ metaclassMembers ∧ name ∉ c.body.required := by
  have hgiven : ∀ b ∈ declareAll Builtin.all diamond, Hierarchy b :=
    hierarchy_declareAll (fun b hb => .builtin hb) (by decide +kernel) (by decide +kernel)
  obtain ⟨definition, hdefinition⟩ : ∃ definition,
      diamondTip.definition? (declareAll Builtin.all diamond) = some definition :=
    Option.isSome_iff_exists.mp (by decide +kernel)
  have hbases : ∀ x ∈ diamondTip.definition? (declareAll Builtin.all diamond),
      Builtin.protocol ∉ x.bases ∧ (ofDefinition? x).isSome = true := by decide +kernel
  obtain ⟨hprotocolBase, hsome⟩ := hbases definition hdefinition
  obtain ⟨c, hclass⟩ : ∃ c, ofDefinition? definition = some c := Option.isSome_iff_exists.mp hsome
  have hfacts : ∀ x ∈ declare? (declareAll Builtin.all diamond) diamondTip,
      x.KeepsAccount ∧ x.isProtocol = false ∧ firstDefinition? "run" x.order = some false := by
    decide +kernel
  obtain ⟨hkeeps, hprotocol, hrun⟩ :=
    hfacts c (Option.bind_eq_some_iff.mpr ⟨definition, hdefinition, hclass⟩)
  obtain ⟨hiff, -, -⟩ := isProtocol_iff_contract hgiven (by decide +kernel) hkeeps hdefinition
    hclass fun hbase => absurd hbase hprotocolBase
  refine ⟨definition, c, hdefinition, hclass, hprotocol, hrun, fun name hname => ?_⟩
  have hmet : ¬ (name ∈ metaclassMembers → name ∈ c.body.required) := fun himp => by
    have htrue : c.isProtocol = true := (hiff (.cls c) rfl).mpr (.inr ⟨name, hname, himp⟩)
    cases hprotocol.symm.trans htrue
  exact Classical.not_imp.mp hmet

/-- A class that keeps account and requires a member by the name that every class has. -/
def namedContract : Declaration :=
  { id := "contract", name := "Contract", kind := .abstractBase, bases := [], parameters := []
    methods := [], required := ["__name__"], fields := [], attributes := [] }

/-- A class that descends from it and defines nothing. -/
def namedDescendant : Declaration :=
  { namedContract with id := "descendant", name := "Descendant", kind := .plain
                       bases := ["contract"], required := [] }

/-- A class that only inherits the requirement of a name is no protocol, although the requirement is
the first definition in its order: the class has a name. -/
theorem inherited_name_is_met :
    (∀ d ∈ [namedContract, namedDescendant], d.Unmarked) ∧
    (∀ c ∈ declareAll Builtin.all [namedContract], Hierarchy c) ∧
    ∃ definition c,
      namedDescendant.definition? (declareAll Builtin.all [namedContract]) = some definition ∧
      ofDefinition? definition = some c ∧ c.KeepsAccount ∧
      Builtin.protocol ∉ definition.bases ∧
      firstDefinition? "__name__" c.order = some true ∧ c.isProtocol = false := by
  have hunmarked : ∀ d ∈ [namedContract, namedDescendant], d.Unmarked := by decide +kernel
  have hgiven : ∀ c ∈ declareAll Builtin.all [namedContract], Hierarchy c :=
    hierarchy_declareAll (fun b hb => .builtin hb) (by decide +kernel) (by decide +kernel)
  obtain ⟨definition, hdefinition⟩ : ∃ definition,
      namedDescendant.definition? (declareAll Builtin.all [namedContract]) = some definition :=
    Option.isSome_iff_exists.mp (by decide +kernel)
  have hfacts : ∀ x ∈ namedDescendant.definition? (declareAll Builtin.all [namedContract]),
      Builtin.protocol ∉ x.bases ∧ (ofDefinition? x).isSome = true ∧ ∀ c ∈ ofDefinition? x,
        c.KeepsAccount ∧ firstDefinition? "__name__" c.order = some true ∧
          c.isProtocol = false := by decide +kernel
  obtain ⟨hbase, hsome, hclass⟩ := hfacts definition hdefinition
  obtain ⟨c, hc⟩ := Option.isSome_iff_exists.mp hsome
  obtain ⟨hkeeps, hname, hprotocol⟩ := hclass c hc
  exact ⟨hunmarked, hgiven, definition, c, hdefinition, hc, hkeeps, hbase, hname, hprotocol⟩

end Hierarchy

end SchemaLink.Class
