import SchemaLink.Registry.Basic

/-!
# Runs of links

A run links one hint after the other, and a refused call leaves the registry as it was. Whether a
call writes into a registry depends on the call and on the strictness of the registry alone, so that
the entries after a run are those of the calls that write, put in order. A strict registry refuses
the types that cannot stand inside a non-null layer, and therefore never holds one.
-/

namespace SchemaLink

/-- A call that links a hint to a schema type. -/
structure LinkCall where
  hint : TypeHint
  target : SchemaType

namespace LinkCall

/-- The key that the call writes, which stands under no annotation. -/
def key (call : LinkCall) : TypeHint := call.hint.stripAnnotated

/-- Whether the call links a type that cannot stand inside a non-null layer. -/
def linksNonNull (call : LinkCall) : Bool := call.target.isType && !call.target.isNullable

/-- Whether the call writes an entry into a registry of the given strictness. -/
def writes (strict : Bool) (call : LinkCall) : Bool :=
  !call.hint.isVoid && call.target.isType && !(strict && !call.target.isNullable)
    && call.key.unhashable?.isNone

/-- A call that writes links a schema type under a key that can be hashed, and if the registry is
strict, then the type may stand inside a non-null layer. -/
theorem of_writes {strict : Bool} {call : LinkCall} (h : call.writes strict = true) :
    call.target.isType = true ∧ (strict = true → call.target.isNullable = true) ∧
      call.key.unhashable? = none := by
  simp only [writes, Bool.and_eq_true, Option.isNone_iff_eq_none] at h
  obtain ⟨⟨⟨-, htype⟩, hnullable⟩, hhash⟩ := h
  refine ⟨htype, ?_, hhash⟩
  rintro rfl
  simpa using hnullable

end LinkCall

namespace Registry

/-- The registry after a call: a refused call leaves it as it was. -/
def after (r : Registry) (call : LinkCall) : Registry :=
  match r.link call.hint call.target with
  | .ok linked => linked
  | .error _ => r

/-- The registry after a run of calls. -/
def run (r : Registry) (calls : List LinkCall) : Registry := calls.foldl after r

/-- The registry is what a run leaves of a new one. -/
def Reached (strict : Bool) (r : Registry) : Prop := ∃ calls, r = (new strict).run calls

/-- The links that a run makes, each as its key and its type: those of the calls that succeed,
unless they link the absence of a type. -/
def linksMade (r : Registry) : List LinkCall → List (TypeHint × SchemaType)
  | [] => []
  | call :: rest =>
    match r.link call.hint call.target with
    | .ok linked =>
      if call.hint.isVoid then linked.linksMade rest
      else (call.key, call.target) :: linked.linksMade rest
    | .error _ => r.linksMade rest

/-- Everything that a call may do: linking the absence of a type does nothing, a call that writes
puts its key, and any other call is refused. -/
theorem link_cases (r : Registry) (call : LinkCall) :
    (call.hint.isVoid = true ∧ call.writes r.strict = false ∧
      r.link call.hint call.target = .ok r) ∨
    (call.hint.isVoid = false ∧ call.writes r.strict = true ∧
      r.link call.hint call.target =
        .ok { r with entries := put call.key call.target r.entries }) ∨
    (call.hint.isVoid = false ∧ call.writes r.strict = false ∧
      ∃ e, r.link call.hint call.target = .error e) := by
  cases hvoid : call.hint.isVoid with
  | true => exact .inl ⟨rfl, by simp [LinkCall.writes, hvoid], by simp [link, hvoid]⟩
  | false =>
    right
    cases htype : call.target.isType with
    | false =>
      refine .inr ⟨rfl, by simp [LinkCall.writes, htype],
        .notAType call.hint.displayName call.target, ?_⟩
      simp [link, hvoid, htype]
    | true =>
      cases hnull : r.strict && !call.target.isNullable with
      | true =>
        refine .inr ⟨rfl, by simp [LinkCall.writes, hnull],
          .notNullable call.hint.displayName call.target, ?_⟩
        simp [link, hvoid, htype, hnull]
      | false =>
        cases hkey : call.key.unhashable? with
        | none =>
          refine .inl ⟨rfl, by simp [LinkCall.writes, hvoid, htype, hnull, hkey], ?_⟩
          rw [LinkCall.key] at hkey
          simp [link, LinkCall.key, hvoid, htype, hnull, hkey]
        | some container =>
          refine .inr ⟨rfl, by simp [LinkCall.writes, hkey], .unhashable container, ?_⟩
          rw [LinkCall.key] at hkey
          simp [link, hvoid, htype, hnull, hkey]

/-- A call puts its key if it writes, and else changes nothing. -/
theorem after_eq (r : Registry) (call : LinkCall) : r.after call =
    if call.writes r.strict then { r with entries := put call.key call.target r.entries }
    else r := by
  obtain ⟨-, hw, h⟩ | ⟨-, hw, h⟩ | ⟨-, hw, e, h⟩ := r.link_cases call <;> simp [after, h, hw]

/-- Calls never change the strictness of a registry. -/
@[simp] theorem after_strict (r : Registry) (call : LinkCall) :
    (r.after call).strict = r.strict := by
  rw [after_eq]
  split <;> rfl

/-- The links that a run makes are those of the calls that write. -/
theorem linksMade_eq (r : Registry) (calls : List LinkCall) :
    r.linksMade calls =
      (calls.filter (·.writes r.strict)).map fun call => (call.key, call.target) := by
  induction calls generalizing r with
  | nil => rfl
  | cons call rest ih =>
    obtain ⟨hvoid, hw, h⟩ | ⟨hvoid, hw, h⟩ | ⟨-, hw, e, h⟩ := r.link_cases call
    · simp [linksMade, h, hvoid, hw, ih]
    · simp [linksMade, h, hvoid, hw, ih]
    · simp [linksMade, h, hw, ih]

/-- After a run, the links that it makes have been put into the entries in order. -/
theorem run_entries (r : Registry) (calls : List LinkCall) :
    (r.run calls).entries =
      (r.linksMade calls).foldl (fun entries l => put l.1 l.2 entries) r.entries := by
  induction calls generalizing r with
  | nil => rfl
  | cons call rest ih =>
    change ((r.after call).run rest).entries = _
    rw [ih, linksMade_eq, linksMade_eq, after_strict, after_eq]
    cases hw : call.writes r.strict <;> simp [hw]

/-- Every type that a registry stores may stand inside a non-null layer. -/
def Safe (r : Registry) : Prop := ∀ entry ∈ r.entries, entry.2.isNullable = true

/-- An entry is either one of the earlier ones or holds the type that was put. -/
theorem mem_put {key : TypeHint} {target : SchemaType} {entries : List (TypeHint × SchemaType)}
    {entry : TypeHint × SchemaType} (h : entry ∈ put key target entries) :
    entry ∈ entries ∨ entry.2 = target := by
  induction entries with
  | nil =>
    right
    rw [put, List.mem_singleton] at h
    rw [h]
  | cons first rest ih =>
    rw [put] at h
    split at h
    · rcases List.mem_cons.mp h with rfl | hrest
      · exact .inr rfl
      · exact .inl (List.mem_cons_of_mem _ hrest)
    · rcases List.mem_cons.mp h with rfl | hput
      · exact .inl List.mem_cons_self
      · exact (ih hput).imp_left (List.mem_cons_of_mem _)

/-- What holds of the stored types, and of the type of a call that writes, holds of the types that
are stored after the call. -/
theorem forall_stored_after {p : SchemaType → Prop} {r : Registry} {call : LinkCall}
    (hr : ∀ entry ∈ r.entries, p entry.2)
    (hcall : call.writes r.strict = true → p call.target) :
    ∀ entry ∈ (r.after call).entries, p entry.2 := by
  rw [after_eq]
  split
  case isTrue hw =>
    intro entry hentry
    rcases mem_put hentry with hold | hnew
    · exact hr entry hold
    · exact hnew ▸ hcall hw
  case isFalse => exact hr

/-- What holds of the stored types, and of the types of the calls that write, holds of the types
that are stored after a run. -/
theorem forall_stored_run {p : SchemaType → Prop} {r : Registry} {calls : List LinkCall}
    (hr : ∀ entry ∈ r.entries, p entry.2)
    (hcalls : ∀ call ∈ calls, call.writes r.strict = true → p call.target) :
    ∀ entry ∈ (r.run calls).entries, p entry.2 := by
  induction calls generalizing r with
  | nil => exact hr
  | cons call rest ih =>
    have hfirst := forall_stored_after hr (hcalls call List.mem_cons_self)
    refine ih hfirst fun later hlater => ?_
    rw [after_strict]
    exact hcalls later (List.mem_cons_of_mem _ hlater)

/-- A run on a strict registry keeps it safe. -/
theorem Safe.run {r : Registry} (hr : r.Safe) (hstrict : r.strict = true)
    (calls : List LinkCall) : (r.run calls).Safe := by
  refine forall_stored_run (p := (·.isNullable = true)) hr fun call _ hw => ?_
  rw [hstrict] at hw
  exact (LinkCall.of_writes hw).2.1 rfl

/-- What holds of every scalar holds of the types that a new registry stores. -/
theorem forall_stored_new {p : SchemaType → Prop} (h : ∀ name, p (.named (.scalar name)))
    (strict : Bool) : ∀ entry ∈ (new strict).entries, p entry.2 := by
  intro entry hentry
  simp only [new, primitives, List.mem_cons, List.not_mem_nil, or_false] at hentry
  rcases hentry with rfl | rfl | rfl | rfl <;> exact h _

/-- A new registry is safe. -/
theorem safe_new (strict : Bool) : (new strict).Safe :=
  forall_stored_new (p := (·.isNullable = true)) (fun _ => rfl) strict

/-- Every type that a reached registry stores is a schema type. -/
theorem Reached.isType {strict : Bool} {r : Registry} (hr : Reached strict r) :
    ∀ entry ∈ r.entries, entry.2.isType = true := by
  obtain ⟨calls, rfl⟩ := hr
  exact forall_stored_run (p := (·.isType = true))
    (forall_stored_new (p := (·.isType = true)) (fun _ => rfl) strict)
    fun call _ hwrites => (LinkCall.of_writes hwrites).1

/-- A strict registry that was reached by a run is safe. -/
theorem Reached.safe {r : Registry} (hr : Reached true r) : r.Safe := by
  obtain ⟨calls, rfl⟩ := hr
  exact (safe_new true).run rfl calls

/-- A call writes into a strict registry if it writes into a lenient one and does not link a type
that cannot stand inside a non-null layer. -/
theorem writes_true_eq (call : LinkCall) :
    call.writes true = (!call.linksNonNull && call.writes false) := by
  simp only [LinkCall.writes, LinkCall.linksNonNull]
  cases call.hint.isVoid <;> cases call.target.isType <;> cases call.target.isNullable <;> simp

/-- A strict registry makes the links that a lenient one makes of the calls that do not link a type
that cannot stand inside a non-null layer. -/
theorem linksMade_of_strict {r l : Registry} (hr : r.strict = true) (hl : l.strict = false)
    (calls : List LinkCall) :
    r.linksMade calls = l.linksMade (calls.filter (!·.linksNonNull)) := by
  simp only [linksMade_eq, hr, hl, List.filter_filter, writes_true_eq, Bool.and_comm]

/-- What a find reports is an entry. -/
theorem mem_of_find? {key : TypeHint} {target : SchemaType}
    {entries : List (TypeHint × SchemaType)} (h : find? key entries = some target) :
    ∃ k, (k, target) ∈ entries := by
  induction entries with
  | nil => cases h
  | cons first rest ih =>
    rw [find?] at h
    split at h
    · obtain rfl := Option.some.inj h
      exact ⟨first.1, List.mem_cons_self⟩
    · obtain ⟨k, hk⟩ := ih h
      exact ⟨k, List.mem_cons_of_mem _ hk⟩

/-- What holds of the stored types holds of a type that is looked up. -/
theorem stored_of_get? {p : SchemaType → Prop} {r : Registry} (hr : ∀ entry ∈ r.entries, p entry.2)
    {t : TypeHint} {g : SchemaType} (h : r.get? t = some g) : p g := by
  obtain ⟨k, hk⟩ := mem_of_find? h
  exact hr _ hk

/-- A safe registry only looks up types that may stand inside a non-null layer. -/
theorem Safe.isNullable_of_get? {r : Registry} (hr : r.Safe) {t : TypeHint} {g : SchemaType}
    (h : r.get? t = some g) : g.isNullable = true :=
  stored_of_get? (p := (·.isNullable = true)) hr h

end Registry

end SchemaLink
