import SchemaLink.Proofs.SessionAdvance

/-!
# Refused links in a session

A link may be refused at several points, and a lenient session may already have logged a warning
when the hashing of the key fails. Whatever the point, the registry of the session is then the one
from before the call, because the registry is set only after every check has passed. The registry of
a session therefore follows the calls of a run as a registry on its own does.
-/

namespace SchemaLink

namespace Session

/-- The session after a run of calls, whether they succeed or not. -/
def linkAll (s : Session) (calls : List LinkCall) : Session :=
  calls.foldl (fun s call => (link call.hint call.target s).2) s

/-- The calls of a run that succeed where they stand in it. -/
def succeeding (s : Session) : List LinkCall → List LinkCall
  | [] => []
  | call :: rest =>
    match link call.hint call.target s with
    | (.ok (), s) => call :: s.succeeding rest
    | (.error _, s) => s.succeeding rest

/-- A link in a session succeeds as it does on the registry, and leaves what the call leaves of the
registry. -/
theorem link_apply (t : TypeHint) (target : SchemaType) (s : Session) :
    (link t target s).1 = (s.registry.link t target).map (fun _ => ()) ∧
      (link t target s).2.registry = s.registry.after ⟨t, target⟩ := by
  rw [link_sends s.registry t target s rfl]
  exact ⟨rfl, rfl⟩

/-- A refused link leaves the registry of the session as it was. -/
theorem link_registry_of_error {t : TypeHint} {target : SchemaType} {s : Session} {e : LinkError}
    (h : (link t target s).1 = .error e) : (link t target s).2.registry = s.registry := by
  obtain ⟨hresult, hregistry⟩ := link_apply t target s
  rw [hregistry, Registry.after]
  cases hlink : s.registry.link t target with
  | ok r =>
    rw [hresult, hlink] at h
    cases h
  | error e => rfl

/-- The registry of a session follows the calls of a run as a registry on its own does. -/
theorem linkAll_registry (s : Session) (calls : List LinkCall) :
    (s.linkAll calls).registry = s.registry.run calls := by
  induction calls generalizing s with
  | nil => rfl
  | cons call rest ih =>
    have hfirst := (link_apply call.hint call.target s).2
    exact (ih (link call.hint call.target s).2).trans (congrArg (·.run rest) hfirst)

/-- The calls of a run that succeed lead to the same registry as all of them, from any session with
the registry that the run started from. -/
theorem run_succeeding (s : Session) (calls : List LinkCall) :
    s.registry.run (s.succeeding calls) = s.registry.run calls := by
  induction calls generalizing s with
  | nil => rfl
  | cons call rest ih =>
    obtain ⟨hresult, hregistry⟩ := link_apply call.hint call.target s
    have hrest := ih (link call.hint call.target s).2
    rw [hregistry] at hrest
    rw [succeeding]
    split
    case h_1 s' heq =>
      rw [heq] at hrest
      exact hrest
    case h_2 e s' heq =>
      have hkeep : s.registry.after call = s.registry := by
        rw [← hregistry]
        exact link_registry_of_error (e := e) (by rw [heq])
      change s.registry.run (s'.succeeding rest) = (s.registry.after call).run rest
      rw [heq, hkeep] at hrest
      rw [hrest, hkeep]

/-- **A refused link leaves no trace.** The registry of a session is after a refused link the one
from before it, so that only the calls that succeed matter for a run. A strict session therefore
only ever stores types that may stand inside a non-null layer, and stores what a lenient session
does that is spared the calls that link any other type. -/
theorem refused_link_leaves_no_trace :
    (∀ (s : Session) (t : TypeHint) (target : SchemaType) (e : LinkError),
      (link t target s).1 = .error e → (link t target s).2.registry = s.registry) ∧
    (∀ (s : Session) (calls : List LinkCall),
      (s.linkAll calls).registry = (s.linkAll (s.succeeding calls)).registry) ∧
    (∀ (threshold : Nat) (calls : List LinkCall),
      ∀ entry ∈ ((new true threshold).linkAll calls).registry.entries,
        entry.2.isNullable = true) ∧
    ∀ (threshold : Nat) (calls : List LinkCall),
      ((new true threshold).linkAll calls).registry.entries =
        ((new false threshold).linkAll
          (calls.filter fun call => !call.linksNonNull)).registry.entries := by
  refine ⟨fun s t target e => link_registry_of_error, fun s calls => ?_, fun threshold calls => ?_,
    fun threshold calls => ?_⟩
  · rw [linkAll_registry, linkAll_registry, run_succeeding]
  · rw [linkAll_registry]
    exact (Registry.safe_new true).run rfl calls
  · simp only [linkAll_registry, Registry.run_entries]
    rw [Registry.linksMade_of_strict (l := (new false threshold).registry) rfl rfl]
    rfl

/-- A lenient session that links a raw list inside a tuple fails only when the key is hashed, with
the warning about the type already logged. -/
theorem refused_raw_list :
    let call := link (.tuple [.list 0 []]) (.nonNull (.named (.scalar "Int"))) (new false 0)
    call.1 = .error (.unhashable .list) ∧ call.2.journal.length = 1 ∧
      call.2.registry = .new false := by
  intro call
  have hrefused : call.1 = .error (.unhashable .list) := by
    rw [(link_apply _ _ _).1]
    rfl
  exact ⟨hrefused, rfl, refused_link_leaves_no_trace.1 _ _ _ _ hrefused⟩

end Session

end SchemaLink
