import SchemaLink.Registry.Resolution
import SchemaLink.Log.Event

/-!
# Sessions

A session owns a registry, knows which type is being resolved, and keeps a journal of the events
that reach its threshold. An action of a session gives a result or fails; either way the session
goes on from where the action left it.
-/

namespace SchemaLink

/-- A registry at work. -/
structure Session where
  registry : Registry
  scope : Scope
  /-- The lowest rank of events that are kept. -/
  threshold : Nat
  /-- The events kept so far, the oldest first. -/
  journal : List Event
  deriving Repr, Inhabited

/-- What a session may do: it fails with an `ε` or gives an `α`, and what it changed before failing
stays. -/
def Action (ε α : Type) : Type := Session → Except ε α × Session

namespace Action

variable {ε δ α β : Type}

instance : Monad (Action ε) where
  pure a := fun s => (.ok a, s)
  bind act next := fun s =>
    match act s with
    | (.ok a, s) => next a s
    | (.error e, s) => (.error e, s)

/-- The action fails. -/
def fail (e : ε) : Action ε α := fun s => (.error e, s)

/-- The action gives a result that is known already, or its failure. -/
def ofExcept (r : Except ε α) : Action ε α := fun s => (r, s)

/-- The failure of an action is seen as one of another kind. -/
def mapError (f : ε → δ) (act : Action ε α) : Action δ α := fun s =>
  match act s with
  | (.ok a, s) => (.ok a, s)
  | (.error e, s) => (.error (f e), s)

/-- The result of an action, or its failure; the action itself does not fail. -/
def attempt (act : Action ε α) : Action δ (Except ε α) := fun s =>
  let (r, s) := act s
  (.ok r, s)

/-- The registry of the session. -/
def registry : Action ε Registry := fun s => (.ok s.registry, s)

/-- The session goes on with another registry. -/
def setRegistry (r : Registry) : Action ε Unit := fun s => (.ok (), { s with registry := r })

/-- An event is kept, marked with the scope, if it reaches the threshold. -/
def log (e : Event) : Action ε Unit := fun s =>
  (.ok (), if s.threshold ≤ e.level.rank
    then { s with journal := s.journal ++ [s.scope.mark e] } else s)

/-- An action runs in a scope, and the earlier scope comes back however the action ends. -/
def within (scope : Scope) (act : Action ε α) : Action ε α := fun s =>
  let (r, t) := act { s with scope }
  (r, { t with scope := s.scope })

theorem bind_apply (act : Action ε α) (next : α → Action ε β) (s : Session) :
    (act >>= next) s =
      match act s with
      | (.ok a, s) => next a s
      | (.error e, s) => (.error e, s) := rfl

end Action

namespace Session

/-- A new session. -/
def new (strict : Bool) (threshold : Nat) : Session :=
  { registry := .new strict, scope := .outside, threshold, journal := [] }

/-- The logger of the registry. -/
def registryLogger : String := "graphmap.typemap.registry"

/-- A hint is linked to a schema type. A lenient registry links a type that cannot stand inside a
non-null layer as well, with a warning. -/
def link (t : TypeHint) (target : SchemaType) : Action LinkError Unit := do
  if t.isVoid then return ()
  let r ← Action.registry
  if target.isType && !target.isNullable && !r.strict then
    Action.log
      { level := .warning, logger := registryLogger
        text := notNullableMessage t.displayName target
        keys := [("type_name", .text t.displayName), ("graphql_type", .text target.text)] }
  let linked ← Action.ofExcept (r.link t target)
  Action.setRegistry linked
  Action.log
    { level := .debug, logger := registryLogger, text := "Linked type"
      keys :=
        [ ("type_name", .text t.displayName), ("graphql_type", .text target.text),
          ("replaced", match r.get? t.stripAnnotated with
            | some earlier => .text earlier.text
            | none => .null) ] }

end Session

end SchemaLink
