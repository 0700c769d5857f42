import SchemaLink.Session.Access
import SchemaLink.Session.Loading

/-!
# Steps of a session

A step links, loads, demands or asks. Every step has an answer or fails, and either way the session
goes on; only linking and loading change what later steps answer. What a step logs is shown beside
its answer.
-/

namespace SchemaLink

/-- A step of a session. -/
inductive Step where
  | link (t : TypeHint) (target : SchemaType)
  | load (i : Installation) (namer : Namer) (path : String) (source : Source)
  | access (demand : Demand) (t : TypeHint)
  | resolve (t : TypeHint)
  /-- A resolved hint has its reference replaced. -/
  | resolveAndReplace (t : TypeHint) (types : List (String × SchemaType))
  | replace (t : SchemaType) (types : List (String × SchemaType))
  | lookup (t : TypeHint)
  | contains (t : TypeHint)
  | isRepresentable (t : TypeHint) (withLinks : Bool)
  | types
  | size
  | isStrict
  | displayName (t : TypeHint)
  | normalizeName (name : String)
  | stripAnnotated (t : TypeHint)
  | classify (t : TypeHint)
  | isWrapper (t : TypeHint)
  | referenceName (t : TypeHint)
  | isProtocol (t : TypeHint)
  | isVoid (t : TypeHint)
  /-- Two hints are compared, which may be one object. -/
  | compare (oneObject : Bool) (t u : TypeHint)
  | compareTypes (t u : SchemaType)
  | describe (t : SchemaType)

/-- What is known about a schema type from its layers alone. -/
structure Description where
  text : String
  isDeferred : Bool
  isNullable : Bool
  isOutput : Bool
  isInput : Bool
  deriving DecidableEq, Repr, Inhabited

/-- The answer to a step. -/
inductive Answer where
  | done
  | count (n : Nat)
  | truth (b : Bool)
  | text (s : String)
  | hint (t : TypeHint)
  | hints (ts : List TypeHint)
  | wrapper (w : Option Wrapper)
  | schema (t : Option SchemaType)
  /-- A type with its reference replaced, and whether it had none. -/
  | replaced (t : Option SchemaType) (isSame : Bool)
  /-- Whether each of two hints is hashable, and how alike they are. -/
  | comparison (first second : Bool) (likeness : TypeHint.Likeness)
  /-- Whether two types are equal objects, and whether two references have one hash. -/
  | typeComparison (same : Bool) (sameHash : Option Bool)
  | description (d : Description)
  deriving Repr, Inhabited

/-- Why a step has no answer. -/
inductive Failure where
  | link (e : LinkError)
  | load (e : LoadError)
  | access (e : AccessError)
  | resolve (e : ResolveError)
  | unresolved (e : UnresolvedReference)
  | unhashable (container : Unhashable)
  deriving Repr, Inhabited

/-- The name of the kind of failure. -/
def Failure.kindName : Failure → String
  | .link e => e.kindName
  | .load e => e.kindName
  | .access e => e.kindName
  | .resolve e => e.kindName
  | .unresolved e => e.kindName
  | .unhashable _ => "TypeError"

/-- The description of a schema type. -/
def SchemaType.description (t : SchemaType) : Description :=
  { text := t.text, isDeferred := t.isDeferred, isNullable := t.isNullable
    isOutput := t.isOutputOrDeferred, isInput := t.isInputOrDeferred }

namespace Answer

/-- The answer about a type whose reference is replaced. -/
def ofReplacing (types : List (String × SchemaType)) (t : SchemaType) :
    Except UnresolvedReference Answer :=
  (t.rebuilt? types).map fun rebuilt => .replaced (some (rebuilt.getD t)) rebuilt.isNone

/-- The answer about two hints, which may be one object. -/
def ofComparing (oneObject : Bool) (t u : TypeHint) : Except Unhashable Answer :=
  (TypeHint.likeness oneObject t u).map (comparison t.isHashable u.isHashable)

/-- The answer about two schema types. -/
def ofComparingTypes (t u : SchemaType) : Except Unhashable Answer :=
  (t.sameObject u).map fun same =>
    typeComparison same (if t.isDeferred && u.isDeferred then some same else none)

end Answer

namespace Session

/-- The answer to a question about the registry. -/
def ask {ε α : Type} (failure : ε → Failure) (answer : α → Answer)
    (question : Registry → Except ε α) : Action Failure Answer := do
  let r ← Action.registry
  Action.ofExcept (((question r).mapError failure).map answer)

/-- The answer to a step. -/
def answer : Step → Action Failure Answer
  | .link t target => do
    (link t target).mapError .link
    return .done
  | .load i namer path source => do
    return .count (← (load i namer path source).mapError .load)
  | .access demand t => do
    return .schema (some (← (access demand t).mapError .access))
  | .resolve t => ask .resolve .schema fun r => r.resolve t
  | .resolveAndReplace t types => do
    let r ← Action.registry
    match r.resolve t with
    | .error e => Action.fail (.resolve e)
    | .ok none => return .replaced none true
    | .ok (some g) => Action.ofExcept ((Answer.ofReplacing types g).mapError .unresolved)
  | .replace t types => Action.ofExcept ((Answer.ofReplacing types t).mapError .unresolved)
  | .lookup t => ask .unhashable .schema fun r => r.lookup t
  | .contains t => ask .unhashable .truth fun r => r.contains t
  | .isRepresentable t withLinks =>
    ask .unhashable .truth fun r => t.isRepresentable (if withLinks then some r else none)
  | .types => do return .hints (← Action.registry).types
  | .size => do return .count (← Action.registry).size
  | .isStrict => do return .truth (← Action.registry).strict
  | .displayName t => return .text t.displayName
  | .normalizeName name => return .text (TypeHint.normalizeName name)
  | .stripAnnotated t => return .hint t.stripAnnotated
  | .classify t => return .wrapper t.classify
  | .isWrapper t => return .truth t.isWrapper
  | .referenceName t => return .text t.referenceName
  | .isProtocol t => return .truth t.isProtocol
  | .isVoid t => return .truth t.isVoid
  | .compare oneObject t u =>
    Action.ofExcept ((Answer.ofComparing oneObject t u).mapError .unhashable)
  | .compareTypes t u =>
    Action.ofExcept ((Answer.ofComparingTypes t u).mapError .unhashable)
  | .describe t => return .description t.description

/-- What a step shows. -/
structure Record where
  result : Except Failure Answer
  /-- The events that the step logged, the oldest first. -/
  events : List Event

/-- A step on its own: what it shows, and the session after it with an empty journal. -/
def play (step : Step) (s : Session) : Record × Session :=
  let (result, t) := answer step { s with journal := [] }
  (⟨result, t.journal⟩, { t with journal := [] })

/-- What the steps of a session show, one after the other. -/
def playAll : List Step → Session → List Record
  | [], _ => []
  | step :: rest, s => (play step s).1 :: playAll rest (play step s).2

end Session

end SchemaLink
