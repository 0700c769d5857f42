import SchemaLink.Session.Basic

/-!
# Demanding a schema type

Whoever builds a schema demands a type of a certain category for each hint: an output or an input
type for a field, a named type, an interface or an object type. A demand that cannot be met is
refused with a reason that names the hint, and the field where there is one. Every refusal is
logged in the scope of the hint.
-/

namespace SchemaLink

/-- What a schema type is demanded for. -/
inductive Demand where
  | output (field : Option String)
  | input (field : Option String)
  | named
  | interface
  | object
  deriving DecidableEq, Repr, Inhabited

/-- Why a demand is refused. -/
inductive Refusal where
  | notRepresentable
  | unmapped
  | notOutput
  | notInput
  | notNamed
  | notProtocol
  | nullable
  | notInterface
  | notObject
  deriving DecidableEq, Repr, Inhabited

namespace Demand

/-- The field that the demand is made for. -/
def field : Demand → Option String
  | .output field | .input field => field
  | _ => none

/-- The use that a hint cannot be put to. -/
def purpose : Demand → String
  | .output field | .input field => "for field \"" ++ field.getD "None" ++ "\""
  | .named => "as named type"
  | .interface => "as interface"
  | .object => "as object"

end Demand

namespace Refusal

/-- The reason as a sentence. -/
def sentence : Refusal → String
  | .notRepresentable => "Type is not representable as a GraphQL value."
  | .unmapped => "Type does not map to a GraphQL type."
  | .notOutput => "Mapped GraphQL type is not an output type."
  | .notInput => "Mapped GraphQL type is not an input type."
  | .notNamed => "Mapped GraphQL type is not a named type."
  | .notProtocol => "Type is not a protocol."
  | .nullable => "Mapped GraphQL type is nullable."
  | .notInterface => "Mapped GraphQL type is not an interface type."
  | .notObject => "Mapped GraphQL type is not an object type."

/-- The name of the kind of error. -/
def kindName : Refusal → String
  | .notRepresentable => "NotRepresentableError"
  | .unmapped => "UnmappedTypeError"
  | .notOutput => "NotOutputTypeError"
  | .notInput => "NotInputTypeError"
  | .notNamed => "NotNamedTypeError"
  | .notProtocol => "NotAProtocolError"
  | .nullable => "NullableTypeError"
  | .notInterface => "NotInterfaceTypeError"
  | .notObject => "NotObjectTypeError"

end Refusal

/-- Why a hint is not mapped to the type that is demanded. -/
inductive MappingError where
  | refused (demand : Demand) (refusal : Refusal) (typeName : String)
  | listElement (typeName : String)
  deriving DecidableEq, Repr, Inhabited

namespace MappingError

/-- The message of the error. -/
def message : MappingError → String
  | .refused demand refusal typeName =>
    "Cannot use type \"" ++ typeName ++ "\" " ++ demand.purpose ++ ". " ++ refusal.sentence
  | .listElement typeName =>
    "Cannot use type \"" ++ typeName ++ "\" as list. "
      ++ "Mapped GraphQL type cannot be a non-null list element."

/-- The name of the kind of error. -/
def kindName : MappingError → String
  | .refused _ refusal _ => refusal.kindName
  | .listElement _ => "ListElementTypeError"

/-- The name of the hint that the error is about. -/
def typeName : MappingError → String
  | .refused _ _ typeName => typeName
  | .listElement typeName => typeName

/-- The field that the error is about. -/
def fieldName : MappingError → Option String
  | .refused demand _ _ => demand.field
  | .listElement _ => none

end MappingError

/-- Why a demand fails. -/
inductive AccessError where
  | mapping (e : MappingError)
  | unhashable (container : Unhashable)
  deriving DecidableEq, Repr, Inhabited

/-- The name of the kind of error. -/
def AccessError.kindName : AccessError → String
  | .mapping e => e.kindName
  | .unhashable _ => "TypeError"

namespace Session

/-- The logger of demands. -/
def accessLogger : String := "graphmap.typemap.accessors"

/-- A demand is refused, and the refusal is logged. -/
def refuse {α : Type} (demand : Demand) (refusal : Refusal) (typeName : String) :
    Action AccessError α := do
  let e := MappingError.refused demand refusal typeName
  Action.log
    { level := .debug, logger := accessLogger, text := "Type mapping failed"
      keys := [("error", .text e.kindName), ("message", .text e.message)] }
  Action.fail (.mapping e)

/-- A condition of a demand. -/
def require (condition : Bool) (demand : Demand) (refusal : Refusal) (typeName : String) :
    Action AccessError Unit :=
  if condition then pure () else refuse demand refusal typeName

/-- The schema type of a hint, which has to be there. -/
def resolved (demand : Demand) (t : TypeHint) : Action AccessError SchemaType := do
  let r ← Action.registry
  match r.resolve t with
  | .error (.unhashable container) => Action.fail (.unhashable container)
  | .error (.listElement typeName) => Action.fail (.mapping (.listElement typeName))
  | .ok none => refuse demand .unmapped t.displayName
  | .ok (some g) => return g

/-- Whether a hint is representable with the links of the session. -/
def representable (t : TypeHint) : Action AccessError Bool := do
  let r ← Action.registry
  match t.isRepresentable (some r) with
  | .error container => Action.fail (.unhashable container)
  | .ok b => return b

/-- The type inside the non-null layer of a resolved type, if it is of the demanded kind. -/
def layered (demand : Demand) (kind : NamedKind) (otherwise : Refusal) (t : TypeHint)
    (g : SchemaType) : Action AccessError SchemaType :=
  match g with
  | .nonNull of => do
    require (of.hasKind kind) demand otherwise t.displayName
    return of
  | _ => refuse demand .nullable t.displayName

/-- The schema type that is demanded for a hint, without a scope. -/
def meet (demand : Demand) (t : TypeHint) : Action AccessError SchemaType :=
  match demand with
  | .output _ => do
    require (← representable t) demand .notRepresentable t.displayName
    let g ← resolved demand t
    require g.isOutputOrDeferred demand .notOutput t.displayName
    return g
  | .input _ => do
    let g ← resolved demand t
    require g.isInputOrDeferred demand .notInput t.displayName
    return g
  | .named => do
    let g ← resolved demand t
    require g.innermost.isNamed demand .notNamed t.displayName
    return g.innermost
  | .interface => do
    require t.isProtocol demand .notProtocol t.displayName
    layered demand .interface .notInterface t (← resolved demand t)
  | .object => do
    layered demand .object .notObject t (← resolved demand t)

/-- The schema type that is demanded for a hint. The hint and its field are in scope meanwhile. -/
def access (demand : Demand) (t : TypeHint) : Action AccessError SchemaType :=
  Action.within ⟨some t.displayName, demand.field⟩ (meet demand t)

/-- The type of a result. -/
def outputType (t : TypeHint) (field : Option String) : Action AccessError SchemaType :=
  access (.output field) t

/-- The type of an argument. -/
def inputType (t : TypeHint) (field : Option String) : Action AccessError SchemaType :=
  access (.input field) t

/-- The named type below all layers. -/
def namedType (t : TypeHint) : Action AccessError SchemaType := access .named t

/-- The interface that is linked to a protocol. -/
def interfaceType (t : TypeHint) : Action AccessError SchemaType := access .interface t

/-- The object type that is linked to a hint. -/
def objectType (t : TypeHint) : Action AccessError SchemaType := access .object t

end Session

end SchemaLink
