import SchemaLink.Hint.Equality
import SchemaLink.Hint.Wrapper

/-!
# Schema types

A schema type is a named type, a deferred reference to one, or a list or non-null layer around
another type. Layers are not checked: they may hold any value, so a value that is no type at all
may stand at the bottom. Nullability, and the use of a type for output or input, are decided by the
outermost layer and by the innermost type respectively.
-/

namespace SchemaLink

/-- The kinds of named types. -/
inductive NamedKind where
  | scalar
  | object
  | interface
  | union
  | enumeration
  | input
  deriving DecidableEq, Repr, Inhabited

/-- The name of the category of a kind in source text. -/
def NamedKind.category : NamedKind → String
  | .scalar => "GraphQLScalarType"
  | .object => "GraphQLObjectType"
  | .interface => "GraphQLInterfaceType"
  | .union => "GraphQLUnionType"
  | .enumeration => "GraphQLEnumType"
  | .input => "GraphQLInputObjectType"

/-- A named type of a schema. Types of one name may differ; the identifier tells them apart. -/
structure NamedType where
  id : String
  name : String
  kind : NamedKind
  deriving DecidableEq, Repr, Inhabited

/-- What may be linked to a hint. -/
inductive SchemaType where
  | named (t : NamedType)
  /-- A named type that is looked up by its name when the schema is complete. -/
  | deferred (name : String)
  /-- A type of no known category, shown by its label. -/
  | other (label : String)
  /-- A value that is not a schema type. -/
  | foreign (value : TypeHint)
  | list (of : SchemaType)
  | nonNull (of : SchemaType)
  deriving Repr, Inhabited

namespace TypeHint

/-- A hint as plain text: a text as it is, all else as source text. -/
def plainText : TypeHint → String
  | .value (.text s) => s
  | t => t.written

end TypeHint

namespace SchemaType

/-- The type in the notation of schemas. -/
def text : SchemaType → String
  | .named t => t.name
  | .deferred name => name
  | .other label => label
  | .foreign value => value.plainText
  | .list of => "[" ++ of.text ++ "]"
  | .nonNull of => of.text ++ "!"

/-- Whether a value is a schema type at all. -/
def isType : SchemaType → Bool
  | .foreign _ => false
  | _ => true

/-- Whether the type is a deferred reference. -/
def isDeferred : SchemaType → Bool
  | .deferred _ => true
  | _ => false

/-- Whether the type may stand inside a non-null layer. -/
def isNullable : SchemaType → Bool
  | .named _ | .deferred _ | .list _ => true
  | _ => false

/-- Whether the type is a non-null layer. -/
def isNonNull : SchemaType → Bool
  | .nonNull _ => true
  | _ => false

/-- Whether the type has a name: it is a named type or a reference to one. -/
def isNamed : SchemaType → Bool
  | .named _ | .deferred _ => true
  | _ => false

/-- The type below all layers. -/
def innermost : SchemaType → SchemaType
  | .list of => of.innermost
  | .nonNull of => of.innermost
  | t => t

/-- Whether the type may be the type of a result. -/
def isOutput : SchemaType → Bool
  | .named t => t.kind ≠ .input
  | .list of => of.isOutput
  | .nonNull of => of.isOutput
  | _ => false

/-- Whether the type may be the type of an argument. -/
def isInput : SchemaType → Bool
  | .named t => t.kind = .scalar || t.kind = .enumeration || t.kind = .input
  | .list of => of.isInput
  | .nonNull of => of.isInput
  | _ => false

/-- Whether the type may be the type of a result, or is deferred. -/
def isOutputOrDeferred (t : SchemaType) : Bool := t.isOutput || t.innermost.isDeferred

/-- Whether the type may be the type of an argument, or is deferred. -/
def isInputOrDeferred (t : SchemaType) : Bool := t.isInput || t.innermost.isDeferred

/-- Whether the type is a named type of the given kind. -/
def hasKind (kind : NamedKind) : SchemaType → Bool
  | .named t => t.kind = kind
  | _ => false

/-- The type as source text. -/
def written : SchemaType → String
  | .named t => "<" ++ t.kind.category ++ " " ++ Text.quote t.name ++ ">"
  | .deferred name => "<TypeReference " ++ Text.quote name ++ ">"
  | .other label => label
  | .foreign value => value.written
  | .list of => "<GraphQLList " ++ of.written ++ ">"
  | .nonNull of => "<GraphQLNonNull " ++ of.written ++ ">"

/-- Whether two types are equal objects: a reference equals the references of its name, a named
type only itself, and a layer is an object of its own each time it is made. -/
def sameObject : SchemaType → SchemaType → Except Unhashable Bool
  | .named t, .named u => .ok (t = u)
  | .deferred m, .deferred n => .ok (m = n)
  | .foreign v, .foreign w => v.equals w
  | _, _ => .ok false

end SchemaType

/-- The scalars that primitive classes are linked to at first, and those that modules offer. -/
def NamedType.scalar (name : String) : NamedType := ⟨name, name, .scalar⟩

/-- The built-in scalars. -/
def builtinTypes : List NamedType :=
  ["Int", "Float", "String", "Boolean", "ID", "Decimal", "Date"].map NamedType.scalar

end SchemaLink
