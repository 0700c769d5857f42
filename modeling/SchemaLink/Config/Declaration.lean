import SchemaLink.Config.Import

/-!
# Link declarations

A configuration document may say whether loading is strict and lists declarations of links. A
declaration names its hint and its schema type by import paths, or both by an entry point; a
declaration that is switched off is passed over.
-/

namespace SchemaLink

/-- A named object that an installed package offers to a group. Loading it may fail. -/
structure EntryPoint where
  name : String
  group : String
  object : Except String Imported
  deriving Inhabited

/-- The modules and entry points that declarations may name. -/
structure Installation where
  modules : List Module
  entryPoints : List EntryPoint
  deriving Inhabited

/-- The group of the entry points that offer links. -/
def entryPointGroup : String := "graphmap.types"

/-- A parsed configuration document. -/
structure LinkConfig where
  strict : Bool
  declarations : List Datum
  deriving Repr, Inhabited

/-- Why a document is no configuration. -/
inductive ConfigError where
  | notMapping (typeName : String)
  | notIterable (typeName : String)
  deriving DecidableEq, Repr, Inhabited

/-- The message about a document that is no configuration. -/
def ConfigError.message : ConfigError → String
  | .notMapping typeName => "'" ++ typeName ++ "' object has no attribute 'get'"
  | .notIterable typeName => "'" ++ typeName ++ "' object is not iterable"

/-- The name of the kind of error. -/
def ConfigError.kindName : ConfigError → String
  | .notMapping _ => "AttributeError"
  | .notIterable _ => "TypeError"

/-- The configuration of a document. An empty document, and an empty list of links, are allowed; the
links of a text are its characters, and those of a mapping its keys. -/
def LinkConfig.ofDatum (document : Datum) : Except ConfigError LinkConfig :=
  if !document.truthy then .ok ⟨true, []⟩
  else
    match document with
    | .map keys values =>
      let strict := ((Datum.lookup "strict_mode" keys values).map Datum.truthy).getD true
      let links := (Datum.lookup "links" keys values).getD .null
      if !links.truthy then .ok ⟨strict, []⟩
      else
        match links.items? with
        | some items => .ok ⟨strict, items⟩
        | none => .error (.notIterable links.typeName)
    | d => .error (.notMapping d.typeName)

/-- What a declaration says. -/
inductive Declaration where
  /-- The declaration is no mapping. -/
  | malformed (typeName : String)
  | disabled
  | paths (hint target : Datum)
  | entryPoint (name : Datum)
  /-- The declaration names neither two paths nor an entry point. -/
  | incomplete
  deriving Repr, Inhabited

namespace Declaration

/-- Whether a declaration is switched off: only the value `false` does that. -/
def isOff : Option Datum → Bool
  | some (.bool false) => true
  | _ => false

/-- The declaration of a document's item. Paths win over an entry point. -/
def ofDatum (d : Datum) : Declaration :=
  match d with
  | .map _ _ =>
    if isOff (d.get? "enabled") then .disabled
    else
      match d.get? "type", d.get? "graphql_type", d.get? "entrypoint" with
      | some hint, some target, _ => .paths hint target
      | _, _, some name => .entryPoint name
      | _, _, _ => .incomplete
  | d => .malformed d.typeName

end Declaration

/-- Why a declaration gives no link. -/
inductive DeclarationError where
  | importing (e : ImportError)
  | notSchemaType (path : String)
  | noEntryPoint (name : Datum)
  | entryPointFails (text : String)
  | notALink (name : String)
  | incomplete
  | linking (e : LinkError)
  deriving Repr, Inhabited

/-- The message about a declaration that gives no link. -/
def DeclarationError.message : DeclarationError → String
  | .importing e => e.message
  | .notSchemaType path => "Resolved object is not a GraphQL type: " ++ path
  | .noEntryPoint name => "Entry point not found: " ++ name.plainText
  | .entryPointFails text => text
  | .notALink name =>
    "Entry point '" ++ name ++ "' must provide a (python_type, graphql_type) pair"
  | .incomplete =>
    "Type link declaration must include either type and graphql_type, or entrypoint"
  | .linking e => e.message

/-- The name of the kind of error. -/
def DeclarationError.kindName : DeclarationError → String
  | .importing e => e.kindName
  | .notSchemaType _ | .notALink _ => "TypeError"
  | .noEntryPoint _ => "LookupError"
  | .entryPointFails _ => "ImportError"
  | .incomplete => "ValueError"
  | .linking e => e.kindName

/-- A hint and a schema type to be linked, and the keys that tell where they come from. -/
structure LinkSource where
  hint : TypeHint
  target : SchemaType
  origin : List (String × Datum)
  deriving Repr, Inhabited

namespace Installation

/-- The schema type that a path names. -/
def importSchema (i : Installation) (path : Datum) : Except DeclarationError SchemaType :=
  match importDatum i.modules path with
  | .error e => .error (.importing e)
  | .ok object =>
    match object.toSchema? with
    | some g => .ok g
    | none => .error (.notSchemaType path.plainText)

/-- The link of two paths. The hint is imported first. -/
def linkOfPaths (i : Installation) (hint target : Datum) : Except DeclarationError LinkSource :=
  match importDatum i.modules hint with
  | .error e => .error (.importing e)
  | .ok object =>
    match i.importSchema target with
    | .error e => .error e
    | .ok g => .ok ⟨object.toHint, g, [("type_path", hint), ("graphql_type_path", target)]⟩

/-- Whether an entry point offers links under a name. -/
def offers (name : String) (point : EntryPoint) : Bool :=
  point.group = entryPointGroup && point.name = name

/-- The link of the first entry point with a name. -/
def linkOfEntryPoint (i : Installation) (name : Datum) : Except DeclarationError LinkSource :=
  match name with
  | .text s =>
    match i.entryPoints.find? (offers s) with
    | none => .error (.noEntryPoint name)
    | some point =>
      match point.object with
      | .error text => .error (.entryPointFails text)
      | .ok object =>
        match object.toLink? with
        | some (t, g) => .ok ⟨t, g, [("entrypoint", name)]⟩
        | none => .error (.notALink s)
  | _ => .error (.noEntryPoint name)

/-- The link of a declaration that is well-formed and not switched off. -/
def linkOf (i : Installation) : Declaration → Except DeclarationError LinkSource
  | .paths hint target => i.linkOfPaths hint target
  | .entryPoint name => i.linkOfEntryPoint name
  | _ => .error .incomplete

end Installation

end SchemaLink
