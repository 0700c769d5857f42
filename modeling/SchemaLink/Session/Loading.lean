import SchemaLink.Config.Declaration
import SchemaLink.Config.Source
import SchemaLink.Session.Basic

/-!
# Loading declared links

Declarations are worked off in order. In strict mode the first bad one ends the loading, and the
links made before it stay; otherwise a bad one is logged and passed over. The number of declarations
that were carried out is returned and logged at the end.
-/

namespace SchemaLink

/-- Why loading ends early. -/
inductive LoadError where
  | source (e : SourceError)
  | config (e : ConfigError)
  | malformed (typeName : String)
  | declaration (e : DeclarationError)
  deriving Repr, Inhabited

/-- The message about a declaration that is no mapping. -/
def malformedMessage (typeName : String) : String :=
  "Invalid type link declaration type: <class '" ++ typeName ++ "'>"

/-- The message about a declaration that gives no link. -/
def failedMessage (e : DeclarationError) : String :=
  "Failed to load type link declaration: " ++ e.message

/-- The message about a loading that ends early. -/
def LoadError.message : LoadError → String
  | .source e => e.message
  | .config e => e.message
  | .malformed typeName => malformedMessage typeName
  | .declaration e => failedMessage e

/-- The name of the kind of error. -/
def LoadError.kindName : LoadError → String
  | .source (.encoding _) => "UnicodeDecodeError"
  | .source (.scalar .malformed) => "YAMLError"
  | .source (.scalar _) => "ValueError"
  | .config e => e.kindName
  | .malformed _ => "ValueError"
  | .declaration _ => "RuntimeError"

/-- The name of the kind of error that is the cause of the error. -/
def LoadError.causeName : LoadError → Option String
  | .declaration e => some e.kindName
  | _ => none

namespace Session

/-- The logger of loading. -/
def loaderLogger : String := "graphmap.typemap.loader"

/-- An event of loading. -/
def loaderEvent (level : Level) (text : String) (keys : List (String × Datum)) : Event :=
  { level, logger := loaderLogger, text, keys }

/-- A well-formed declaration that is not switched off is carried out. -/
def carryOut (i : Installation) (d : Declaration) : Action DeclarationError Unit := do
  let source ← Action.ofExcept (i.linkOf d)
  (link source.hint source.target).mapError .linking
  Action.log (loaderEvent .info "Registered type link"
    ([("type_name", .text source.hint.displayName), ("graphql_type", .text source.target.text)]
      ++ source.origin))

/-- In strict mode the loading ends; otherwise the reason is logged. -/
def giveUp (strict : Bool) (e : LoadError) : Action LoadError Unit :=
  if strict then Action.fail e else Action.log (loaderEvent .error e.message [])

/-- One declaration is worked off. The result tells whether it was carried out. -/
def loadOne (i : Installation) (strict : Bool) (d : Datum) : Action LoadError Bool :=
  match Declaration.ofDatum d with
  | .malformed typeName => do
    giveUp strict (.malformed typeName)
    return false
  | .disabled => return false
  | declaration => do
    match ← (carryOut i declaration).attempt with
    | .ok () => return true
    | .error e =>
      giveUp strict (.declaration e)
      return false

/-- Declarations are worked off in order. The result is how many were carried out. -/
def loadAll (i : Installation) (strict : Bool) : List Datum → Action LoadError Nat
  | [] => return 0
  | d :: rest => do
    let done ← loadOne i strict d
    let more ← loadAll i strict rest
    return (if done then 1 else 0) + more

/-- There is nothing to load. -/
def skipLoading : Action LoadError Nat := do
  Action.log (loaderEvent .info
    "No type links configuration found; skipping type link loading" [])
  return 0

/-- The links of a configuration are loaded. -/
def loadConfig (i : Installation) (config : LinkConfig) : Action LoadError Nat :=
  if config.declarations.isEmpty then skipLoading
  else do
    let linked ← loadAll i config.strict config.declarations
    let r ← Action.registry
    Action.log (loaderEvent .info "Type link loading complete"
      [ ("requested", .int config.declarations.length), ("linked", .int linked),
        ("registered", .int r.size), ("strict_mode", .bool config.strict) ])
    return linked

/-- The configuration of a source, if there is one. -/
def readConfig (source : Source) : Except LoadError (Option LinkConfig) :=
  match source.read with
  | .error e => .error (.source e)
  | .ok none => .ok none
  | .ok (some document) => ((LinkConfig.ofDatum document).mapError .config).map some

/-- The event about a configuration that was found. -/
def foundEvent (namer : Namer) (path : String) : Event :=
  let place := match namer with
    | .caller => "explicit path"
    | _ => "settings"
  loaderEvent .info ("Loaded type links config from " ++ place) [("path", .text path)]

/-- The links of a file are loaded. A file that is not there is no error, but the settings should
not name it. -/
def load (i : Installation) (namer : Namer) (path : String) (source : Source) :
    Action LoadError Nat :=
  match namer with
  | .nobody => skipLoading
  | _ => do
    match ← Action.ofExcept (readConfig source) with
    | some config =>
      Action.log (foundEvent namer path)
      loadConfig i config
    | none =>
      if namer = .settings then
        Action.log (loaderEvent .warning "Type links config path set but not found"
          [("path", .text path)])
      skipLoading

end Session

end SchemaLink
