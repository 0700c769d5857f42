import SchemaLink.Datum

/-!
# Settings

A setting is taken from what the caller gives, else from a variable of the environment, else from
its default. The names of variables are those of the settings behind a common start, in letters of
either case; of two variables that spell one name the later one counts. Every setting is checked on
its own, so that all that do not fit are reported together.
-/

namespace SchemaLink

/-- The settings of the library. -/
structure Settings where
  debug : Bool := false
  logLevel : String := "INFO"
  /-- Whether registries refuse types that cannot stand inside a non-null layer. -/
  strictLinks : Bool := true
  /-- The file of the link declarations. -/
  typeLinksPath : Option String := none
  deriving DecidableEq, Repr, Inhabited

namespace Settings

/-- The names of the settings. -/
inductive Field where
  | debug
  | logLevel
  | strictLinks
  | typeLinksPath
  deriving DecidableEq, Repr, Inhabited

/-- A setting as the caller and the environment name it. -/
def Field.name : Field → String
  | .debug => "debug"
  | .logLevel => "log_level"
  | .strictLinks => "strict_links"
  | .typeLinksPath => "type_links_config_path"

/-- Why a value does not fit a setting. -/
inductive Misfit where
  /-- The value spells no truth value. -/
  | truthSpelling
  /-- The value is of no kind that spells truth values. -/
  | truthKind
  /-- The value is no text. -/
  | textKind
  deriving DecidableEq, Repr, Inhabited

/-- The name of a misfit. -/
def Misfit.name : Misfit → String
  | .truthSpelling => "bool_parsing"
  | .truthKind => "bool_type"
  | .textKind => "string_type"

/-- A setting that does not fit. -/
structure Problem where
  field : Field
  misfit : Misfit
  deriving DecidableEq, Repr, Inhabited

/-- A letter in lower case; one sign beyond ASCII has a plain letter as its lower case. -/
def lowerLetter (c : Char) : Char := if c = '\u212a' then 'k' else c.toLower

/-- The start of the names of all variables. -/
def variableStart : String := "graphmap_"

/-- Whether the name of a variable spells a setting. -/
def spells (field : Field) (name : String) : Bool :=
  name.map lowerLetter = variableStart ++ field.name

/-- The value of a setting that the caller or the environment gives. -/
def given? (environment : List (String × String)) (arguments : List (String × Datum))
    (field : Field) : Option Datum :=
  match arguments.lookup field.name with
  | some d => some d
  | none =>
    (environment.reverse.find? fun entry => spells field entry.1).map fun entry => .text entry.2

/-- The truth value that a text spells. -/
def truthWord? (word : String) : Option Bool :=
  let word := word.map Char.toLower
  if ["1", "on", "t", "true", "y", "yes"].contains word then some true
  else if ["0", "off", "f", "false", "n", "no"].contains word then some false
  else none

/-- The least whole number above those of sixty-four bits with a sign. -/
def wordLimit : Int := 0x8000000000000000

/-- The truth value of a whole number. A number beyond sixty-four bits is of no fitting kind. -/
def truthNumber (n : Int) : Except Misfit Bool :=
  if n = 0 then .ok false
  else if n = 1 then .ok true
  else if -wordLimit ≤ n ∧ n < wordLimit then .error .truthSpelling
  else .error .truthKind

/-- A value as a truth value. -/
def asTruth : Datum → Except Misfit Bool
  | .bool b => .ok b
  | .text s =>
    match truthWord? s with
    | some b => .ok b
    | none => .error .truthSpelling
  | .int n => truthNumber n
  | .float x =>
    match x.toRat? with
    | some q => if q.den = 1 ∧ q.num ≠ -wordLimit then truthNumber q.num else .error .truthKind
    | none => .error .truthKind
  | _ => .error .truthKind

/-- A value as a text. -/
def asText : Datum → Except Misfit String
  | .text s => .ok s
  | _ => .error .textKind

/-- A value as a text that may be absent. -/
def asOptionalText : Datum → Except Misfit (Option String)
  | .null => .ok none
  | d => (asText d).map some

/-- A setting that is read from its value, or its default. -/
def setting {α : Type} (given : Field → Option Datum) (field : Field)
    (read : Datum → Except Misfit α) (default : α) : Except Problem α :=
  match given field with
  | none => .ok default
  | some d => (read d).mapError fun misfit => ⟨field, misfit⟩

/-- The problem of a reading that fails. -/
def problem? {α : Type} : Except Problem α → Option Problem
  | .ok _ => none
  | .error p => some p

/-- The settings that the caller and the environment give, or all that is wrong with them. -/
def load (environment : List (String × String)) (arguments : List (String × Datum)) :
    Except (List Problem) Settings :=
  let given := given? environment arguments
  let defaults : Settings := {}
  let debug := setting given .debug asTruth defaults.debug
  let logLevel := setting given .logLevel asText defaults.logLevel
  let strictLinks := setting given .strictLinks asTruth defaults.strictLinks
  let typeLinksPath := setting given .typeLinksPath asOptionalText defaults.typeLinksPath
  match debug, logLevel, strictLinks, typeLinksPath with
  | .ok debug, .ok logLevel, .ok strictLinks, .ok typeLinksPath =>
    .ok { debug, logLevel, strictLinks, typeLinksPath }
  | debug, logLevel, strictLinks, typeLinksPath =>
    let problems :=
      [problem? debug, problem? logLevel, problem? strictLinks, problem? typeLinksPath]
    .error (problems.filterMap id)

end Settings

end SchemaLink
