import SchemaLink.Registry.Basic

/-!
# Import paths

An import path names an object of a module. It is cut at its first colon or, without one, at its
last point; what stands before the cut is the module, and what stands behind it is the member. A
module is found by its full name. If there is none of that name, the error names the first ancestor
that is missing, or the parent that cannot have modules of its own.
-/

namespace SchemaLink

/-- An object that a module offers. -/
inductive Imported where
  | hint (t : TypeHint)
  | schema (t : SchemaType)
  | tuple (items : List Imported)
  deriving Repr, Inhabited

/-- A module; a package may have modules below it. -/
structure Module where
  name : String
  isPackage : Bool
  members : List (String × Imported)
  deriving Repr, Inhabited

/-- Why an import path leads to no object. -/
inductive ImportError where
  /-- The path is no text, and nothing can be searched in it. -/
  | notSearchable (typeName : String)
  /-- The path is no text, and cannot be cut. -/
  | notCuttable (typeName operation : String)
  | noCut
  | emptyModule
  | relative (name : String)
  | noModule (name : String)
  | notPackage (name parent : String)
  | noMember (moduleName member : String)
  deriving DecidableEq, Repr, Inhabited

/-- The message about a path that leads to no object. -/
def ImportError.message : ImportError → String
  | .notSearchable typeName => "argument of type '" ++ typeName ++ "' is not iterable"
  | .notCuttable typeName operation =>
    "'" ++ typeName ++ "' object has no attribute '" ++ operation ++ "'"
  | .noCut => "not enough values to unpack (expected 2, got 1)"
  | .emptyModule => "Empty module name"
  | .relative name =>
    "the 'package' argument is required to perform a relative import for " ++ Text.quote name
  | .noModule name => "No module named " ++ Text.quote name
  | .notPackage name parent =>
    "No module named " ++ Text.quote name ++ "; " ++ Text.quote parent ++ " is not a package"
  | .noMember moduleName member =>
    "module '" ++ moduleName ++ "' has no attribute '" ++ member ++ "'"

/-- The name of the kind of error. -/
def ImportError.kindName : ImportError → String
  | .notSearchable _ | .relative _ => "TypeError"
  | .notCuttable _ _ | .noMember _ _ => "AttributeError"
  | .noCut | .emptyModule => "ValueError"
  | .noModule _ | .notPackage _ _ => "ModuleNotFoundError"

namespace Text

theorem length_of_cutLast {c : Char} {xs : List Char} {parts : List Char × List Char}
    (h : cutLast c xs = some parts) : parts.1.length < xs.length := by
  induction xs generalizing parts with
  | nil => simp [cutLast] at h
  | cons x xs ih =>
    unfold cutLast at h
    split at h
    · next p hp =>
      obtain rfl := Option.some.inj h
      have := ih hp
      simp; omega
    · split at h
      · obtain rfl := Option.some.inj h
        simp
      · cases h

end Text

namespace Module

/-- The module with a full name. -/
def find? (modules : List Module) (name : List Char) : Option Module :=
  modules.find? fun m => m.name.toList = name

/-- The module with a full name, or the reason why it is missing. -/
def locate (modules : List Module) (name : List Char) : Except ImportError Module :=
  match find? modules name with
  | some m => .ok m
  | none =>
    match _h : Text.cutLast '.' name with
    | none => .error (.noModule (String.ofList name))
    | some (parent, _) =>
      if parent.isEmpty then .error (.noModule (String.ofList name))
      else
        match locate modules parent with
        | .error e => .error e
        | .ok m =>
          if m.isPackage then .error (.noModule (String.ofList name))
          else .error (.notPackage (String.ofList name) (String.ofList parent))
termination_by name.length
decreasing_by exact Text.length_of_cutLast _h

/-- The module that an import names. -/
def import? (modules : List Module) (name : List Char) : Except ImportError Module :=
  match name with
  | [] => .error .emptyModule
  | '.' :: _ => .error (.relative (String.ofList name))
  | _ => locate modules name

/-- A member of a module. -/
def member (m : Module) (name : List Char) : Except ImportError Imported :=
  match m.members.lookup (String.ofList name) with
  | some object => .ok object
  | none => .error (.noMember m.name (String.ofList name))

end Module

/-- The module part and the member part of an import path. -/
def splitPath (path : List Char) : Option (List Char × List Char) :=
  match Text.cutFirst ':' path with
  | some parts => some parts
  | none => Text.cutLast '.' path

/-- The object that an import path names. -/
def importPath (modules : List Module) (path : String) : Except ImportError Imported :=
  match splitPath path.toList with
  | none => .error .noCut
  | some (moduleName, member) =>
    match Module.import? modules moduleName with
    | .error e => .error e
    | .ok m => m.member member

/-- How a path that is no text, but can be searched for a colon, fails to be cut. -/
def uncuttable (typeName : String) (hasColon : Bool) : ImportError :=
  .notCuttable typeName (if hasColon then "split" else "rsplit")

/-- Whether a list of data holds a colon. -/
def holdsColon (items : List Datum) : Bool :=
  items.any fun
    | .text s => s = ":"
    | _ => false

/-- The object that a path in a document names. Only a text is a path. -/
def importDatum (modules : List Module) (path : Datum) : Except ImportError Imported :=
  match path with
  | .text s => importPath modules s
  | d =>
    match d.items? with
    | some items => .error (uncuttable d.typeName (holdsColon items))
    | none => .error (.notSearchable d.typeName)

namespace SchemaType

/-- A label that tells a schema type from all others. -/
def label : SchemaType → String
  | .named t => t.id
  | .deferred name => "?" ++ name
  | .other label => "=" ++ label
  | .foreign value => "#" ++ value.written
  | .list of => "[" ++ of.label ++ "]"
  | .nonNull of => of.label ++ "!"

end SchemaType

namespace Imported

mutual

/-- An imported object as a hint. A schema type is an opaque object there. -/
def toHint : Imported → TypeHint
  | .hint t => t
  | .schema (.foreign value) => value
  | .schema t => .object ("schema type " ++ t.label) none t.written
  | .tuple items => .tuple (toHints items)

/-- Several imported objects as hints. -/
def toHints : List Imported → List TypeHint
  | [] => []
  | x :: xs => toHint x :: toHints xs

end

/-- An imported object as a schema type. -/
def toSchema? : Imported → Option SchemaType
  | .schema t => if t.isType then some t else none
  | _ => none

/-- An imported object as a pair of a hint and a schema type. -/
def toLink? : Imported → Option (TypeHint × SchemaType)
  | .tuple [first, second] => second.toSchema?.map fun g => (first.toHint, g)
  | _ => none

end Imported

end SchemaLink
