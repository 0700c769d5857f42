import SchemaLink.Config.Declaration
import SchemaLink.Schema.Expression

/-!
# Installations as they are written

The members of modules and the objects of entry points are spelled as hints, schema types, data and
tuples of these. They are made once, so that a raw list or mapping among them is one object however
often it is imported.
-/

namespace SchemaLink

namespace Workshop

mutual

/-- A datum as a hint: a list or a mapping is a new raw object. -/
def hintOf : Datum → Workshop → TypeHint × Workshop
  | .list items, w =>
    let (ts, w) := hintsOf items w
    let (token, w) := w.fresh
    (.list token ts, w)
  | .map keys values, w =>
    let (ts, w) := hintsOf values w
    let (token, w) := w.fresh
    (.dict token (keys.map Datum.plainText) ts, w)
  | d, w => w.constant (d.toValue?.getD .none)

/-- Several data as hints. -/
def hintsOf : List Datum → Workshop → List TypeHint × Workshop
  | [], w => ([], w)
  | d :: ds, w =>
    let (t, w) := hintOf d w
    let (ts, w) := hintsOf ds w
    (t :: ts, w)

end

end Workshop

/-- A spelled object of a module or an entry point. -/
inductive ObjectExpr where
  | hint (e : HintExpr)
  | schema (e : SchemaExpr)
  | datum (d : Datum)
  | tuple (items : List ObjectExpr)
  deriving Inhabited

namespace ObjectExpr

mutual

/-- The object that an expression spells, and the workshop afterwards. -/
def eval (types : List NamedType) : ObjectExpr → Workshop → Option (Imported × Workshop)
  | .hint e, w => (e.eval w).map fun (t, w) => (.hint t, w)
  | .schema e, w => (e.eval types w).map fun (t, w) => (.schema t, w)
  | .datum d, w =>
    let (t, w) := w.hintOf d
    some (.hint t, w)
  | .tuple items, w => (evalAll types items w).map fun (objects, w) => (.tuple objects, w)

/-- The objects of several expressions, evaluated in order. -/
def evalAll (types : List NamedType) :
    List ObjectExpr → Workshop → Option (List Imported × Workshop)
  | [], w => some ([], w)
  | e :: es, w =>
    match eval types e w with
    | none => none
    | some (object, w) => (evalAll types es w).map fun (objects, w) => (object :: objects, w)

end

/-- The objects of named expressions, evaluated in order. -/
def evalTable (types : List NamedType) :
    List (String × ObjectExpr) → Workshop → Option (List (String × Imported) × Workshop)
  | [], w => some ([], w)
  | (name, e) :: rest, w => do
    let (object, w) ← e.eval types w
    let (table, w) ← evalTable types rest w
    return ((name, object) :: table, w)

end ObjectExpr

/-- A spelled module, which has no modules below it. -/
structure ModuleExpr where
  name : String
  members : List (String × ObjectExpr)
  deriving Inhabited

/-- The modules that expressions spell, evaluated in order. -/
def ModuleExpr.evalAll (types : List NamedType) :
    List ModuleExpr → Workshop → Option (List Module × Workshop)
  | [], w => some ([], w)
  | m :: ms, w => do
    let (members, w) ← ObjectExpr.evalTable types m.members w
    let (rest, w) ← evalAll types ms w
    return ({ name := m.name, isPackage := false, members } :: rest, w)

/-- A spelled entry point. -/
structure EntryPointExpr where
  name : String
  group : String
  object : Except String ObjectExpr
  deriving Inhabited

/-- The entry points that expressions spell, evaluated in order. -/
def EntryPointExpr.evalAll (types : List NamedType) :
    List EntryPointExpr → Workshop → Option (List EntryPoint × Workshop)
  | [], w => some ([], w)
  | p :: ps, w => do
    let (object, w) ← match p.object with
      | .error text => some (.error text, w)
      | .ok e => (e.eval types w).map fun (object, w) => (.ok object, w)
    let (rest, w) ← evalAll types ps w
    return ({ name := p.name, group := p.group, object } :: rest, w)

end SchemaLink
