import SchemaLink.Hint.Expression
import SchemaLink.Schema.Type

/-!
# Schema types as they are written

An expression spells a schema type out of the named types that are there. A spelled hint in its
place is a value that is no schema type.
-/

namespace SchemaLink

/-- A spelled schema type. -/
inductive SchemaExpr where
  | named (id : String)
  | deferred (name : String)
  | other (label : String)
  | foreign (value : HintExpr)
  | list (of : SchemaExpr)
  | nonNull (of : SchemaExpr)
  deriving Inhabited

namespace SchemaExpr

/-- The schema type that an expression spells, and the workshop afterwards. An expression that names
an unknown type spells nothing. -/
def eval (types : List NamedType) : SchemaExpr → Workshop → Option (SchemaType × Workshop)
  | .named id, w => (types.find? fun t => t.id = id).map fun t => (.named t, w)
  | .deferred name, w => some (.deferred name, w)
  | .other label, w => some (.other label, w)
  | .foreign value, w => (value.eval w).map fun (t, w) => (.foreign t, w)
  | .list of, w => (of.eval types w).map fun (t, w) => (.list t, w)
  | .nonNull of, w => (of.eval types w).map fun (t, w) => (.nonNull t, w)

/-- The schema types of named expressions, evaluated in order. -/
def evalTable (types : List NamedType) :
    List (String × SchemaExpr) → Workshop → Option (List (String × SchemaType) × Workshop)
  | [], w => some ([], w)
  | (name, e) :: rest, w => do
    let (t, w) ← e.eval types w
    let (table, w) ← evalTable types rest w
    return ((name, t) :: table, w)

end SchemaExpr

end SchemaLink
