import SchemaLink.Hint.Union

/-!
# Type hints as they are written

An expression spells a hint. Evaluating it applies the construction rules and makes every raw list,
raw mapping and undefined float a new object; opaque objects, type variables and new types are made
once for each label, and a name bound earlier stands for the very hint it was bound to. An
expression that annotates what may not carry metadata spells nothing.
-/

namespace SchemaLink

/-- A spelled type hint. -/
inductive HintExpr where
  | value (v : Value)
  | cls (id : String)
  | forward (name : String)
  | typeVar (label name : String)
  | newType (label name : String) (underlying : HintExpr)
  | object (label : String) (name : Option String) (written : String)
  | list (items : List HintExpr)
  | tuple (items : List HintExpr)
  | dict (keys : List String) (values : List HintExpr)
  | var (name : String)
  | subscript (id : String) (args : List HintExpr)
  | form (name : String)
  | apply (name : String) (args : List HintExpr)
  | union (members : List HintExpr)
  | optional (target : HintExpr)
  | either (members : List HintExpr)
  | reference (target : HintExpr)
  | annotated (target : HintExpr) (metadata : List HintExpr)
  | literal (items : List HintExpr)
  deriving Inhabited

/-- The classes that expressions may name, and what they have made so far. -/
structure Workshop where
  classes : List Class
  /-- The token of the next raw object. -/
  next : Nat := 0
  objects : List (String × TypeHint) := []
  typeVars : List (String × TypeHint) := []
  newTypes : List (String × TypeHint) := []
  vars : List (String × TypeHint) := []

namespace Workshop

/-- A token that no earlier object has. -/
def fresh (w : Workshop) : Nat × Workshop := (w.next, { w with next := w.next + 1 })

/-- A constant; an undefined float is a new object. -/
def constant (v : Value) (w : Workshop) : TypeHint × Workshop :=
  match v with
  | .float (.undefined _) =>
    let (token, w) := w.fresh
    (.value (.float (.undefined token)), w)
  | v => (.value v, w)

/-- What was made for a label, or else the given hint, and all that is made afterwards. -/
def once (label : String) (t : TypeHint) (made : List (String × TypeHint)) :
    TypeHint × List (String × TypeHint) :=
  match made.lookup label with
  | some earlier => (earlier, made)
  | none => (t, (label, t) :: made)

/-- The object with a label; the first one made keeps its attributes. -/
def object (label : String) (name : Option String) (text : String) (w : Workshop) :
    TypeHint × Workshop :=
  let (t, objects) := once label (.object label name text) w.objects
  (t, { w with objects })

/-- The type variable with a label; the first one made keeps its name. -/
def typeVar (label name : String) (w : Workshop) : TypeHint × Workshop :=
  let (t, typeVars) := once label (.typeVar label name) w.typeVars
  (t, { w with typeVars })

/-- The new type with a label; the first one made keeps its name and its underlying type. -/
def newType (label name : String) (underlying : TypeHint) (w : Workshop) : TypeHint × Workshop :=
  let (t, newTypes) := once label (.newType label name underlying) w.newTypes
  (t, { w with newTypes })

end Workshop

namespace HintExpr

mutual

/-- The hint that an expression spells, and the workshop afterwards. An expression that names an
unknown class or an unbound name, or annotates what may not carry metadata, spells nothing. -/
def eval : HintExpr → Workshop → Option (TypeHint × Workshop)
  | .value v, w => some (w.constant v)
  | .cls id, w => (Class.find? w.classes id).map fun c => (.cls c, w)
  | .forward name, w => some (.forward name, w)
  | .typeVar label name, w => some (w.typeVar label name)
  | .newType label name underlying, w =>
    (eval underlying w).map fun (t, w) => w.newType label name t
  | .object label name text, w => some (w.object label name text)
  | .list items, w =>
    (evalAll items w).map fun (ts, w) =>
      let (token, w) := w.fresh
      (.list token ts, w)
  | .tuple items, w => (evalAll items w).map fun (ts, w) => (.tuple ts, w)
  | .dict keys values, w =>
    (evalAll values w).map fun (ts, w) =>
      let (token, w) := w.fresh
      (.dict token keys ts, w)
  | .var name, w => (w.vars.lookup name).map fun t => (t, w)
  | .subscript id args, w =>
    match Class.find? w.classes id with
    | none => none
    | some c => (evalAll args w).map fun (ts, w) => (TypeHint.subscript c ts, w)
  | .form name, w => some (TypeHint.named name, w)
  | .apply name args, w =>
    (evalAll args w).bind fun (ts, w) => (TypeHint.applyForm? name ts).map fun t => (t, w)
  | .union members, w => (evalAll members w).map fun (ts, w) => (TypeHint.unionOf ts, w)
  | .optional target, w => (eval target w).map fun (t, w) => (TypeHint.optional t, w)
  | .either members, w => (evalAll members w).map fun (ts, w) => (TypeHint.alternatives ts, w)
  | .reference target, w => (eval target w).map fun (t, w) => (TypeHint.reference t.asType, w)
  | .annotated target metadata, w =>
    match eval target w with
    | none => none
    | some (t, w) =>
      (evalAll metadata w).bind fun (ts, w) => (TypeHint.annotate? t ts).map fun u => (u, w)
  | .literal items, w => (evalAll items w).map fun (ts, w) => (TypeHint.literalOf ts, w)

/-- The hints of several expressions, evaluated from left to right. -/
def evalAll : List HintExpr → Workshop → Option (List TypeHint × Workshop)
  | [], w => some ([], w)
  | e :: es, w =>
    match eval e w with
    | none => none
    | some (t, w) => (evalAll es w).map fun (ts, w) => (t :: ts, w)

end

/-- Whether two expressions spell one object because they are one name that was bound. -/
def isSameVar : HintExpr → HintExpr → Bool
  | .var m, .var n => m = n
  | _, _ => false

end HintExpr

/-- Each name is bound to the hint of its expression, in order. -/
def Workshop.bindAll : List (String × HintExpr) → Workshop → Option Workshop
  | [], w => some w
  | (name, e) :: rest, w =>
    match e.eval w with
    | none => none
    | some (t, w) => bindAll rest { w with vars := (name, t) :: w.vars }

end SchemaLink
