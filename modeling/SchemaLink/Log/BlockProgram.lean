import SchemaLink.Log.ScopeStack

/-!
# Programs of blocks

A program opens blocks, sends events and raises failures. A block keeps its own tokens while its
body runs, and is left by them however the body ends; the failure of the body then goes on. An
attempt handles the failures that it catches, from where the body left the variables.
-/

namespace SchemaLink

/-- A program that works in nested blocks, with failures of type `ε`. -/
inductive BlockProgram (ε : Type) where
  | skip
  | log (keys : List (String × Datum))
  | raise (e : ε)
  | seq (first rest : BlockProgram ε)
  /-- A body in a block for a type, and a field if there is one. -/
  | block (typeName : String) (field : Option String) (body : BlockProgram ε)
  /-- A body, and what is done about the failures that are caught. -/
  | attempt (body : BlockProgram ε) (catches : ε → Bool) (handler : BlockProgram ε)

namespace BlockProgram

variable {ε : Type}

/-- A step that was taken, what it showed, and the scope in force after it. -/
structure Point where
  step : ScopeStack.Step
  answer : ScopeStack.Answer
  inForce : Scope
  deriving Repr, Inhabited

/-- What happened on the way, how it ended, and the variables at the end. -/
structure Execution (ε : Type) where
  points : List Point
  result : Except ε Unit
  vars : Scope

/-- An execution with something before it. -/
def Execution.after (points : List Point) (x : Execution ε) : Execution ε :=
  { x with points := points ++ x.points }

/-- The execution of a program from where the variables stand. -/
def exec : BlockProgram ε → Scope → Execution ε
  | .skip, vars => ⟨[], .ok (), vars⟩
  | .log keys, vars =>
    ⟨[⟨.log keys, .keys (vars.enrich keys), vars⟩], .ok (), vars⟩
  | .raise e, vars => ⟨[], .error e, vars⟩
  | .seq first rest, vars =>
    let x := exec first vars
    match x.result with
    | .error _ => x
    | .ok () => (exec rest x.vars).after x.points
  | .block typeName field body, vars =>
    let (opened, inside) := OpenBlock.enter ⟨some typeName, field⟩ vars
    let x := exec body inside
    let left := opened.leave x.vars
    { points := ⟨.enter ⟨some typeName, field⟩, .scope inside, inside⟩ :: x.points
        ++ [⟨.leave, .scope left, left⟩]
      result := x.result
      vars := left }
  | .attempt body catches handler, vars =>
    let x := exec body vars
    match x.result with
    | .error e => if catches e then (exec handler x.vars).after x.points else x
    | .ok () => x

end BlockProgram

end SchemaLink
