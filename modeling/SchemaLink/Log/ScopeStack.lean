import SchemaLink.Log.Event

/-!
# Nested scopes

Two variables hold the type and the field in force. A block sets both when it is entered, and resets
them in the opposite order when it is left, in whatever way. Setting a variable gives a token with
what the variable held, and resetting it takes the token back. Blocks nest: entering one hides the
scope around it, also where the new one names no field, and leaving it brings that scope back.
-/

namespace SchemaLink

namespace Scope

/-- What a variable held when it was set. -/
structure Token where
  held : Option String
  deriving DecidableEq, Repr, Inhabited

/-- The variable of the type is set. -/
def setTypeName (value : Option String) (vars : Scope) : Token × Scope :=
  (⟨vars.typeName⟩, { vars with typeName := value })

/-- The variable of the field is set. -/
def setField (value : Option String) (vars : Scope) : Token × Scope :=
  (⟨vars.field⟩, { vars with field := value })

/-- The variable of the type is reset. -/
def resetTypeName (token : Token) (vars : Scope) : Scope :=
  { vars with typeName := token.held }

/-- The variable of the field is reset. -/
def resetField (token : Token) (vars : Scope) : Scope :=
  { vars with field := token.held }

end Scope

/-- The tokens that an open block keeps. -/
structure OpenBlock where
  typeName : Scope.Token
  field : Scope.Token
  deriving DecidableEq, Repr, Inhabited

namespace OpenBlock

/-- A block is entered: the type is set, and then the field. -/
def enter (scope vars : Scope) : OpenBlock × Scope :=
  let (typeName, vars) := vars.setTypeName scope.typeName
  let (field, vars) := vars.setField scope.field
  (⟨typeName, field⟩, vars)

/-- A block is left: the field is reset, and then the type. -/
def leave (block : OpenBlock) (vars : Scope) : Scope :=
  (vars.resetField block.field).resetTypeName block.typeName

end OpenBlock

/-- The scopes of the open blocks, the innermost first. -/
abbrev ScopeStack := List Scope

namespace ScopeStack

/-- The scope in force. -/
def current (s : ScopeStack) : Scope := s.head?.getD .outside

/-- One more scope is entered. -/
def enter (scope : Scope) (s : ScopeStack) : ScopeStack := scope :: s

/-- The innermost scope is left. -/
def leave (s : ScopeStack) : ScopeStack := s.tail

/-- A step of a program that works in nested scopes. -/
inductive Step where
  | enter (scope : Scope)
  | leave
  | log (keys : List (String × Datum))
  deriving Repr, Inhabited

/-- What a step shows: the scope in force after it, or the keys of an event. -/
inductive Answer where
  | scope (s : Scope)
  | keys (keys : List (String × Datum))
  deriving Repr, Inhabited

/-- The variables, and the blocks that are open, the innermost first. -/
structure Machine where
  vars : Scope
  blocks : List OpenBlock
  deriving Repr, Inhabited

namespace Machine

/-- No block is open, and no variable is set. -/
def initial : Machine := ⟨.outside, []⟩

/-- One more block is entered. -/
def enter (scope : Scope) (m : Machine) : Machine :=
  let (block, vars) := OpenBlock.enter scope m.vars
  ⟨vars, block :: m.blocks⟩

/-- The innermost block is left. -/
def leave (m : Machine) : Machine :=
  match m.blocks with
  | [] => m
  | block :: blocks => ⟨block.leave m.vars, blocks⟩

/-- A step, and the machine after it. -/
def step (m : Machine) : Step → Answer × Machine
  | .enter scope => (.scope (m.enter scope).vars, m.enter scope)
  | .leave => (.scope m.leave.vars, m.leave)
  | .log keys => (.keys (m.vars.enrich keys), m)

/-- The answers of several steps. -/
def run (m : Machine) : List Step → List Answer
  | [] => []
  | x :: xs => (m.step x).1 :: run (m.step x).2 xs

/-- The machine after the scopes were entered one by one, the innermost last. -/
def ofStack (s : ScopeStack) : Machine := s.foldr enter initial

end Machine

/-- The answers of several steps. -/
def run (s : ScopeStack) (steps : List Step) : List Answer := (Machine.ofStack s).run steps

/-- A scope that is entered and left again leaves no trace. -/
theorem leave_enter (scope : Scope) (s : ScopeStack) : (s.enter scope).leave = s := rfl

/-- The scope in force is the one entered last. -/
theorem current_enter (scope : Scope) (s : ScopeStack) : (s.enter scope).current = scope := rfl

end ScopeStack

end SchemaLink
