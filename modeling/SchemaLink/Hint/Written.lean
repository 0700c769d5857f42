import SchemaLink.Hint.Form

/-!
# Type hints as source text

The source text of a hint names the module of every class and form in it. As an argument of an alias
or a member of a union a class is written by its path and the ellipsis by its dots; elsewhere they
are written like any other object. So is the class of built-in aliases among the arguments of one.
-/

namespace SchemaLink

/-- Where a hint stands in source text. -/
inductive Position where
  /-- The hint is not an argument. -/
  | alone
  /-- The hint is an argument of a built-in alias, or an alternative of the operator. -/
  | builtinArgument
  /-- The hint is an argument of the typing module. -/
  | typingArgument
  deriving DecidableEq, Repr, Inhabited

namespace TypeHint

/-- The position of the arguments of an alias. A callable with listed parameters is written as the
typing module would write it. -/
def argumentPosition (flavour : AliasFlavour) (origin : Class) (args : List TypeHint) : Position :=
  match flavour with
  | .typing => .typingArgument
  | .builtin =>
    if origin = Class.Builtin.callable && listsParameters args then .typingArgument
    else .builtinArgument

/-- The head of an alias in source text. -/
def aliasHead (flavour : AliasFlavour) (origin : Class) : String :=
  match flavour, collectionName? origin with
  | .typing, some name => "typing." ++ name
  | _, _ => origin.path

/-- A union of the typing module from the texts of its members: a type that may be absent has a
form of its own. -/
def writtenUnion (members : List TypeHint) (texts : List String) : String :=
  match members, texts with
  | [a, b], [s, t] =>
    if a.same noneType then "typing.Optional[" ++ t ++ "]"
    else if b.same noneType then "typing.Optional[" ++ s ++ "]"
    else "typing.Union[" ++ s ++ ", " ++ t ++ "]"
  | _, _ => "typing.Union[" ++ Text.commaList texts ++ "]"

/-- A union of the operator from the texts of its members. -/
def writtenAlternatives (members : List TypeHint) (texts : List String) : String :=
  " | ".intercalate (List.zipWith (fun m s => if same m noneType then "None" else s) members texts)

/-- A constant in its position. -/
def writtenConstant (position : Position) (v : Value) : String :=
  if position ≠ .alone && v = .ellipsis then "..." else v.written

/-- A class in its position. -/
def writtenClass (position : Position) (c : Class) : String :=
  match position with
  | .alone => c.written
  | .builtinArgument => if c.derives Class.Builtin.genericAlias then c.written else c.path
  | .typingArgument => c.path

mutual

/-- The source text of a hint in its position. -/
def render (position : Position) : TypeHint → String
  | .value v => writtenConstant position v
  | .cls c => writtenClass position c
  | .forward name => "ForwardRef(" ++ Text.quote name ++ ")"
  | .typeVar _ name => "~" ++ name
  | .newType _ name _ => "__main__." ++ name
  | .object _ _ text => text
  | .form name => "typing." ++ name
  | .formAlias name args => "typing." ++ name ++ "["
    ++ Text.commaList (renderAll .typingArgument args) ++ "]"
  | .bare origin => "typing." ++ (collectionName? origin).getD origin.name
  | .generic flavour origin args =>
    let arguments := match renderAll (argumentPosition flavour origin args) args with
      | [] => ["()"]
      | texts => aliasParts origin args texts
    aliasHead flavour origin ++ "[" ++ Text.commaList arguments ++ "]"
  | .literal items => "typing.Literal[" ++ Text.commaList (items.map Value.written) ++ "]"
  | .union .typing members => writtenUnion members (renderAll .typingArgument members)
  | .union .operator members =>
    writtenAlternatives members (renderAll .builtinArgument members)
  | .annotated target metadata =>
    "typing.Annotated[" ++ render .typingArgument target ++ ", "
      ++ Text.commaList (renderAll .alone metadata) ++ "]"
  | .list _ items => "[" ++ Text.commaList (renderAll .alone items) ++ "]"
  | .tuple items =>
    match renderAll .alone items with
    | [single] => "(" ++ single ++ ",)"
    | several => "(" ++ Text.commaList several ++ ")"
  | .dict _ keys values =>
    "\x7b" ++ Text.commaList (List.zipWith (fun key value => Text.quote key ++ ": " ++ value) keys
      (renderAll .alone values)) ++ "\x7d"

/-- The source texts of several hints. -/
def renderAll (position : Position) : List TypeHint → List String
  | [] => []
  | x :: xs => render position x :: renderAll position xs

end

/-- The source text of a hint. -/
def written (t : TypeHint) : String := t.render .alone

/-- The source text of a hint as the key of a registry. -/
def keyText (t : TypeHint) : String := "TypeIdentity(" ++ t.written ++ ")"

end TypeHint

end SchemaLink
