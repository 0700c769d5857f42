import SchemaLink.Hint.Written

/-!
# Display names

Messages call a hint by a short name: a class by its own name, a reference by the name it points
to, an alias by its origin and the names of its arguments, and a union by its members with bars
between them. No name says which module, or which of the two families of aliases and unions, a part
comes from, and metadata is left out.
-/

namespace SchemaLink

/-- The display name of a constant. -/
def Value.displayName : Value → String
  | .none => "None"
  | .ellipsis => "..."
  | .text s => s
  | v => Text.without "typing." v.written

namespace TypeHint

/-- A name with its arguments in brackets, if it has any. -/
def applied (name : String) (args : List String) : String :=
  if args.isEmpty then name else name ++ "[" ++ Text.commaList args ++ "]"

mutual

/-- The short name of a hint. -/
def displayName : TypeHint → String
  | .value v => v.displayName
  | .cls c => if c = Class.Builtin.noneType then "None" else c.name
  | .forward name => name
  | .typeVar _ name => name
  | .newType _ name _ => name
  | .object _ (some name) _ => name
  | .object _ Option.none text => Text.without "typing." text
  | .form name => name
  | .formAlias name args => applied name (displayNames args)
  | .bare origin => origin.name
  | .generic _ origin args => applied origin.name (aliasParts origin args (displayNames args))
  | .literal items => applied "Literal" (items.map Value.displayName)
  | .union _ members => " | ".intercalate (displayNames members)
  | .annotated target _ => displayName target
  | .list _ items => "[" ++ Text.commaList (displayNames items) ++ "]"
  | .tuple items => "[" ++ Text.commaList (displayNames items) ++ "]"
  | .dict token keys values => Text.without "typing." (written (.dict token keys values))

/-- The short names of several hints. -/
def displayNames : List TypeHint → List String
  | [] => []
  | x :: xs => displayName x :: displayNames xs

end

/-- The schema name that a display name stands for: a name that starts with an opening parenthesis
is cut down to the text between it and the first blank. -/
def normalizeName (name : String) : String :=
  match name.toList with
  | '(' :: rest => String.ofList (rest.takeWhile (· ≠ ' '))
  | _ => name

end TypeHint

end SchemaLink
