import SchemaLink.Hint.Equality
import SchemaLink.Hint.Form

/-!
# Building unions, aliases and annotations

The constructors of hints put their arguments into one form. A union is flat, holds no member
twice, and is its member when it has only one; metadata gathers in one annotation; a literal holds
each constant once. Arguments of the typing module are types: a text among them becomes a forward
reference, and the absence of a value its class.
-/

namespace SchemaLink.TypeHint

/-- An argument of the typing module as a type. -/
def asType : TypeHint → TypeHint
  | .value .none => noneType
  | .value (.text s) => .forward s
  | t => t

/-- The members that a hint contributes to a union. -/
def unionMembers : TypeHint → List TypeHint
  | .union _ members => members
  | t => [t]

@[simp] theorem unionMembers_union (flavour : UnionFlavour) (members : List TypeHint) :
    (union flavour members).unionMembers = members := rfl

@[simp] theorem unionMembers_cls (c : Class) : (cls c).unionMembers = [cls c] := rfl

/-- The hints of a list that repeat neither an earlier one nor one that is kept already. -/
def distinctBeside (alike : TypeHint → TypeHint → Bool) (kept : List TypeHint) :
    List TypeHint → List TypeHint
  | [] => []
  | x :: xs =>
    if kept.any (alike x) then distinctBeside alike kept xs
    else x :: distinctBeside alike (x :: kept) xs

/-- The members of a union without those that repeat an earlier one. The typing module compares
members as keys where it can. -/
def distinct (flavour : UnionFlavour) (members : List TypeHint) : List TypeHint :=
  if flavour = .typing ∧ (firstUnhashableOf members).isNone then distinctBeside same [] members
  else distinctBeside isEqual [] members

/-- The union of members that are types already. -/
def mkUnion (flavour : UnionFlavour) (members : List TypeHint) : TypeHint :=
  match distinct flavour (members.flatMap unionMembers) with
  | [single] => single
  | several => .union flavour several

/-- The union of the typing module of any arguments. -/
def unionOf (args : List TypeHint) : TypeHint := mkUnion .typing (args.map asType)

/-- A type that may be absent. -/
def optional (t : TypeHint) : TypeHint := unionOf [t, none]

/-- Whether the `|` operator joins the hint without help from the typing module. -/
def isOperand : TypeHint → Bool
  | .cls _ | .value .none | .generic .builtin _ _ | .union .operator _ => true
  | _ => false

/-- The `|` operator. -/
def either (t u : TypeHint) : TypeHint :=
  let flavour := if t.isOperand && u.isOperand then UnionFlavour.operator else .typing
  mkUnion flavour [asType t, asType u]

/-- Several alternatives, joined from left to right. -/
def alternatives : List TypeHint → TypeHint
  | [] => none
  | t :: ts => ts.foldl either t

/-- Whether a class is the base of generics or of protocols, which is no type by itself, with
arguments or without. -/
def isTypingBase (c : Class) : Bool := c = Class.Builtin.generic || c = Class.Builtin.protocol

/-- The special forms that are types only together with their arguments. -/
def incompleteForms : List String :=
  ["Concatenate", "Literal", "NotRequired", "Optional", "Required", "TypeGuard", "Union", "Unpack"]

/-- Whether an argument of the typing module may carry metadata. A constant, or a raw list, mapping
or tuple, is no type and belongs to no module. -/
def isAnnotatable : TypeHint → Bool
  | .value _ | .list _ _ | .tuple _ | .dict _ _ _ => false
  | .cls c | .generic .typing c _ => !isTypingBase c
  | .form name => name ∉ incompleteForms
  | _ => true

/-- A hint with metadata; annotations do not nest. Whether the hint may carry any is left to
`annotate?`. -/
def annotate (target : TypeHint) (metadata : List TypeHint) : TypeHint :=
  match asType target with
  | .annotated inner earlier => .annotated inner (earlier ++ metadata)
  | t => .annotated t metadata

/-- A hint with metadata, of which there is some, if the hint may carry any. -/
def annotate? (target : TypeHint) (metadata : List TypeHint) : Option TypeHint :=
  if target.asType.isAnnotatable && !metadata.isEmpty then some (annotate target metadata)
  else Option.none

/-- A hint with metadata is made exactly if the hint may carry any and there is some. -/
theorem annotate?_eq_some_iff {t u : TypeHint} {metadata : List TypeHint} :
    annotate? t metadata = some u ↔
      t.asType.isAnnotatable = true ∧ metadata ≠ [] ∧ annotate t metadata = u := by
  simp [annotate?, and_assoc]

/-- Constants that repeat an earlier one of their kind are dropped. -/
def dedupeValues : List Value → List Value
  | [] => []
  | v :: vs => v :: (dedupeValues vs).filter fun w => !v.sameKind w

/-- The constants that an argument contributes to a literal. -/
def literalItems : TypeHint → List Value
  | .literal items => items
  | .value v => [v]
  | _ => []

/-- A literal of constants and other literals. -/
def literalOf (args : List TypeHint) : TypeHint :=
  .literal (dedupeValues (args.flatMap literalItems))

/-- The arguments of a callable, with its parameter list opened. -/
def callableArgs : List TypeHint → List TypeHint
  | .list _ parameters :: result => parameters ++ result
  | .tuple parameters :: result => parameters ++ result
  | args => args

/-- The arguments of an alias as it keeps them. -/
def aliasArgs (flavour : AliasFlavour) (origin : Class) (args : List TypeHint) : List TypeHint :=
  let args := if origin = Class.Builtin.callable then callableArgs args else args
  match flavour with
  | .builtin => args
  | .typing => args.map asType

/-- Whether an alias of the class is one of the typing module: the first ancestor that takes type
arguments is the generic base, or takes them as that base does and keeps record of its parameters.
The collections do not. -/
def isTypingGeneric (origin : Class) : Bool :=
  match origin.order.find? fun body => body.concrete.contains Class.subscriptMember with
  | some body =>
    body = Class.Builtin.generic.body || body.concrete.contains Class.parametersMember
  | Option.none => false

/-- A class with arguments. -/
def subscript (origin : Class) (args : List TypeHint) : TypeHint :=
  let flavour := if isTypingGeneric origin then AliasFlavour.typing else .builtin
  .generic flavour origin (aliasArgs flavour origin args)

/-- A name of the typing module on its own. -/
def named (name : String) : TypeHint :=
  match collection? name with
  | some origin => .bare origin
  | Option.none =>
    match classNames.lookup name with
    | some c => .cls c
    | Option.none => .form name

/-- A name of the typing module with arguments, if it is not the name of annotations. -/
def applyForm (name : String) (args : List TypeHint) : TypeHint :=
  match name, args with
  | "Union", args => unionOf args
  | "Optional", [t] => optional t
  | "Literal", args => literalOf args
  | name, args =>
    match collection? name with
    | some origin => .generic .typing origin (aliasArgs .typing origin args)
    | Option.none =>
      match classNames.lookup name with
      | some c => .generic .typing c (args.map asType)
      | Option.none => .formAlias name (args.map asType)

/-- A name of the typing module with arguments: that of annotations takes a hint that may carry
metadata, and the metadata. -/
def applyForm? (name : String) (args : List TypeHint) : Option TypeHint :=
  match name, args with
  | "Annotated", t :: metadata => annotate? t metadata
  | "Annotated", [] => Option.none
  | name, args => some (applyForm name args)

end SchemaLink.TypeHint
