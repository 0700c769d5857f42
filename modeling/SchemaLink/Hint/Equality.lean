import SchemaLink.Hint.Identity

/-!
# Equality of type hints

Equality is wider than sharing a key. It looks at an annotation as an alias of its target whose
only argument is that target, so that an alias of a class to itself equals every annotation of the
class, whatever the metadata. Hints that are the same key are equal, and so are hints that are made
up of equal parts.

The members of a union are compared as keys where all of them can be hashed. Otherwise two unions
are equal if they have equally many members, each with an equal one in the other union. Two unions
of the `|` operator are only ever compared as keys, so that their comparison fails if a member
cannot be hashed. Two hints that are one and the same object are equal without being compared.
-/

namespace SchemaLink.TypeHint

/-- Whether an alias of the typing module equals an annotation. -/
def isTargetAlias (origin : Class) (args : List TypeHint) (target : TypeHint) : Bool :=
  isOnly origin args && isClass origin target

/-- The first container that keeps one of the members of two unions from being hashed. -/
def firstUnhashableMember (xs ys : List TypeHint) : Option Unhashable :=
  match firstUnhashableOf xs with
  | some container => some container
  | Option.none => firstUnhashableOf ys

mutual

/-- Whether two hints are equal, unless their comparison fails. -/
def equals : TypeHint → TypeHint → Except Unhashable Bool
  | .formAlias m xs, .formAlias n ys => if m = n then equalsEach xs ys else .ok false
  | .generic .builtin c xs, .generic .builtin d ys => if c = d then equalsEach xs ys else .ok false
  | .generic .typing c xs, .generic .typing d ys => if c = d then equalsEach xs ys else .ok false
  | .generic .typing c xs, .annotated t _ => .ok (isTargetAlias c xs t)
  | .annotated t _, .generic .typing c xs => .ok (isTargetAlias c xs t)
  | .annotated t xs, .annotated u ys =>
    match equals t u with
    | .ok true => equalsEach xs ys
    | answer => answer
  | .union f xs, .union g ys =>
    match firstUnhashableMember xs ys with
    | Option.none => .ok (same (.union f xs) (.union g ys))
    | some container =>
      if f = .operator ∧ g = .operator then .error container
      else
        match eachAmong xs ys with
        | .ok true => if xs.length = ys.length then ys.allM (anyEquals xs) else .ok false
        | answer => answer
  | .list _ xs, .list _ ys => if xs.length = ys.length then equalsEach xs ys else .ok false
  | .tuple xs, .tuple ys => equalsEach xs ys
  | .dict _ ks xs, .dict _ ls ys => if ks = ls then equalsEach xs ys else .ok false
  | t, u => .ok (same t u)

/-- Whether two lists hold equal hints, one by one. The first pair that differs, or whose
comparison fails, decides. -/
def equalsEach : List TypeHint → List TypeHint → Except Unhashable Bool
  | [], [] => .ok true
  | x :: xs, y :: ys =>
    match equals x y with
    | .ok true => equalsEach xs ys
    | answer => answer
  | _, _ => .ok false

/-- Whether every hint of the first list equals one of the second. -/
def eachAmong : List TypeHint → List TypeHint → Except Unhashable Bool
  | [], _ => .ok true
  | x :: xs, ys =>
    match ys.anyM (equals x) with
    | .ok true => eachAmong xs ys
    | answer => answer

/-- Whether a hint of the list equals the given one. -/
def anyEquals : List TypeHint → TypeHint → Except Unhashable Bool
  | [], _ => .ok false
  | x :: xs, y =>
    match equals x y with
    | .ok false => anyEquals xs y
    | answer => answer

end

/-- Whether two hints are known to be equal. -/
def isEqual (t u : TypeHint) : Bool :=
  match equals t u with
  | .ok answer => answer
  | .error _ => false

/-- Whether two hints that were made one by one denote one type: a raw list or mapping is only equal
to itself. -/
def denotesSame (t u : TypeHint) : Except Unhashable Bool :=
  if t.isHashable && u.isHashable then equals t u else .ok (t.identical u)

/-- Whether two hints are equal as keys, if it is known whether they are one object. -/
def keysEqual (oneObject : Bool) (t u : TypeHint) : Except Unhashable Bool :=
  if oneObject then .ok true else denotesSame t u

/-- How alike two hints are. -/
inductive Likeness where
  | different
  /-- Equal, yet not found under each other. -/
  | equal
  | sameKey
  deriving DecidableEq, Repr, Inhabited

/-- How alike two hints are. Equal hints are hashed, so that both have to be hashable. -/
def likeness (oneObject : Bool) (t u : TypeHint) : Except Unhashable Likeness := do
  if ← keysEqual oneObject t u then
    match t.unhashable?, u.unhashable? with
    | some container, _ => .error container
    | Option.none, some container => .error container
    | Option.none, Option.none => return if t.identical u then .sameKey else .equal
  else return .different

end SchemaLink.TypeHint
