import SchemaLink.Hint.Basic

/-!
# Hints as keys

Hints are the same when one is found as a key under the other. Classes, type variables, new types
and opaque objects are compared as objects, aliases by origin and arguments, unions as sets of
members, and literals as sets of constants of one kind. A raw list or mapping is compared item by
item inside another hint, but on its own it is only the same as itself.

What holds a raw list or mapping inside it cannot be hashed. The first such container in the
depth-first order of the hint is the one that a failing hash reports.
-/

namespace SchemaLink

/-- The containers that cannot be hashed. -/
inductive Unhashable where
  | list
  | dict
  deriving DecidableEq, Repr, Inhabited

/-- The name of an unhashable container's type. -/
def Unhashable.typeName : Unhashable → String
  | .list => "list"
  | .dict => "dict"

namespace TypeHint

/-- Whether a hint is the given class. -/
def isClass (c : Class) : TypeHint → Bool
  | .cls d => c = d
  | _ => false

/-- Whether the given class is the only hint of a list. -/
def isOnly (c : Class) : List TypeHint → Bool
  | [t] => t.isClass c
  | _ => false

/-- Whether two literals hold the same constants. -/
def sameLiterals (xs ys : List Value) : Bool :=
  xs.all (fun x => ys.any x.sameKind) && ys.all fun y => xs.any y.sameKind

mutual

/-- Whether two hints are the same key. An alias of the typing module is made up of its origin and
its arguments, and an annotation of its target and its metadata, so that an alias of a class to
itself is the same as the annotation of that class with itself. -/
def same : TypeHint → TypeHint → Bool
  | .value v, .value w => v.same w
  | .cls c, .cls d => c = d
  | .forward m, .forward n => m = n
  | .typeVar l _, .typeVar m _ => l = m
  | .newType l _ _, .newType m _ _ => l = m
  | .object l _ _, .object m _ _ => l = m
  | .form m, .form n => m = n
  | .formAlias m xs, .formAlias n ys => m = n && sameList xs ys
  | .bare c, .bare d => c = d
  | .generic f c xs, .generic g d ys => f = g && c = d && sameList xs ys
  | .literal xs, .literal ys => sameLiterals xs ys
  | .union _ xs, .union _ ys => allAmong xs ys && ys.all (anySame xs)
  | .annotated t xs, .annotated u ys => same t u && sameList xs ys
  | .generic .typing c xs, .annotated t metadata => isOnly c xs && isClass c t && isOnly c metadata
  | .annotated t metadata, .generic .typing c xs => isOnly c xs && isClass c t && isOnly c metadata
  | .list _ xs, .list _ ys => sameList xs ys
  | .tuple xs, .tuple ys => sameList xs ys
  | .dict _ ks xs, .dict _ ls ys => ks = ls && sameList xs ys
  | _, _ => false

/-- Whether two lists hold the same hints, one by one. -/
def sameList : List TypeHint → List TypeHint → Bool
  | [], [] => true
  | x :: xs, y :: ys => same x y && sameList xs ys
  | _, _ => false

/-- Whether every hint of the first list is the same as one of the second. -/
def allAmong : List TypeHint → List TypeHint → Bool
  | [], _ => true
  | x :: xs, ys => ys.any (same x) && allAmong xs ys

/-- Whether a hint of the list is the same as the given one. -/
def anySame : List TypeHint → TypeHint → Bool
  | [], _ => false
  | x :: xs, y => same x y || anySame xs y

end

/-- Whether a hint can be hashed as far as its outermost part is concerned. -/
def isHashable : TypeHint → Bool
  | .list _ _ | .dict _ _ _ => false
  | _ => true

/-- Whether two hints are the same key of a registry. -/
def identical : TypeHint → TypeHint → Bool
  | .list j _, .list k _ => j = k
  | .dict j _ _, .dict k _ _ => j = k
  | t, u => t.isHashable && u.isHashable && same t u

mutual

/-- The first container that keeps a hint from being hashed as a part of another one. -/
def firstUnhashable : TypeHint → Option Unhashable
  | .list _ _ => some .list
  | .dict _ _ _ => some .dict
  | .tuple items => firstUnhashableOf items
  | .formAlias _ args => firstUnhashableOf args
  | .generic _ _ args => firstUnhashableOf args
  | .union _ members => firstUnhashableOf members
  | .annotated t metadata =>
    match firstUnhashable t with
    | some container => some container
    | .none => firstUnhashableOf metadata
  | _ => .none

/-- The first container that keeps one of several hints from being hashed. -/
def firstUnhashableOf : List TypeHint → Option Unhashable
  | [] => .none
  | x :: xs =>
    match firstUnhashable x with
    | some container => some container
    | .none => firstUnhashableOf xs

end

/-- The container that keeps a hint from being a key: a raw list or mapping is a key by itself. -/
def unhashable? (t : TypeHint) : Option Unhashable :=
  if t.isHashable then t.firstUnhashable else .none

end TypeHint

end SchemaLink
