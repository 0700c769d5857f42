import SchemaLink.Decimal.Shortest
import SchemaLink.Text.Quoted

/-!
# Constant values

Constants may stand wherever a type hint is expected. Numbers of every kind are compared by their
exact value, so that the integer one, the truth value `True` and the float one are the same
constant; an undefined float is only ever the same as itself.
-/

namespace SchemaLink

/-- A constant that appears in a type hint. -/
inductive Value where
  | none
  | ellipsis
  | text (s : String)
  | int (n : Int)
  | bool (b : Bool)
  | float (x : Double)
  | bytes (b : List UInt8)
  deriving DecidableEq, Repr, Inhabited

/-- What a number is compared by. -/
inductive Magnitude where
  | exact (q : Rat)
  | infinite (negative : Bool)
  | undefined (token : Nat)
  deriving DecidableEq

namespace Value

/-- The magnitude of a constant that is a number. -/
def magnitude? : Value → Option Magnitude
  | .int n => some (.exact n)
  | .bool b => some (.exact (if b then 1 else 0))
  | .float (.infinite negative) => some (.infinite negative)
  | .float (.undefined token) => some (.undefined token)
  | .float x => x.toRat?.map .exact
  | _ => Option.none

/-- What a constant is compared by: a number by its magnitude, any other by itself. -/
def comparand (v : Value) : Magnitude ⊕ Value :=
  match v.magnitude? with
  | some m => .inl m
  | Option.none => .inr v

/-- Whether two constants are equal. -/
def same (v w : Value) : Bool := v.comparand = w.comparand

/-- The number of the constant's kind; constants of one kind have one number. -/
def kind : Value → Nat
  | .none => 0
  | .ellipsis => 1
  | .text _ => 2
  | .int _ => 3
  | .bool _ => 4
  | .float _ => 5
  | .bytes _ => 6

/-- Whether two constants are equal and of one kind. -/
def sameKind (v w : Value) : Bool := v.kind = w.kind && v.same w

/-- The constant as it is written in source text. -/
def written : Value → String
  | .none => "None"
  | .ellipsis => "Ellipsis"
  | .text s => Text.quote s
  | .int n => toString n
  | .bool b => if b then "True" else "False"
  | .float x => x.render Double.plain
  | .bytes b => Text.quoteBytes b

@[simp] theorem same_iff {v w : Value} : v.same w = true ↔ v.comparand = w.comparand := by
  simp [same]

theorem same_self (v : Value) : v.same v = true := by simp

theorem same_symm (v w : Value) : v.same w = w.same v := by simp [same, eq_comm]

theorem same_trans {u v w : Value} (huv : u.same v = true) (hvw : v.same w = true) :
    u.same w = true := by
  simp only [same_iff] at *
  exact huv.trans hvw

@[simp] theorem sameKind_self (v : Value) : v.sameKind v = true := by simp [sameKind]

end Value

end SchemaLink
