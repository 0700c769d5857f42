/-!
# Digits

A numeral in a base up to sixteen is read digit by digit, the most significant one first.
-/

namespace SchemaLink.Text

/-- The value of a digit of a base up to sixteen. -/
def digitValue? (x : Char) : Option Nat :=
  if x.isDigit then some (x.toNat - '0'.toNat)
  else if 'a' ≤ x ∧ x ≤ 'f' then some (x.toNat - 'a'.toNat + 10)
  else if 'A' ≤ x ∧ x ≤ 'F' then some (x.toNat - 'A'.toNat + 10)
  else none

/-- A numeral with one more digit on the right. -/
def appendDigit? (base : Nat) (n : Nat) (x : Char) : Option Nat :=
  match digitValue? x with
  | some d => if d < base then some (n * base + d) else none
  | none => none

/-- The value of digits in a base; no digits are worth nothing. -/
def digitsValue? (base : Nat) (digits : List Char) : Option Nat :=
  digits.foldlM (appendDigit? base) 0

end SchemaLink.Text
