/-!
# Numbers in double precision

A finite double is a natural mantissa below `2 ^ 53` scaled by a power of two, with a sign of its
own, so that zero has two signs. A decimal is read by rounding its exact value to the nearest
double, and to the even mantissa when two are equally near.
-/

namespace SchemaLink

/-- A number in double precision. Every undefined result is an object of its own, told apart by a
token, because it is equal to nothing but itself. -/
inductive Double where
  | finite (negative : Bool) (mantissa : Nat) (exponent : Int)
  | infinite (negative : Bool)
  | undefined (token : Nat)
  deriving DecidableEq, Repr, Inhabited

namespace Double

/-- The zero with the given sign. -/
def zero (negative : Bool) : Double := .finite negative 0 (-1074)

/-- A quotient rounded to the nearest natural number, and to the even one from half-way. -/
def roundQuotient (num den : Nat) : Nat :=
  let floor := num / den
  let twice := 2 * (num % den)
  if twice < den then floor
  else if den < twice then floor + 1
  else if floor % 2 = 0 then floor else floor + 1

/-- The least mantissa of full width, which is `2 ^ 52`. -/
def fullMantissa : Nat := 0x10000000000000

/-- The two terms of the fraction `num / den * base ^ exponent`. -/
def scaled (base num den : Nat) (exponent : Int) : Nat × Nat :=
  if 0 ≤ exponent then (num * Nat.pow base exponent.toNat, den)
  else (num, den * Nat.pow base (-exponent).toNat)

/-- The double nearest to the positive fraction `num / den`, with a sign. -/
def ofFraction (negative : Bool) (num den : Nat) : Double :=
  let estimate : Int := (Nat.log2 num : Int) - Nat.log2 den - 52
  let terms := scaled 2 num den (-estimate)
  let exponent := if terms.1 < fullMantissa * terms.2 then estimate - 1 else estimate
  let exponent := max exponent (-1074)
  let terms := scaled 2 num den (-exponent)
  let mantissa := roundQuotient terms.1 terms.2
  let (mantissa, exponent) :=
    if mantissa = 2 * fullMantissa then (fullMantissa, exponent + 1) else (mantissa, exponent)
  if 971 < exponent then .infinite negative else .finite negative mantissa exponent

/-- The double nearest to `digits * 10 ^ exponent`, with a sign. -/
def ofDecimal (negative : Bool) (digits : Nat) (exponent : Int) : Double :=
  let magnitude : Int := (Nat.toDigits 10 digits).length + exponent
  if digits = 0 || magnitude < -400 then zero negative
  else if 400 < magnitude then .infinite negative
  else
    let terms := scaled 10 digits 1 exponent
    ofFraction negative terms.1 terms.2

/-- The exact value of a finite double. -/
def toRat? : Double → Option Rat
  | .finite negative mantissa exponent =>
    let terms := scaled 2 mantissa 1 exponent
    some (mkRat (if negative then -terms.1 else terms.1) terms.2)
  | _ => none

/-- Whether the number is a zero of either sign. -/
def isZero : Double → Bool
  | .finite _ mantissa _ => mantissa = 0
  | _ => false

end Double

end SchemaLink
