import SchemaLink.Decimal.Double
import SchemaLink.Text.Cut

/-!
# The shortest decimal of a double

A double is written with the fewest digits that read back to it. The reals that round to the double
form an interval whose ends belong to it exactly when the mantissa is even. For one digit, two
digits and so on, the two neighbours of the value on that decimal grid are tried; the first grid
that meets the interval decides, and of two hits the nearer one.
-/

namespace SchemaLink.Double

/-- The interval of reals that round to a positive double, and the double itself, all three as
numerators over one common denominator. -/
structure Span where
  low : Nat
  value : Nat
  high : Nat
  denominator : Nat
  closed : Bool

/-- The rounding interval of a positive double. Below a power of two the gap is half as wide. -/
def span (mantissa : Nat) (exponent : Int) : Span :=
  let narrow := mantissa = fullMantissa ∧ -1074 < exponent
  let terms := scaled 2 1 1 (exponent - 2)
  { low := (4 * mantissa - if narrow then 1 else 2) * terms.1
    value := 4 * mantissa * terms.1
    high := (4 * mantissa + 2) * terms.1
    denominator := terms.2
    closed := mantissa % 2 = 0 }

/-- Whether `digits * 10 ^ grid` lies in the interval. -/
def Span.contains (s : Span) (digits : Nat) (grid : Int) : Bool :=
  let terms := scaled 10 digits 1 grid
  let point := terms.1 * s.denominator
  let low := s.low * terms.2
  let high := s.high * terms.2
  if s.closed then low ≤ point && point ≤ high else low < point && point < high

/-- Whether the value is below `10 ^ k`. -/
def Span.below (s : Span) (k : Int) : Bool :=
  let terms := scaled 10 1 1 k
  s.value * terms.2 < terms.1 * s.denominator

/-- The least exponent of a power of ten above the value, found near an estimate. -/
def Span.scale (s : Span) (estimate : Int) : Int :=
  ([-2, -1, 0, 1, 2].map (estimate + ·)).find? s.below |>.getD (estimate + 3)

/-- The digits on one decimal grid that read back to the double, if any do. -/
def Span.onGrid? (s : Span) (grid : Int) : Option Nat :=
  let terms := scaled 10 1 1 grid
  let num := s.value * terms.2
  let den := s.denominator * terms.1
  let floor := num / den
  let twice := 2 * (num % den)
  let nearer :=
    if twice < den then floor
    else if den < twice then floor + 1
    else if floor % 2 = 0 then floor else floor + 1
  let farther := if nearer = floor then floor + 1 else floor
  [nearer, farther].find? (s.contains · grid)

/-- Trailing zeros move from the digits into the exponent. -/
def stripZeros : Nat → Nat → Int → Nat × Int
  | 0, digits, exponent => (digits, exponent)
  | fuel + 1, digits, exponent =>
    if digits ≠ 0 ∧ digits % 10 = 0 then stripZeros fuel (digits / 10) (exponent + 1)
    else (digits, exponent)

/-- The fewest digits, and their power of ten, that read back to a positive double. Seventeen
digits always suffice; the exact value stands behind them. -/
def shortest (mantissa : Nat) (exponent : Int) : Nat × Int :=
  let s := span mantissa exponent
  let bits : Int := Nat.log2 mantissa + exponent
  let k := s.scale (bits * 30103 / 100000 + 1)
  let grids := (List.range 17).map fun (n : Nat) => k - (n + 1)
  match grids.findSome? fun grid => (s.onGrid? grid).map (·, grid) with
  | some (digits, grid) => stripZeros 17 digits grid
  | none =>
    let terms := scaled 2 mantissa 1 exponent
    if terms.2 = 1 then (terms.1, 0) else (mantissa * Nat.pow 5 (-exponent).toNat, exponent)

/-- How a number is laid out as text. -/
structure Layout where
  /-- The least power of ten of the leading digit that is still written positionally. -/
  least : Int
  /-- The greatest power of ten of the leading digit that is still written positionally. -/
  greatest : Int
  /-- The fewest digits of a written exponent. -/
  exponentWidth : Nat
  infinity : String
  undefined : String

/-- Numbers are written positionally between `0.0001` and `10 ^ 16` and always with a point, and
otherwise with a signed exponent of at least two digits. -/
def plain : Layout := ⟨-4, 15, 2, "inf", "nan"⟩

/-- The text of nonzero digits with a power of ten. -/
def arrange (format : Layout) (digits : Nat) (exponent : Int) : String :=
  let written := Nat.toDigits 10 digits
  let leading : Int := written.length - 1 + exponent
  if leading < format.least ∨ format.greatest < leading then
    let fraction := match written.drop 1 with
      | [] => []
      | rest => '.' :: rest
    let sign := if leading < 0 then '-' else '+'
    String.ofList (written.take 1 ++ fraction ++ ['e', sign])
      ++ Text.padded format.exponentWidth leading.natAbs
  else if leading < 0 then
    "0." ++ String.ofList (List.replicate (-leading - 1).toNat '0' ++ written)
  else
    let before := leading.toNat + 1
    let whole := written.take before ++ List.replicate (before - written.length) '0'
    let fraction := match written.drop before with
      | [] => ['0']
      | rest => rest
    String.ofList (whole ++ '.' :: fraction)

/-- The text of a number. -/
def render (format : Layout) : Double → String
  | .undefined _ => format.undefined
  | .infinite negative => (if negative then "-" else "") ++ format.infinity
  | .finite negative mantissa exponent =>
    let sign := if negative then "-" else ""
    if mantissa = 0 then sign ++ "0.0"
    else
      let (digits, power) := shortest mantissa exponent
      sign ++ arrange format digits power

end SchemaLink.Double
