import SchemaLink.Datum
import SchemaLink.Text.Digits

/-!
# Scalars

A plain scalar is a truth value, null, a number, a date or a moment if it is spelled like one, and a
text otherwise. Underscores in numbers are passed over, a number may be written in base two, eight
or sixteen, and parts between colons count sixty of the part behind them. A tag may demand one of
these readings.
-/

namespace SchemaLink.Yaml

/-- Why a scalar has no value. -/
inductive ScalarError where
  /-- The scalar does not fit its tag, or its tag is not known. -/
  | malformed
  | calendar (e : CalendarError)
  /-- The mark of a base is not followed by any digit. -/
  | noDigits (base : Nat)
  deriving DecidableEq, Repr, Inhabited

/-- The value of a scalar that is spelled in a certain way. -/
abbrev ScalarReading := Except ScalarError Datum

/-! Fixed spellings. -/

/-- A word in lower case, with a capital, and in capitals. -/
def cases (word : String) : List String := [word, word.capitalize, word.map Char.toUpper]

/-- The spellings of true. -/
def trueWords : List String := ["yes", "true", "on"].flatMap cases

/-- The spellings of false. -/
def falseWords : List String := ["no", "false", "off"].flatMap cases

/-- The truth value that a text spells. -/
def boolean? (text : List Char) : Option Bool :=
  let word := String.ofList text
  if trueWords.contains word then some true
  else if falseWords.contains word then some false
  else none

/-- Whether a text spells null. -/
def isNull (text : List Char) : Bool :=
  ("" :: "~" :: cases "null").contains (String.ofList text)

/-! Numbers. -/

/-- A sign, and what stands behind it. -/
def splitSign : List Char → Bool × List Char
  | '-' :: rest => (true, rest)
  | '+' :: rest => (false, rest)
  | rest => (false, rest)

/-- The value of digits with underscores between them. -/
def spacedDigits? (base : Nat) (text : List Char) : Option Nat :=
  Text.digitsValue? base (text.filter (· ≠ '_'))

/-- A number without sign in a base whose mark stands before it. -/
def based? (base : Nat) (text : List Char) : Option (Except ScalarError Nat) :=
  if text.isEmpty then none
  else
    (spacedDigits? base text).map fun n =>
      if text.all (· = '_') then .error (.noDigits base) else .ok n

/-- A number below sixty, of one or two digits. -/
def sixtieth? (text : List Char) : Option Nat :=
  if text.isEmpty || 2 < text.length then none
  else (Text.digitsValue? 10 text).filter fun n => n < 60

/-- A number whose parts between colons count sixty each. The first part has no limit. -/
def sexagesimal? (text : List Char) : Option Nat :=
  match Text.pieces ':' text with
  | first :: rest =>
    if first.head?.any Char.isDigit then do
      let n ← spacedDigits? 10 first
      let parts ← rest.mapM sixtieth?
      return parts.foldl (fun n part => n * 60 + part) n
    else none
  | [] => none

/-- A whole number without sign. -/
def natural? : List Char → Option (Except ScalarError Nat)
  | ['0'] => some (.ok 0)
  | '0' :: 'b' :: rest => based? 2 rest
  | '0' :: 'x' :: rest => based? 16 rest
  | '0' :: rest => (spacedDigits? 8 rest).map .ok
  | text => (sexagesimal? text).map .ok

/-- A whole number. -/
def integer? (text : List Char) : Option (Except ScalarError Int) :=
  let (negative, digits) := splitSign text
  (natural? digits).map fun n => n.map fun n => if negative then -(n : Int) else n

/-- The exponent behind a decimal, whose sign has to be written. -/
def exponent? : List Char → Option Int
  | [] => some 0
  | _ :: sign :: digits =>
    if digits.isEmpty || !(sign = '+' || sign = '-') then none
    else (Text.digitsValue? 10 digits).map fun n => if sign = '-' then -(n : Int) else n
  | _ => none

/-- The value of a decimal from the texts before and behind its point. -/
def pointed? (negative signed : Bool) (whole rest : List Char) : Option Double := do
  let fraction := rest.takeWhile fun x => x ≠ 'e' && x ≠ 'E'
  let exponent := rest.drop fraction.length
  if whole.isEmpty && (signed || !fraction.head?.any Char.isDigit) then none
  if whole.contains ':' && !exponent.isEmpty then none
  let n ← if whole.isEmpty then some 0 else sexagesimal? whole
  let digits := fraction.filter (· ≠ '_')
  let f ← Text.digitsValue? 10 digits
  let e ← exponent? exponent
  return .ofDecimal negative (n * Nat.pow 10 digits.length + f) (e - digits.length)

/-- A number in double precision. -/
def real? (text : List Char) : Option Double :=
  let (negative, body) := splitSign text
  let word := String.ofList body
  if [".inf", ".Inf", ".INF"].contains word then some (.infinite negative)
  else if [".nan", ".NaN", ".NAN"].contains (String.ofList text) then some (.undefined 0)
  else
    match Text.cutFirst '.' body with
    | none => none
    | some (whole, rest) => pointed? negative (body.length < text.length) whole rest

/-! Dates and moments. -/

/-- A number of `least` to `most` digits, and what stands behind it. -/
def digitRun (least most : Nat) (text : List Char) : Option (Nat × List Char) :=
  let run := (text.take most).takeWhile Char.isDigit
  if run.length < least then none
  else (Text.digitsValue? 10 run).map fun n => (n, text.drop run.length)

/-- What stands behind a character. -/
def behind (x : Char) : List Char → Option (List Char)
  | y :: rest => if x = y then some rest else none
  | [] => none

/-- A year, a month and a day, and what stands behind them. -/
def dateParts (text : List Char) : Option ((Nat × Nat × Nat) × List Char) := do
  let (year, text) ← digitRun 4 4 text
  let (month, text) ← digitRun 1 2 (← behind '-' text)
  let (day, text) ← digitRun 1 2 (← behind '-' text)
  return ((year, month, day), text)

/-- The separator of a date and a time of day is passed over. -/
def behindSeparator : List Char → Option (List Char)
  | x :: rest =>
    if x = 'T' ∨ x = 't' then some rest
    else if x = ' ' ∨ x = '\t' then some (rest.dropWhile fun y => y = ' ' || y = '\t')
    else none
  | [] => none

/-- A fraction of a second in microseconds, and what stands behind it. -/
def microseconds (text : List Char) : Option (Nat × List Char) :=
  match text with
  | '.' :: rest =>
    let digits := rest.takeWhile Char.isDigit
    let six := (digits ++ List.replicate 6 '0').take 6
    (Text.digitsValue? 10 six).map fun n => (n, rest.drop digits.length)
  | _ => some (0, text)

/-- A distance from universal time in minutes, which is the rest of a moment. -/
def zone? (text : List Char) : Option (Option Int) :=
  match text, text.dropWhile fun y => y = ' ' || y = '\t' with
  | [], _ => some none
  | _, ['Z'] => some (some 0)
  | _, sign :: rest => do
    if sign ≠ '+' ∧ sign ≠ '-' then none
    let (hours, rest) ← digitRun 1 2 rest
    let minutes ← match rest with
      | [] => some 0
      | ':' :: rest => do
        let (minutes, rest) ← digitRun 2 2 rest
        if rest.isEmpty then some minutes else none
      | _ => none
    let n : Int := hours * 60 + minutes
    return some (if sign = '-' then -n else n)
  | _, _ => none

/-- A time of day with its distance from universal time. -/
def timeParts (text : List Char) : Option ((Nat × Nat × Nat × Nat) × Option Int) := do
  let (hour, text) ← digitRun 1 2 (← behindSeparator text)
  let (minute, text) ← digitRun 2 2 (← behind ':' text)
  let (second, text) ← digitRun 2 2 (← behind ':' text)
  let (microsecond, text) ← microseconds text
  return ((hour, minute, second, microsecond), ← zone? text)

/-- The moment of a date and a time of day. -/
def moment (date : Nat × Nat × Nat) (time : Nat × Nat × Nat × Nat) (offset : Option Int) :
    Except CalendarError Moment := do
  let offset ← offset.mapM Moment.offset?
  let d ← Date.make date.1 date.2.1 date.2.2
  Moment.make d time.1 time.2.1 time.2.2.1 time.2.2.2 offset

/-- A date or a moment. -/
def timestamp? (text : List Char) : Option (Except CalendarError Datum) := do
  let (date, rest) ← dateParts text
  if rest.isEmpty then return (Date.make date.1 date.2.1 date.2.2).map .date
  let (time, offset) ← timeParts rest
  return (moment date time offset).map .moment

/-- A date or a moment as a plain scalar: a date alone has two digits for the month and the day. -/
def plainTimestamp? (text : List Char) : Option (Except CalendarError Datum) :=
  if text.length < 10 then none else timestamp? text

/-! Scalars by their spelling and by their tag. -/

/-- The value of a plain scalar. The marks of merged mappings and of default values are no values
themselves. -/
def plainValue (text : List Char) : ScalarReading :=
  if isNull text then .ok .null
  else
    match boolean? text, integer? text, real? text, plainTimestamp? text with
    | some b, _, _, _ => .ok (.bool b)
    | _, some n, _, _ => n.map .int
    | _, _, some x, _ => .ok (.float x)
    | _, _, _, some t => t.mapError .calendar
    | _, _, _, _ =>
      if text = ['<', '<'] ∨ text = ['='] then .error .malformed
      else .ok (.text (String.ofList text))

/-- The value of a scalar that a tag demands to be of a type. -/
def taggedValue (type : String) (text : List Char) : ScalarReading :=
  match type with
  | "str" => .ok (.text (String.ofList text))
  | "null" => .ok .null
  | "bool" =>
    match boolean? (text.map Char.toLower) with
    | some b => .ok (.bool b)
    | none => .error .malformed
  | "int" =>
    match integer? text with
    | some n => n.map .int
    | none => .error .malformed
  | "float" =>
    match real? text, real? (text ++ ['.']) with
    | some x, _ => .ok (.float x)
    | none, some x => .ok (.float x)
    | none, none => .error .malformed
  | "timestamp" =>
    match timestamp? text with
    | some t => t.mapError .calendar
    | none => .error .malformed
  | _ => .error .malformed

end SchemaLink.Yaml
