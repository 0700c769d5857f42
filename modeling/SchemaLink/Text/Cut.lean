/-!
# Cutting text

Text is cut at the first or the last occurrence of a character, or loses every occurrence of a
fragment. All three work on lists of characters, so that what they keep and what they drop can be
said with list membership.
-/

namespace SchemaLink.Text

/-- The characters before and after the first occurrence of `c`. -/
def cutFirst (c : Char) : List Char → Option (List Char × List Char)
  | [] => none
  | x :: xs =>
    if x = c then some ([], xs)
    else (cutFirst c xs).map fun parts => (x :: parts.1, parts.2)

/-- The characters before and after the last occurrence of `c`. -/
def cutLast (c : Char) : List Char → Option (List Char × List Char)
  | [] => none
  | x :: xs =>
    match cutLast c xs with
    | some parts => some (x :: parts.1, parts.2)
    | none => if x = c then some ([], xs) else none

/-- The pieces before, between and after the occurrences of `c`. -/
def pieces (c : Char) : List Char → List (List Char)
  | [] => [[]]
  | x :: xs =>
    if x = c then [] :: pieces c xs
    else
      match pieces c xs with
      | [] => [[x]]
      | piece :: rest => (x :: piece) :: rest

/-- Text loses every occurrence of a fragment, from left to right and without overlaps; the number
counts the characters of the current occurrence that are still to be dropped. -/
def dropEvery (fragment : List Char) : Nat → List Char → List Char
  | _, [] => []
  | skip + 1, _ :: xs => dropEvery fragment skip xs
  | 0, x :: xs =>
    if fragment.isPrefixOf (x :: xs) then dropEvery fragment (fragment.length - 1) xs
    else x :: dropEvery fragment 0 xs

/-- A text without any occurrence of a fragment. -/
def without (fragment text : String) : String :=
  String.ofList (dropEvery fragment.toList 0 text.toList)

/-- The number of lower-case hexadecimal digits asked for, with leading zeros. -/
def hexDigits (width : Nat) (n : Nat) : List Char :=
  let digits := Nat.toDigits 16 n
  List.replicate (width - digits.length) '0' ++ digits

/-- A decimal number padded with zeros on the left. -/
def padded (width : Nat) (n : Nat) : String :=
  let digits := Nat.toDigits 10 n
  String.ofList (List.replicate (width - digits.length) '0' ++ digits)

/-- The pieces in order, with a comma and a blank between neighbours. -/
def commaList (pieces : List String) : String := ", ".intercalate pieces

theorem cutFirst_eq_none_iff {c : Char} {xs : List Char} : cutFirst c xs = none ↔ c ∉ xs := by
  induction xs with
  | nil => simp [cutFirst]
  | cons x xs ih =>
    by_cases h : x = c
    · simp [cutFirst, h]
    · simp [cutFirst, h, ih, Ne.symm h]

theorem cutLast_eq_none_iff {c : Char} {xs : List Char} : cutLast c xs = none ↔ c ∉ xs := by
  induction xs with
  | nil => simp [cutLast]
  | cons x xs ih =>
    cases hc : cutLast c xs with
    | some parts =>
      have : c ∈ xs := by
        refine Classical.byContradiction fun hn => ?_
        simp [ih.mpr hn] at hc
      simp [cutLast, hc, this]
    | none =>
      have hn := ih.mp hc
      by_cases h : x = c
      · simp [cutLast, hc, h]
      · simp [cutLast, hc, h, hn, Ne.symm h]

/-- The first occurrence is found where only other characters stand before it. -/
theorem cutFirst_append {c : Char} {xs : List Char} (ys : List Char) (h : c ∉ xs) :
    cutFirst c (xs ++ c :: ys) = some (xs, ys) := by
  induction xs with
  | nil => simp [cutFirst]
  | cons x xs ih =>
    simp only [List.mem_cons, not_or] at h
    simp [cutFirst, Ne.symm h.1, ih h.2]

/-- The last occurrence is found where only other characters stand behind it. -/
theorem cutLast_append {c : Char} (xs : List Char) {ys : List Char} (h : c ∉ ys) :
    cutLast c (xs ++ c :: ys) = some (xs, ys) := by
  induction xs with
  | nil => simp [cutLast, cutLast_eq_none_iff.mpr h]
  | cons x xs ih => simp [cutLast, ih]

end SchemaLink.Text
