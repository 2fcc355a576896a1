import UxLint.Text.Digit

/-!
# Decimal numbers

A decimal number is written with digits, a point, an exponent and single underscores between digits.
It is kept as a whole number times a power of ten.
-/

set_option autoImplicit false

namespace UxLint

/-- The number `mantissa` times the power of ten of `exponent`. -/
structure DecimalNumber where
  /-- The digits as one whole number. -/
  mantissa : Nat
  exponent : Int
  deriving DecidableEq, Repr

namespace DecimalNumber

open Text

/-- The text without its underscores; `none` if one does not stand between two digits. -/
def joinDigits (before : Option Char) : Text → Option Text
  | [] => some []
  | '_' :: t =>
    if before.any isDecimal && t.head?.any isDecimal then joinDigits (some '_') t else none
  | c :: t => (joinDigits (some c) t).map (c :: ·)

/-- The exponent written behind the digits; zero if there is none. -/
def readExponent? (t : Text) : Option Int :=
  match t with
  | [] => some 0
  | e :: t =>
    if e != 'e' && e != 'E' then none
    else
      match t with
      | '-' :: t => (decimalNumber? t).map fun n => -(n : Int)
      | '+' :: t => (decimalNumber? t).map fun n => (n : Int)
      | t => (decimalNumber? t).map fun n => (n : Int)

/-- Reads a decimal number. -/
def read? (written : Text) : Option DecimalNumber := do
  let t ← joinDigits none written
  let whole := t.takeWhile isDecimal
  let rest := t.dropWhile isDecimal
  let hasPoint := rest.head? == some '.'
  let behind := if hasPoint then rest.drop 1 else rest
  let fraction := if hasPoint then behind.takeWhile isDecimal else []
  let mantissa ← decimalNumber? (whole ++ fraction)
  let exponent ← readExponent? (behind.drop fraction.length)
  return ⟨mantissa, exponent - fraction.length⟩

/-- The number of digits that a whole number needs. -/
def width (n : Nat) : Nat := (Nat.toDigits 10 n).length

/-- Whether the number, rounded to the nearest number with 53 binary digits, is at least `limit`,
for a limit from 257 to 511. -/
def roundsToAtLeast (d : DecimalNumber) (limit : Nat) : Bool :=
  let size := d.exponent + width d.mantissa
  if d.mantissa == 0 then false
  else if size > 3 then true
  else if size < 3 then false
  else d.mantissa * Nat.pow 10 (3 - width d.mantissa) * Nat.pow 2 45 ≥
    (limit * Nat.pow 2 45 - 1) * Nat.pow 10 (width d.mantissa - 3)

/-- A whole number times a power of ten, with all tens of the number moved into the power. -/
def withoutTens (n : Nat) (exponent : Int) : DecimalNumber :=
  if n == 0 then ⟨0, 0⟩
  else if n % 10 == 0 then withoutTens (n / 10) (exponent + 1)
  else ⟨n, exponent⟩
termination_by n
decreasing_by
  have h : n ≠ 0 := by simp_all
  omega

/-- The same number, written the one way that it has without tens in its whole number. -/
def reduced (d : DecimalNumber) : DecimalNumber := withoutTens d.mantissa d.exponent

end DecimalNumber

end UxLint
