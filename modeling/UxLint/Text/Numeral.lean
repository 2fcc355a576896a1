import UxLint.Text.Digit
import UxLint.Text.Quoted

/-!
# Numerals

A numeral is a text of decimal digits, of any script, that writes a whole number. Numerals beyond a
fixed length are refused: how long one is counts all its digits, zeros at its start too.
-/

set_option autoImplicit false

namespace UxLint

/-- Why a text is not read as a whole number. -/
inductive NumeralError where
  /-- The text starts with more digits than a numeral may have. -/
  | tooLong (digits : Nat)
  /-- The text is no numeral. -/
  | notWhole (text : String)
  deriving DecidableEq, Repr

namespace Text

/-- How many digits a numeral may have. -/
def longestNumeral : Nat := 4300

/-- The number that a numeral writes. A text that starts with too many digits is refused as too long,
whatever follows them. -/
def wholeNumber (t : Text) : Except NumeralError Nat :=
  let digits := (t.takeWhile isDecimal).length
  if longestNumeral < digits then .error (.tooLong digits)
  else
    match decimalNumber? t with
    | some n => .ok n
    | none => .error (.notWhole (String.ofList t))

end Text

/-- How much of a quoted text a message shows. -/
def NumeralError.shownLength : Nat := 200

/-- What an error says. -/
def NumeralError.message : NumeralError → String
  | tooLong digits =>
    "Exceeds the limit (" ++ toString Text.longestNumeral ++
      " digits) for integer string conversion: value has " ++ toString digits ++
      " digits; use sys.set_int_max_str_digits() to increase the limit"
  | notWhole text =>
    "invalid literal for int() with base 10: " ++
      String.ofList ((Text.quoted text.toList).take shownLength)

end UxLint
