import UxLint.Text.Digit
import UxLint.Text.Search
import UxLint.Text.VisibleTable

/-!
# Quoted texts

A text inside a message is quoted so that its ends and its invisible characters can be seen. The
quotes are single ones, or double ones where the text holds a single quote and no double one.
-/

set_option autoImplicit false

namespace UxLint.Text

/-- Whether a character can be shown as it is. -/
def isVisible (c : Char) : Bool :=
  if isBasic c then 0x20 ≤ c.toNat && c.toNat ≤ 0x7E else inRanges visibleRanges c.toNat

/-- The quote for a text. -/
def quoteFor (t : Text) : Char := if t.contains '\x27' && !t.contains '\x22' then '\x22' else '\x27'

/-- A character as the number of its code point, in two, four or eight digits. -/
def numbered (c : Char) : Text :=
  if c.toNat ≤ 0xFF then '\\' :: 'x' :: hexDigits 2 c.toNat
  else if c.toNat ≤ 0xFFFF then '\\' :: 'u' :: hexDigits 4 c.toNat
  else '\\' :: 'U' :: hexDigits 8 c.toNat

/-- A character between two quotes. -/
def quotedChar (quote c : Char) : Text :=
  if c == quote || c == '\\' then ['\\', c]
  else if c == '\t' then ['\\', 't']
  else if c == '\n' then ['\\', 'n']
  else if c == '\r' then ['\\', 'r']
  else if isVisible c then [c]
  else numbered c

/-- A text in quotes. -/
def quoted (t : Text) : Text :=
  let quote := quoteFor t
  quote :: t.flatMap (quotedChar quote) ++ [quote]

end UxLint.Text

namespace UxLint

/-- A string in quotes. -/
def quoted (s : String) : String := String.ofList (Text.quoted s.toList)

/-- Strings in quotes, as a list in brackets. -/
def quotedList (ss : List String) : String := "[" ++ joinStrings ", " (ss.map quoted) ++ "]"

end UxLint
