import UxLint.Text.Ranges
import UxLint.Text.WordTable

/-!
# Word characters

A word character is a letter, a number or an underscore; a whole identifier may also hold a dollar
sign.
-/

set_option autoImplicit false

namespace UxLint.Text

/-- Whether a character is a letter, a number or an underscore. -/
def isWord (c : Char) : Bool :=
  c.isAlphanum || c == '_' || (!isBasic c && inRanges alphanumericRanges c.toNat)

/-- Whether a character can stand inside an identifier. -/
def isIdentifier (c : Char) : Bool := isWord c || c == '$'

end UxLint.Text
