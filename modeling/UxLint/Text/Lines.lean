import UxLint.Text.Ranges

/-!
# Lines

A line ends at a line feed, a carriage return, the pair of both, a vertical tab, a form feed, one of
three separators of the first 128 code points, the next-line control or one of the two Unicode
separators. The last line may lack an end; an end at the end of the text starts no further line.
-/

set_option autoImplicit false

namespace UxLint.Text

/-- Whether a character ends a line. -/
def isLineEnd (c : Char) : Bool :=
  inRanges [(0x0A, 0x0D), (0x1C, 0x1E), (0x85, 0x85), (0x2028, 0x2029)] c.toNat

/-- The text with each pair of a carriage return and a line feed made one line feed. -/
def joinReturns : Text → Text
  | '\r' :: '\n' :: t => '\n' :: joinReturns t
  | c :: t => c :: joinReturns t
  | [] => []

/-- The pieces of a text that end at a character of `isLineEnd`, and the piece left over. -/
def linesFrom (current : Text) : Text → List Text
  | [] => if current.isEmpty then [] else [current.reverse]
  | c :: t =>
    if isLineEnd c then current.reverse :: linesFrom [] t else linesFrom (c :: current) t

/-- The lines of a text, without their ends. -/
def lines (t : Text) : List Text := linesFrom [] (joinReturns t)

/-- The text with every carriage return, alone or before a line feed, made a line feed. -/
def unifyLineFeeds : Text → Text
  | '\r' :: '\n' :: t => '\n' :: unifyLineFeeds t
  | '\r' :: t => '\n' :: unifyLineFeeds t
  | c :: t => c :: unifyLineFeeds t
  | [] => []

end UxLint.Text
