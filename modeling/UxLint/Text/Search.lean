import UxLint.Text.Blank
import UxLint.Text.Case

/-!
# Pieces of a text

Looking for a piece in a text, cutting a text at a character and dropping characters. The functions
on `String` are those on the list of its code points.
-/

set_option autoImplicit false

namespace UxLint.Text

/-- Whether `piece` occurs in a text. -/
def holds (piece : Text) : Text → Bool
  | [] => piece.isEmpty
  | c :: t => piece.isPrefixOf (c :: t) || holds piece t

/-- The text before the first occurrence of `piece` and the text after it. -/
def cutAt? (piece : Text) : Text → Option (Text × Text)
  | [] => if piece.isEmpty then some ([], []) else none
  | c :: t =>
    if piece.isPrefixOf (c :: t) then some ([], (c :: t).drop piece.length)
    else (cutAt? piece t).map fun r => (c :: r.1, r.2)

/-- The text before the last occurrence of `piece`. -/
def beforeLast? (piece : Text) : Text → Option Text
  | [] => if piece.isEmpty then some [] else none
  | c :: t =>
    match beforeLast? piece t with
    | some r => some (c :: r)
    | none => if piece.isPrefixOf (c :: t) then some [] else none

/-- The pieces between the occurrences of a separator. -/
def pieces (sep : Char) : Text → List Text
  | [] => [[]]
  | c :: t =>
    if c == sep then [] :: pieces sep t
    else
      match pieces sep t with
      | [] => [[c]]
      | p :: ps => (c :: p) :: ps

/-- What stands before the first separator; the whole text if there is none. -/
def firstPiece (sep : Char) (t : Text) : Text := t.takeWhile (· != sep)

/-- What stands after the last separator; the whole text if there is none. -/
def lastPiece (sep : Char) (t : Text) : Text := ((pieces sep t).getLast?).getD []

/-- The text without a character. -/
def without (c : Char) (t : Text) : Text := t.filter (· != c)

/-- The number of line feeds. -/
def lineFeeds (t : Text) : Nat := t.count '\n'

end UxLint.Text

namespace UxLint

/-- The lower case of a string. -/
def lowercase (s : String) : String := String.ofList (Text.lower s.toList)

/-- The upper case of a string. -/
def uppercase (s : String) : String := String.ofList (Text.upper s.toList)

/-- Whether `piece` occurs in `s`. -/
def occursIn (piece s : String) : Bool := Text.holds piece.toList s.toList

/-- Whether `s` starts with `start`. -/
def startsWith (s start : String) : Bool := start.toList.isPrefixOf s.toList

/-- Whether `s` ends with `finish`. -/
def endsWith (s finish : String) : Bool := finish.toList.isSuffixOf s.toList

/-- Strings with `sep` between neighbours. -/
def joinStrings (sep : String) (ss : List String) : String :=
  String.ofList (Text.join sep.toList (ss.map String.toList))

/-- What stands after the last dot of a dotted name. -/
def lastSegment (name : String) : String := String.ofList (Text.lastPiece '.' name.toList)

/-- A name without its hyphens, in lower case. -/
def compactName (name : String) : String :=
  String.ofList (Text.lower (Text.without '-' name.toList))

/-- The lower case of a name without its hyphens. -/
def plainName (name : String) : String :=
  String.ofList (Text.without '-' (Text.lower name.toList))

end UxLint
