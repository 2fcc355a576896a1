import UxLint.Text.Search

/-!
# What a console is given

A program prints items on two streams: texts and tables, each with a style or without one. In such a
text a word in brackets is a style tag. Escaping puts a backslash before every tag, so that it reads
as the text it was, and doubles the backslashes before it.
-/

set_option autoImplicit false

namespace UxLint

/-- Where something is printed. -/
inductive Stream where
  /-- The stream for results. -/
  | output
  /-- The stream for messages. -/
  | messages
  deriving DecidableEq, Repr

/-- A column of a table. -/
structure Column where
  header : String
  /-- The style of the column; empty if it has none. -/
  style : String
  /-- Whether the cells of the column are kept on one line. -/
  unbroken : Bool
  deriving DecidableEq, Repr

/-- A table. -/
structure Table where
  title : String
  columns : List Column
  rows : List (List String)
  deriving DecidableEq, Repr

/-- What is printed in one piece. -/
inductive Item where
  /-- A text with style tags. -/
  | text (s : String)
  /-- A table, with style tags in its texts. -/
  | table (t : Table)
  deriving DecidableEq, Repr

/-- One act of printing. -/
structure Print where
  stream : Stream
  item : Item
  style : Option String
  deriving DecidableEq, Repr

namespace Markup

/-- Whether a style tag can start with a character. -/
def startsTag (c : Char) : Bool := c.isLower || c == '#' || c == '/' || c == '@'

/-- Whether a closing bracket comes before any opening one. -/
def closes : Text → Bool
  | [] => false
  | c :: t => c == ']' || (c != '[' && closes t)

/-- Whether the text behind an opening bracket makes it a style tag. -/
def opensTag : Text → Bool
  | [] => false
  | c :: t => startsTag c && closes t

/-- Some backslashes. -/
def backslashes (n : Nat) : Text := List.replicate n '\\'

/-- Escapes the tags of a text behind `run` backslashes; `inside` says whether a tag is being read. -/
def escapeFrom (run : Nat) (inside : Bool) : Text → Text
  | [] => backslashes run
  | c :: t =>
    if inside then c :: escapeFrom 0 (c != ']') t
    else if c == '\\' then escapeFrom (run + 1) false t
    else if c == '[' && opensTag t then
      backslashes (2 * run + 1) ++ c :: escapeFrom 0 true t
    else backslashes run ++ c :: escapeFrom 0 false t

/-- Whether a text ends with one backslash and no more. -/
def endsInOneBackslash (t : Text) : Bool :=
  ['\\'].isSuffixOf t && !(['\\', '\\'].isSuffixOf t)

/-- A text whose tags are escaped and whose last backslash, if it stands alone, cannot escape what
follows. -/
def escapeText (t : Text) : Text :=
  let escaped := escapeFrom 0 false t
  if endsInOneBackslash escaped then escaped ++ ['\\'] else escaped

/-- A string that is printed as it is. -/
def escape (s : String) : String := String.ofList (escapeText s.toList)

/-- A text as it reads without styles, behind `run` backslashes; `inside` says whether a tag is being
passed over. -/
def plainFrom (run : Nat) (inside : Bool) : Text → Text
  | [] => backslashes run
  | c :: t =>
    if inside then plainFrom 0 (c != ']') t
    else if c == '\\' then plainFrom (run + 1) false t
    else if c == '[' && opensTag t then
      if run % 2 == 1 then backslashes (run / 2) ++ c :: plainFrom 0 false t
      else backslashes (run / 2) ++ plainFrom 0 true t
    else backslashes run ++ c :: plainFrom 0 false t

/-- A string as it reads without styles. -/
def plain (s : String) : String := String.ofList (plainFrom 0 false s.toList)

end Markup

end UxLint
