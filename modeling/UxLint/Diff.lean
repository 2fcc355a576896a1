import UxLint.Fault
import UxLint.Text.Blank
import UxLint.Text.Lines
import UxLint.Text.Search

/-!
# Staged differences

A unified difference of one file is read into the lines that it adds, each with its number in the
new version of the file. A file without a difference, and one whose difference says that it is new,
counts as added as a whole. A difference that starts a hunk at a number too long to be read is refused.
-/

set_option autoImplicit false

namespace UxLint

/-- A line that a difference adds. -/
structure AddedLine where
  /-- The number of the line in the new version of the file, from one. -/
  number : Nat
  /-- The line without its mark. -/
  content : Text
  deriving DecidableEq, Repr

/-- What a difference says about a file. -/
structure Diff where
  text : Text
  /-- Whether the whole file counts as added. -/
  isNew : Bool
  /-- The added lines in their order. -/
  added : List AddedLine

namespace Diff

open Text

/-- The text behind `start`, if it starts so. -/
def behind? (start : String) (t : Text) : Option Text :=
  if start.toList.isPrefixOf t then some (t.drop start.toList.length) else none

/-- The decimal digits at the start of a text and the text behind them, if there are any. -/
def digits? (t : Text) : Option (Text × Text) :=
  match t.takeWhile isDecimal with
  | [] => none
  | digits => some (digits, t.dropWhile isDecimal)

/-- The text behind an optional count of lines. -/
def behindCount? (t : Text) : Option Text :=
  match t with
  | ',' :: u => (digits? u).map (·.2)
  | _ => some t

/-- The digits of the number of the first new line of a hunk, if the line is the header of a hunk. -/
def hunkDigits? (line : Text) : Option Text := do
  let old ← digits? (← behind? "@@ -" line)
  let new ← digits? (← behind? " +" (← behindCount? old.2))
  let _ ← behind? " @@" (← behindCount? new.2)
  return new.1

/-- The number of the first new line of a hunk, if the line is the header of a hunk. -/
def hunkStart? (line : Text) : Option Nat := (hunkDigits? line).bind decimalNumber?

/-- Why the number of a line that is the header of a hunk cannot be read. -/
def hunkError? (line : Text) : Option NumeralError :=
  match (hunkDigits? line).map wholeNumber with
  | some (.error e) => some e
  | _ => none

/-- Whether the lines before the first hunk say that the file is new. -/
def announcesNew : List Text → Bool
  | [] => false
  | line :: rest =>
    if "new file mode".toList.isPrefixOf line || "--- /dev/null".toList.isPrefixOf line then true
    else if ['@', '@'].isPrefixOf line then false
    else announcesNew rest

/-- The lines added by a difference; `next` is the number of the next new line inside a hunk. -/
def addedFrom (next : Option Nat) : List Text → List AddedLine
  | [] => []
  | line :: rest =>
    if "diff --git".toList.isPrefixOf line then addedFrom none rest
    else
      match hunkStart? line with
      | some start => addedFrom (some start) rest
      | none =>
        match next with
        | none => addedFrom none rest
        | some n =>
          match line with
          | '+' :: content => ⟨n, content⟩ :: addedFrom (some (n + 1)) rest
          | '-' :: _ => addedFrom (some n) rest
          | '\\' :: _ => addedFrom (some n) rest
          | _ => addedFrom (some (n + 1)) rest

/-- What the lines of a difference say, however long the numbers in them are. -/
def ofText (t : Text) : Diff where
  text := t
  isNew := t.all isBlank || announcesNew (lines t)
  added := addedFrom none (lines t)

/-- Reads the difference of one file. -/
def read (t : Text) : Except Fault Diff :=
  match (lines t).findSome? hunkError? with
  | some e => .error (.numeral e)
  | none => .ok (ofText t)

/-- The added lines with line feeds between them. -/
def addedText (d : Diff) : Text := join ['\n'] (d.added.map (·.content))

/-- Whether the added text holds one of the tokens. -/
def mentionsAny (d : Diff) (tokens : List String) : Bool :=
  tokens.any fun token => holds token.toList d.addedText

/-- Whether the file is new or a line from `first` to `last` was added. -/
def touches (d : Diff) (first last : Int) : Bool :=
  d.isNew || d.added.any fun line => first ≤ line.number && line.number ≤ last

end Diff

end UxLint
