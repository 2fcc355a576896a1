import UxLint.Pattern.Basic

/-!
# Searching for patterns

The first match of a pattern in a text is the one with the least offset. All matches are found from
left to right, each search starting where the last match ended.
-/

set_option autoImplicit false

namespace UxLint.Pattern

/-- A piece that a pattern found. -/
structure Match where
  /-- The offset of its first character. -/
  start : Nat
  /-- The place behind it. -/
  stop : Cursor
  text : Text

/-- The piece remembered under a number. -/
def Match.capture? (m : Match) (number : Nat) : Option Capture :=
  m.stop.captures.find? fun c => c.number == number

/-- The text remembered under a number; nothing if there is none. -/
def Match.group (m : Match) (number : Nat) : Text := ((m.capture? number).map (·.text)).getD []

/-- The match behind the cursor. -/
def matchAt? (p : Pattern) (c : Cursor) : Option Match :=
  (p.run { c with captures := [] } some).map fun d =>
    ⟨c.offset, d, c.piece (d.offset - c.offset)⟩

/-- The first match at the cursor or behind it. -/
def searchFrom? (p : Pattern) (c : Cursor) : Option Match :=
  match p.matchAt? c with
  | some m => some m
  | none =>
    match _h : c.next? with
    | none => none
    | some (_, d) => searchFrom? p d
termination_by c.left
decreasing_by exact Cursor.left_next?_lt _h

/-- The first match in a text. -/
def search? (p : Pattern) (t : Text) : Option Match := p.searchFrom? (.start t)

/-- The match at the start of a text. -/
def match? (p : Pattern) (t : Text) : Option Match := p.matchAt? (.start t)

/-- Whether a text holds a piece of the pattern. -/
def occurs (p : Pattern) (t : Text) : Bool := (p.search? t).isSome

/-- The matches at the cursor or behind it, from left to right. -/
def allFrom (p : Pattern) (c : Cursor) : List Match :=
  match p.searchFrom? c with
  | none => []
  | some m =>
    if _h : m.stop.left < c.left then m :: allFrom p m.stop
    else
      match _h : c.next? with
      | none => [m]
      | some (_, d) => m :: allFrom p d
termination_by c.left
decreasing_by
  · exact _h
  · exact Cursor.left_next?_lt _h

/-- The matches in a text, from left to right. -/
def all (p : Pattern) (t : Text) : List Match := p.allFrom (.start t)

/-- The text behind the cursor with the given matches replaced. -/
def replaceMatches (f : Match → Text) (c : Cursor) : List Match → Text
  | [] => c.rest
  | m :: ms => c.piece (m.start - c.offset) ++ f m ++ replaceMatches f m.stop ms

/-- The text with every match replaced. -/
def replace (p : Pattern) (f : Match → Text) (t : Text) : Text :=
  replaceMatches f (.start t) (p.all t)

end UxLint.Pattern
