import UxLint.Text.Word
import UxLint.Text.Blank
import UxLint.Text.Digit

/-!
# Patterns

A pattern describes pieces of a text. A piece is read from a cursor; a choice tries its left side
first, a greedy repetition tries to go on first and a reluctant one tries to stop first, and the
first reading that the rest of the search accepts wins. Tests look at the character before the
cursor and at the text behind it without reading any.
-/

set_option autoImplicit false

namespace UxLint

/-- A description of pieces of a text. -/
inductive Pattern where
  | nothing
  | one (p : Char → Bool)
  /-- The empty piece where the test on the character before and the text behind holds. -/
  | look (test : Option Char → Text → Bool)
  /-- A piece of `a` and then one of `b`. -/
  | both (a b : Pattern)
  /-- A piece of `a`, else one of `b`. -/
  | either (a b : Pattern)
  /-- Any number of pieces of `a`, as many as possible or as few as possible. -/
  | many (greedy : Bool) (a : Pattern)
  /-- A piece of `a` that is remembered under a number. -/
  | capture (number : Nat) (a : Pattern)

namespace Pattern

/-- A remembered piece. -/
structure Capture where
  /-- The number under which it is remembered. -/
  number : Nat
  /-- The offset of its first character. -/
  start : Nat
  length : Nat
  /-- The text that starts with it. -/
  source : Text

/-- The remembered piece itself. -/
def Capture.text (c : Capture) : Text := c.source.take c.length

/-- A place in a text. -/
structure Cursor where
  /-- The character before the place. -/
  before : Option Char
  /-- The number of characters before the place. -/
  offset : Nat
  rest : Text
  /-- The number of characters behind the place. -/
  left : Nat
  /-- The pieces remembered so far, the last one first. -/
  captures : List Capture
  left_eq : left = rest.length

/-- The place before the first character. -/
def Cursor.start (t : Text) : Cursor := ⟨none, 0, t, t.length, [], rfl⟩

/-- The character behind the place and the place behind that character. -/
def Cursor.next? (c : Cursor) : Option (Char × Cursor) :=
  match h : c.rest with
  | [] => none
  | x :: t => some (x, ⟨some x, c.offset + 1, t, c.left - 1, c.captures, by
      rw [c.left_eq, h, List.length_cons, Nat.add_sub_cancel]⟩)

/-- Behind one more character fewer are left. -/
theorem Cursor.left_next?_lt {c d : Cursor} {x : Char} (h : c.next? = some (x, d)) :
    d.left < c.left := by
  unfold Cursor.next? at h
  split at h
  · cases h
  · next y t hr =>
    cases h
    have := c.left_eq
    rw [hr, List.length_cons] at this
    simp only
    omega

/-- The first `n` characters behind the place. -/
def Cursor.piece (c : Cursor) (n : Nat) : Text := c.rest.take n

/-- The place with one more piece remembered. -/
def Cursor.remember (c : Cursor) (capture : Capture) : Cursor :=
  { c with captures := capture :: c.captures }

section Running

variable {α : Type}

/-- Goes on after at most `n` pieces that `step` reads one after the other, each of at least one character, as many
as possible or as few as possible. -/
def again (step : Cursor → (Cursor → Option α) → Option α) (greedy : Bool) (accept : Cursor → Option α) :
    Nat → Cursor → Option α
  | 0, c => accept c
  | n + 1, c =>
    if greedy then
      match step c fun d => if d.left < c.left then again step greedy accept n d else none with
      | some r => some r
      | none => accept c
    else
      match accept c with
      | some r => some r
      | none => step c fun d => if d.left < c.left then again step greedy accept n d else none

/-- Reads a piece of the pattern behind the cursor, in order of preference, until `accept` takes
the place behind it. -/
def run (p : Pattern) (c : Cursor) (accept : Cursor → Option α) : Option α :=
  match p with
  | nothing => accept c
  | one q =>
    match c.next? with
    | none => none
    | some (x, d) => if q x then accept d else none
  | look test => if test c.before c.rest then accept c else none
  | both a b => run a c fun d => run b d accept
  | either a b =>
    match run a c accept with
    | some r => some r
    | none => run b c accept
  | many greedy a => again (run a) greedy accept c.left c
  | capture number a =>
    run a c fun d =>
      accept (d.remember ⟨number, c.offset, d.offset - c.offset, c.rest⟩)

variable {step : Cursor → (Cursor → Option α) → Option α} {greedy : Bool} {accept : Cursor → Option α}

/-- Where nothing is accepted, no number of pieces helps. -/
theorem again_none (hstep : ∀ c, (step c fun _ => none) = none) (n : Nat) (c : Cursor) :
    again step greedy (fun _ => none) n c = none := by
  induction n generalizing c with
  | zero => rfl
  | succ n ih => simp only [again, ih, ite_self, hstep]

/-- Nothing is read where nothing is accepted. -/
theorem run_none (p : Pattern) (c : Cursor) : (p.run c fun _ => (none : Option α)) = none := by
  induction p generalizing c with
  | nothing => rfl
  | one q =>
    rw [run]
    split
    · rfl
    · rw [ite_self]
  | look test => rw [run, ite_self]
  | both a b iha ihb => rw [run, funext ihb, iha]
  | either a b iha ihb => rw [run, iha, ihb]
  | many greedy a ih => exact again_none ih c.left c
  | capture number a ih => rw [run, ih]

/-- As each piece has a character, the characters that are left allow for all pieces. -/
theorem again_of_left_le (hstep : ∀ c, (step c fun _ => none) = none) {n : Nat} {c : Cursor} (h : c.left ≤ n) :
    again step greedy accept n c = again step greedy accept c.left c := by
  induction n using Nat.strongRecOn generalizing c with
  | ind n ih =>
    cases n with
    | zero => rw [Nat.le_zero.1 h]
    | succ n =>
      cases hleft : c.left with
      | zero => cases greedy <;> cases haccept : accept c <;> simp [again, hleft, hstep, haccept]
      | succ m =>
        have hmore : (fun d : Cursor => if d.left < c.left then again step greedy accept n d else none) =
            fun d => if d.left < c.left then again step greedy accept m d else none := by
          funext d
          split
          · rw [ih n (by omega) (by omega), ih m (by omega) (by omega)]
          · rfl
        rw [again, again, hmore]

/-- A repetition reads a piece and goes on behind it if that takes it further, else it stops; or the other way
round if it is reluctant. -/
theorem run_many (greedy : Bool) (a : Pattern) (c : Cursor) (accept : Cursor → Option α) :
    run (many greedy a) c accept =
      if greedy then
        match run a c fun d => if d.left < c.left then run (many greedy a) d accept else none with
        | some r => some r
        | none => accept c
      else
        match accept c with
        | some r => some r
        | none => run a c fun d => if d.left < c.left then run (many greedy a) d accept else none := by
  have hmore : again (run a) greedy accept (c.left + 1) c = run (many greedy a) c accept :=
    again_of_left_le (run_none a) (Nat.le_succ _)
  have hrest : (fun d : Cursor => if d.left < c.left then again (run a) greedy accept c.left d else none) =
      fun d => if d.left < c.left then run (many greedy a) d accept else none := by
    funext d
    split
    · exact again_of_left_le (run_none a) (by omega)
    · rfl
  rw [← hmore, again, hrest]

/-- A greedy repetition goes on if it can. -/
theorem run_greedy (a : Pattern) (c : Cursor) (accept : Cursor → Option α) :
    run (many true a) c accept =
      match run a c fun d => if d.left < c.left then run (many true a) d accept else none with
      | some r => some r
      | none => accept c :=
  (run_many true a c accept).trans (if_pos rfl)

/-- A reluctant repetition goes on if it cannot stop. -/
theorem run_reluctant (a : Pattern) (c : Cursor) (accept : Cursor → Option α) :
    run (many false a) c accept =
      match accept c with
      | some r => some r
      | none => run a c fun d => if d.left < c.left then run (many false a) d accept else none :=
  (run_many false a c accept).trans (if_neg Bool.false_ne_true)

end Running

/-! ## Common pieces -/

/-- The pieces of several patterns in a row. -/
def inOrder : List Pattern → Pattern
  | [] => nothing
  | [p] => p
  | p :: ps => both p (inOrder ps)

/-- A piece of the first pattern that fits. -/
def firstOf : List Pattern → Pattern
  | [] => look fun _ _ => false
  | [p] => p
  | p :: ps => either p (firstOf ps)

/-- Exactly one character. -/
def char (x : Char) : Pattern := one (· == x)

/-- Exactly the characters of a string. -/
def literal (s : String) : Pattern := inOrder (s.toList.map char)

/-- As many pieces as possible. -/
def star (a : Pattern) : Pattern := many true a

/-- As few pieces as possible. -/
def reluctant (a : Pattern) : Pattern := many false a

/-- At least one piece, and as many as possible. -/
def plus (a : Pattern) : Pattern := both a (star a)

/-- A piece if there is one. -/
def optional (a : Pattern) : Pattern := either a nothing

/-- One of the characters of a string. -/
def anyOf (s : String) : Pattern := one fun c => s.toList.contains c

/-- A character that is none of a string's. -/
def noneOf (s : String) : Pattern := one fun c => !s.toList.contains c

/-- A blank character. -/
def blank : Pattern := one Text.isBlank

/-- A word character. -/
def word : Pattern := one Text.isWord

/-- Any blanks. -/
def blanks : Pattern := star blank

/-- Where exactly one side is a word character. -/
def wordEdge : Pattern := look fun before rest => before.any Text.isWord != rest.head?.any Text.isWord

/-- Where no identifier goes on to the left. -/
def identifierStart : Pattern := look fun before _ => !before.any Text.isIdentifier

/-- Where no identifier goes on to the right. -/
def identifierEnd : Pattern := look fun _ rest => !rest.head?.any Text.isIdentifier

/-- The start of the text. -/
def textStart : Pattern := look fun before _ => before.isNone

/-- The end of the text, a last line feed left aside. -/
def textEnd : Pattern := look fun _ rest => rest == [] || rest == ['\n']

end Pattern

end UxLint
