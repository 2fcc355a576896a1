import UxLint.Text.Search

/-!
# Blanking comments and literals

A view of a source text replaces what a rule must not look at by spaces and keeps every line feed,
so that each remaining character keeps its offset and its line. The code view blanks comments and
the insides of quoted literals, the comment-free view blanks comments only, and the markup view
blanks markup comments.
-/

set_option autoImplicit false

namespace UxLint.Source

/-- Which constructs of a text are blanked. -/
inductive View where
  /-- Comments and the insides of quoted literals. -/
  | code
  | comments
  | markup
  deriving DecidableEq, Repr

/-- A space, or a line feed for a line feed. -/
def blankChar (c : Char) : Char := if c == '\n' then '\n' else ' '

/-- The text with every character but the line feeds made a space. -/
def blank (t : Text) : Text := t.map blankChar

/-- Cuts a text behind the first occurrence of `close`; all of it comes before the cut if there is
none. -/
def cutBehind (close : Text) : Text → Text × Text
  | [] => ([], [])
  | c :: t =>
    if close.isPrefixOf (c :: t) then ((c :: t).take close.length, (c :: t).drop close.length)
    else
      let r := cutBehind close t
      (c :: r.1, r.2)

/-- Cuts a text before its first line feed. -/
def cutLine : Text → Text × Text
  | [] => ([], [])
  | c :: t =>
    if c == '\n' then ([], c :: t)
    else
      let r := cutLine t
      (c :: r.1, r.2)

/-- Cuts a literal from what follows it; the text starts behind the opening quote, and the closing
quote belongs to the literal. A backslash takes the next character with it, and a literal in plain
quotes ends before a line feed. -/
def cutLiteral (quote : Char) : Text → Text × Text
  | [] => ([], [])
  | [c] => if c == '\n' && quote != '\x60' then ([], [c]) else ([c], [])
  | c :: d :: t =>
    if c == '\\' then
      let r := cutLiteral quote t
      (c :: d :: r.1, r.2)
    else if c == quote then ([c], d :: t)
    else if c == '\n' && quote != '\x60' then ([], c :: d :: t)
    else
      let r := cutLiteral quote (d :: t)
      (c :: r.1, r.2)

/-- Whether a character opens a quoted literal. -/
def isQuote (c : Char) : Bool := c == '\'' || c == '"' || c == '\x60'

/-- The inside of a literal with all but a last quote blanked. -/
def blankLiteral (quote : Char) (inside : Text) : Text :=
  if inside.getLast? == some quote then blank inside.dropLast ++ [quote] else blank inside

/-- What stands behind a closing text is no longer than the whole. -/
theorem length_cutBehind_le (close t : Text) : (cutBehind close t).2.length ≤ t.length := by
  induction t with
  | nil => simp [cutBehind]
  | cons c t ih =>
    simp only [cutBehind]
    split
    · simp
    · simp only [List.length_cons]; omega

/-- What stands behind a line is no longer than the whole. -/
theorem length_cutLine_le (t : Text) : (cutLine t).2.length ≤ t.length := by
  induction t with
  | nil => simp [cutLine]
  | cons c t ih =>
    simp only [cutLine]
    split
    · simp
    · simp only [List.length_cons]; omega

/-- What stands behind a literal is no longer than the whole. -/
theorem length_cutLiteral_le (quote : Char) (t : Text) :
    (cutLiteral quote t).2.length ≤ t.length := by
  fun_induction cutLiteral quote t with
  | case1 => simp
  | case2 => simp
  | case3 => simp
  | case4 c d t h r ih => show (cutLiteral quote t).2.length ≤ _; simp only [List.length_cons]; omega
  | case5 => simp
  | case6 => simp
  | case7 c d t _ _ _ r ih =>
    show (cutLiteral quote (d :: t)).2.length ≤ _
    simp only [List.length_cons] at ih ⊢; omega

/-- A script with its comments blanked, and the insides of its literals too unless they are kept. -/
def scriptView (keepLiterals : Bool) : Text → Text
  | '/' :: '/' :: t =>
    ' ' :: ' ' :: (blank (cutLine t).1 ++ scriptView keepLiterals (cutLine t).2)
  | '/' :: '*' :: t =>
    ' ' :: ' ' :: (blank (cutBehind ['*', '/'] t).1 ++
      scriptView keepLiterals (cutBehind ['*', '/'] t).2)
  | c :: t =>
    if isQuote c then
      let inside := (cutLiteral c t).1
      c :: ((if keepLiterals then inside else blankLiteral c inside) ++
        scriptView keepLiterals (cutLiteral c t).2)
    else c :: scriptView keepLiterals t
  | [] => []
termination_by t => t.length
decreasing_by
  · have := length_cutLine_le t; simp only [List.length_cons]; omega
  · have := length_cutBehind_le ['*', '/'] t; simp only [List.length_cons]; omega
  · have := length_cutLiteral_le c t; simp only [List.length_cons]; omega
  · simp

/-- Markup with its comments blanked. -/
def markupView : Text → Text
  | '<' :: '!' :: '-' :: '-' :: t =>
    ' ' :: ' ' :: ' ' :: ' ' :: (blank (cutBehind ['-', '-', '>'] t).1 ++
      markupView (cutBehind ['-', '-', '>'] t).2)
  | c :: t => c :: markupView t
  | [] => []
termination_by t => t.length
decreasing_by
  · have := length_cutBehind_le ['-', '-', '>'] t; simp only [List.length_cons]; omega
  · simp

/-- The view of a text that blanks the constructs of `view`. -/
def strip (view : View) (t : Text) : Text :=
  match view with
  | .code => scriptView false t
  | .comments => scriptView true t
  | .markup => markupView t

/-- The view that a word names. -/
def View.ofName? (name : String) : Option View :=
  match name with
  | "code" => some .code
  | "comments" => some .comments
  | "markup" => some .markup
  | _ => none

end UxLint.Source
