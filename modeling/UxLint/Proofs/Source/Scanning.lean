import UxLint.Proofs.Source.Blanking

/-!
# The scan of a script, step by step

What each cut and each view makes of the next character of a text, one equation for each thing the
character can be: part of a line or its end, part of a literal, its end or an escape, the opening of a
comment or of a literal, or plain code. Proofs about a scan rewrite with these equations and leave the
definitions closed.
-/

set_option autoImplicit false

namespace UxLint.Source

/-! ## Lines -/

/-- A line ends in front of a line feed. -/
theorem cutLine_lineFeed (t : Text) : cutLine ('\n' :: t) = ([], '\n' :: t) := rfl

/-- A line goes on with every other character. -/
theorem cutLine_other {c : Char} (h : c ≠ '\n') (t : Text) :
    cutLine (c :: t) = (c :: (cutLine t).1, (cutLine t).2) := by
  simp [cutLine, h]

/-! ## Literals, one character at a time -/

section Literals

variable {quote : Char}

/-- There are three quotation marks. -/
theorem isQuote_cases {c : Char} (h : isQuote c = true) : c = '\'' ∨ c = '"' ∨ c = '\x60' := by
  simpa [isQuote, or_assoc] using h

/-- An escape and what it escapes stand in the literal. -/
theorem cutLiteral_escape (d : Char) (t : Text) :
    cutLiteral quote ('\\' :: d :: t) =
      ('\\' :: d :: (cutLiteral quote t).1, (cutLiteral quote t).2) := by
  rw [cutLiteral, if_pos (by decide)]

/-- A literal ends behind its mark. -/
theorem cutLiteral_close (h : isQuote quote = true) (t : Text) :
    cutLiteral quote (quote :: t) = ([quote], t) := by
  have hne : quote ≠ '\\' ∧ quote ≠ '\n' := by
    rcases isQuote_cases h with rfl | rfl | rfl <;> decide
  cases t with
  | nil => simp [cutLiteral, hne]
  | cons d t => simp [cutLiteral, hne]

/-- A literal that has to stay on its line ends in front of a line feed. -/
theorem cutLiteral_lineFeed (h : isQuote quote = true) (hplain : quote ≠ '\x60') (t : Text) :
    cutLiteral quote ('\n' :: t) = ([], '\n' :: t) := by
  have hne : '\n' ≠ quote := by
    rcases isQuote_cases h with rfl | rfl | rfl <;> decide
  cases t with
  | nil => simp [cutLiteral, hplain]
  | cons d t => simp [cutLiteral, hplain, hne]

/-- Any other character belongs to the literal. -/
theorem cutLiteral_inside {c : Char} (hescape : c ≠ '\\') (hclose : c ≠ quote)
    (hline : c = '\n' → quote = '\x60') (t : Text) :
    cutLiteral quote (c :: t) = (c :: (cutLiteral quote t).1, (cutLiteral quote t).2) := by
  have hfeed : (c == '\n' && quote != '\x60') = false := by simpa using hline
  cases t with
  | nil => simp [cutLiteral, hfeed]
  | cons d t => simp [cutLiteral, hescape, hclose, hfeed]

/-- A character in front of others in a literal is blanked. -/
theorem blankLiteral_cons (c : Char) {inside : Text} (h : inside ≠ []) :
    blankLiteral quote (c :: inside) = blankChar c :: blankLiteral quote inside := by
  have hlast : (c :: inside).getLast? = inside.getLast? := by
    rw [List.getLast?_cons, List.getLast?_eq_some_getLast h, Option.getD_some]
  unfold blankLiteral
  rw [hlast, List.dropLast_cons_of_ne_nil h]
  split <;> rfl

/-- The mark at the end of a literal is kept. -/
theorem blankLiteral_close : blankLiteral quote [quote] = [quote] := by
  simp [blankLiteral, blank]

/-- A last character that is not the mark is blanked. -/
theorem blankLiteral_other {c : Char} (h : c ≠ quote) :
    blankLiteral quote [c] = [blankChar c] := by
  simp [blankLiteral, blank, h]

/-- A blanked literal is as long as before. -/
theorem length_blankLiteral (inside : Text) :
    (blankLiteral quote inside).length = inside.length :=
  (blankLiteral_blanked quote inside).length_eq

end Literals

/-! ## Views -/

/-- Whether a character opens no comment in front of a text. -/
def OpensNone (c : Char) (t : Text) : Prop := c = '/' → t.head? ≠ some '/' ∧ t.head? ≠ some '*'

/-- What stands behind a character opens no comment with it, if all that could do so stands behind it in a
text in which it does not. -/
theorem OpensNone.of_head? {c : Char} {t s : Text} (h : OpensNone c t)
    (hhead : ∀ d, s.head? = some d → d = '/' ∨ d = '*' → t.head? = some d) : OpensNone c s := by
  intro hc
  obtain ⟨hslash, hstar⟩ := h hc
  exact ⟨fun hs => hslash (hhead _ hs (.inl rfl)), fun hs => hstar (hhead _ hs (.inr rfl))⟩

/-- What is no slash opens no comment. -/
theorem opensNone_of_ne {c : Char} (h : c ≠ '/') (t : Text) : OpensNone c t := fun hc => absurd hc h

/-- The first two conditions are those under which a scan reads a character alone. -/
theorem opensNone_of_scan {c : Char} {t : Text} (hline : ∀ s, c = '/' → t = '/' :: s → False)
    (hblock : ∀ s, c = '/' → t = '*' :: s → False) : OpensNone c t := by
  intro hc
  cases t with
  | nil => simp
  | cons d t =>
    refine ⟨?_, ?_⟩
    · rintro ⟨⟩
      exact hline t hc rfl
    · rintro ⟨⟩
      exact hblock t hc rfl

section Views

variable {keepLiterals : Bool}

/-- The view of a script keeps the marks of a literal and goes on behind it. -/
theorem scriptView_literal {c : Char} (h : isQuote c = true) (t : Text) :
    scriptView keepLiterals (c :: t) =
      c :: ((if keepLiterals then (cutLiteral c t).1 else blankLiteral c (cutLiteral c t).1) ++
        scriptView keepLiterals (cutLiteral c t).2) := by
  have hne : c ≠ '/' := by
    rintro rfl
    cases h
  rw [scriptView, if_pos h]
  · exact fun _ hc _ => hne hc
  · exact fun _ hc _ => hne hc

/-- The view of a script keeps a character of the code. -/
theorem scriptView_code {c : Char} {t : Text} (hq : isQuote c = false) (h : OpensNone c t) :
    scriptView keepLiterals (c :: t) = c :: scriptView keepLiterals t := by
  rw [scriptView, if_neg (by simp [hq])]
  · rintro s hc rfl
    exact (h hc).1 rfl
  · rintro s hc rfl
    exact (h hc).2 rfl

/-- What is blank stays as it is. -/
theorem scriptView_blank_append (x t : Text) :
    scriptView keepLiterals (blank x ++ t) = blank x ++ scriptView keepLiterals t := by
  induction x with
  | nil => rfl
  | cons c x ih =>
    have hblank : isQuote (blankChar c) = false ∧ blankChar c ≠ '/' := by
      unfold blankChar
      split <;> decide
    change scriptView keepLiterals (blankChar c :: (blank x ++ t)) = _
    rw [scriptView_code hblank.1 (opensNone_of_ne hblank.2 _), ih]
    rfl

end Views

end UxLint.Source
