import UxLint.Proofs.Source.Scanning
import UxLint.Proofs.Text.Trimming
import Mathlib.Data.List.Basic

/-!
# Texts that show the same code

Two texts are alike if they show the same code and each literal of one stands where a literal of the other
stands, with other characters inside. Texts with one code view are alike if they hold no comment and leave
no literal open (`alike_of_strip_eq`). Trimming keeps them alike, and a piece that reaches no quote is the
same in both.

What the literals may hide is left to a test on characters, because a search that reads the texts may
depend on some characters inside a literal and not on others.
-/

set_option autoImplicit false

namespace UxLint.Source

/-! ## Alike texts -/

/-- Two texts are alike from a place on, inside a literal or outside of all literals: they show the same
code, and the characters inside their literals satisfy a test. -/
inductive CodeAlike (hidden : Char → Bool) : Bool → Text → Text → Prop where
  | nil : CodeAlike hidden false [] []
  | code {c : Char} {t s : Text} (plain : isQuote c = false) (rest : CodeAlike hidden false t s) :
      CodeAlike hidden false (c :: t) (c :: s)
  | opening {q : Char} {t s : Text} (quote : isQuote q = true) (rest : CodeAlike hidden true t s) :
      CodeAlike hidden false (q :: t) (q :: s)
  | inside {c d : Char} {t s : Text} (left : hidden c = true) (right : hidden d = true)
      (rest : CodeAlike hidden true t s) : CodeAlike hidden true (c :: t) (d :: s)
  | closing {q : Char} {t s : Text} (quote : isQuote q = true) (rest : CodeAlike hidden false t s) :
      CodeAlike hidden true (q :: t) (q :: s)

namespace CodeAlike

variable {hidden : Char → Bool} {literal : Bool} {t s x y : Text} {q : Char}

/-- Texts look alike in either order. -/
theorem symm (h : CodeAlike hidden literal t s) : CodeAlike hidden literal s t := by
  induction h with
  | nil => exact .nil
  | code plain _ ih => exact .code plain ih
  | opening quote _ ih => exact .opening quote ih
  | inside left right _ ih => exact .inside right left ih
  | closing quote _ ih => exact .closing quote ih

/-- Texts that look alike are equally long. -/
theorem length_eq (h : CodeAlike hidden literal t s) : t.length = s.length := by
  induction h with
  | nil => rfl
  | code _ _ ih => rw [List.length_cons, List.length_cons, ih]
  | opening _ _ ih => rw [List.length_cons, List.length_cons, ih]
  | inside _ _ _ ih => rw [List.length_cons, List.length_cons, ih]
  | closing _ _ ih => rw [List.length_cons, List.length_cons, ih]

/-- Texts that look alike outside of literals start with the same character. -/
theorem head?_eq (h : CodeAlike hidden false t s) : t.head? = s.head? := by
  cases h with
  | nil => rfl
  | code _ _ => rfl
  | opening _ _ => rfl

/-- A literal is closed. -/
theorem exists_quote (h : CodeAlike hidden true t s) : ∃ c ∈ t, isQuote c = true := by
  generalize hliteral : true = literal at h
  induction h with
  | inside _ _ _ ih =>
    obtain ⟨c, hc, hquote⟩ := ih hliteral
    exact ⟨c, List.mem_cons_of_mem _ hc, hquote⟩
  | closing quote _ _ => exact ⟨_, List.mem_cons_self, quote⟩
  | _ => cases hliteral

/-- What is read inside a literal without a quote is hidden in it. -/
theorem hidden_of_prefix (h : CodeAlike hidden true t s) {w : Text} (hw : w <+: t)
    (hquotes : ∀ c ∈ w, isQuote c = false) : ∀ c ∈ w, hidden c = true := by
  generalize hliteral : true = literal at h
  induction h generalizing w with
  | @inside c d t s left _ _ ih =>
    rcases List.prefix_cons_iff.1 hw with rfl | ⟨v, rfl, hv⟩
    · simp
    · obtain ⟨-, hquotes⟩ := List.forall_mem_cons.1 hquotes
      exact List.forall_mem_cons.2 ⟨left, ih hv hquotes hliteral⟩
  | @closing q t s quote _ _ =>
    rcases List.prefix_cons_iff.1 hw with rfl | ⟨v, rfl, hv⟩
    · simp
    · rw [(List.forall_mem_cons.1 hquotes).1] at quote
      cases quote
  | _ => cases hliteral

/-- Alike texts without quotes are one text. -/
theorem eq_of_no_quote (h : CodeAlike hidden false t s) (hquotes : ∀ c ∈ t, isQuote c = false) :
    t = s := by
  generalize hliteral : false = literal at h
  induction h with
  | nil => rfl
  | code _ _ ih => rw [ih (List.forall_mem_cons.1 hquotes).2 hliteral]
  | opening quote _ _ =>
    rw [(List.forall_mem_cons.1 hquotes).1] at quote
    cases quote
  | _ => cases hliteral

/-- Hidden characters in front of the end of a literal change nothing about the looks. -/
theorem literal_append (hlength : x.length = y.length) (hx : ∀ c ∈ x, hidden c = true)
    (hy : ∀ c ∈ y, hidden c = true) (hq : isQuote q = true) (h : CodeAlike hidden false t s) :
    CodeAlike hidden true (x ++ q :: t) (y ++ q :: s) := by
  induction x generalizing y with
  | nil =>
    rw [List.length_eq_zero_iff.1 hlength.symm]
    exact .closing hq h
  | cons c x ih =>
    cases y with
    | nil => cases hlength
    | cons d y =>
      obtain ⟨hc, hx⟩ := List.forall_mem_cons.1 hx
      obtain ⟨hd, hy⟩ := List.forall_mem_cons.1 hy
      exact .inside hc hd (ih (Nat.succ.inj hlength) hx hy)

/-! ## Trimming -/

/-- A quotation mark is not blank. -/
theorem isBlank_of_isQuote (h : isQuote q = true) : Text.isBlank q = false := by
  rcases isQuote_cases h with rfl | rfl | rfl <;> decide

/-- Inside of a literal there is something left: its end. -/
theorem ne_nil (h : CodeAlike hidden true t s) : t ≠ [] := by
  obtain ⟨c, hc, -⟩ := h.exists_quote
  exact List.ne_nil_of_mem hc

/-- Texts that look alike do so without the blanks in front. -/
theorem trimStart (h : CodeAlike hidden false t s) :
    CodeAlike hidden false (Text.trimStart t) (Text.trimStart s) := by
  generalize hliteral : false = literal at h
  unfold Text.trimStart
  induction h with
  | nil => exact .nil
  | @code c t s plain rest ih =>
    rw [List.dropWhile_cons, List.dropWhile_cons]
    split
    · exact ih hliteral
    · exact .code plain rest
  | @opening q t s quote rest _ =>
    rw [List.dropWhile_cons, List.dropWhile_cons, isBlank_of_isQuote quote]
    exact .opening quote rest
  | _ => cases hliteral

/-- Texts that look alike do so without the blanks behind. -/
theorem trimEnd (h : CodeAlike hidden literal t s) :
    CodeAlike hidden literal (Text.trimEnd t) (Text.trimEnd s) := by
  unfold Text.trimEnd
  induction h with
  | nil => exact .nil
  | @code c t s plain _ ih =>
    by_cases hnil : Text.dropEndWhile Text.isBlank t = []
    · have hnil' : Text.dropEndWhile Text.isBlank s = [] := by
        rw [← List.length_eq_zero_iff, ← ih.length_eq, hnil, List.length_nil]
      rw [Text.dropEndWhile, Text.dropEndWhile, hnil, hnil']
      dsimp only
      split
      · exact .nil
      · exact .code plain .nil
    · have hne : Text.dropEndWhile Text.isBlank s ≠ [] := by
        rw [Ne, ← List.length_eq_zero_iff, ← ih.length_eq, List.length_eq_zero_iff]
        exact hnil
      rw [Text.dropEndWhile_cons_of_ne_nil hnil, Text.dropEndWhile_cons_of_ne_nil hne]
      exact .code plain ih
  | opening quote _ ih =>
    rw [Text.dropEndWhile_cons_of_ne_nil ih.ne_nil, Text.dropEndWhile_cons_of_ne_nil ih.symm.ne_nil]
    exact .opening quote ih
  | inside left right _ ih =>
    rw [Text.dropEndWhile_cons_of_ne_nil ih.ne_nil, Text.dropEndWhile_cons_of_ne_nil ih.symm.ne_nil]
    exact .inside left right ih
  | closing quote _ ih =>
    rw [Text.dropEndWhile_cons_of_not (isBlank_of_isQuote quote),
      Text.dropEndWhile_cons_of_not (isBlank_of_isQuote quote)]
    exact .closing quote ih

/-- Texts that look alike do so without the blanks around. -/
theorem trim (h : CodeAlike hidden false t s) :
    CodeAlike hidden false (Text.trim t) (Text.trim s) :=
  h.trimStart.trimEnd

/-- Up to a character that is no quote, alike texts are the same, or both come to a quote before it. -/
theorem firstPiece (h : CodeAlike hidden false t s) {sep : Char} (hsep : isQuote sep = false) :
    Text.firstPiece sep t = Text.firstPiece sep s ∨
      (∃ c ∈ Text.firstPiece sep t, isQuote c = true) ∧
        ∃ c ∈ Text.firstPiece sep s, isQuote c = true := by
  generalize hliteral : false = literal at h
  unfold Text.firstPiece
  induction h with
  | nil => exact .inl rfl
  | @code c t s _ _ ih =>
    rw [List.takeWhile_cons, List.takeWhile_cons]
    split
    · rcases ih hliteral with heq | ⟨⟨d, hd, hquote⟩, e, he, hquote'⟩
      · exact .inl (congrArg (c :: ·) heq)
      · exact .inr ⟨⟨d, List.mem_cons_of_mem c hd, hquote⟩, e, List.mem_cons_of_mem c he, hquote'⟩
    · exact .inl rfl
  | @opening q t s quote _ _ =>
    have hne : (q != sep) = true := by
      refine bne_iff_ne.2 ?_
      rintro rfl
      rw [hsep] at quote
      cases quote
    rw [List.takeWhile_cons, List.takeWhile_cons, if_pos hne, if_pos hne]
    exact .inr ⟨⟨q, List.mem_cons_self, quote⟩, q, List.mem_cons_self, quote⟩
  | _ => cases hliteral

end CodeAlike

/-! ## Texts without comments -/

/-- Whether a text holds no comment, leaves no literal open, and the characters inside its literals
satisfy a test. -/
def quotesOnly (hidden : Char → Bool) : Text → Bool
  | '/' :: '/' :: _ => false
  | '/' :: '*' :: _ => false
  | c :: t =>
    if isQuote c then
      let inside := (cutLiteral c t).1
      inside.getLast? == some c && inside.dropLast.all hidden &&
        quotesOnly hidden (cutLiteral c t).2
    else quotesOnly hidden t
  | [] => true
termination_by t => t.length
decreasing_by
  · have := length_cutLiteral_le c t; simp only [List.length_cons]; omega
  · simp

variable {hidden : Char → Bool} {t s : Text}

/-- A text without comments starts with a literal or with code. -/
theorem quotesOnly_cons {c : Char} (h : quotesOnly hidden (c :: t) = true) :
    (isQuote c = true ∧ ∃ x rest, t = x ++ c :: rest ∧ (∀ d ∈ x, hidden d = true) ∧
        quotesOnly hidden rest = true ∧
        scriptView false (c :: t) = c :: (blank x ++ c :: scriptView false rest)) ∨
      isQuote c = false ∧ quotesOnly hidden t = true ∧
        scriptView false (c :: t) = c :: scriptView false t := by
  unfold quotesOnly at h
  split at h
  · cases h
  · cases h
  · next c' t' hline hblock heq =>
    obtain ⟨rfl, rfl⟩ := List.cons.inj heq
    split at h
    · next hq =>
      simp only [Bool.and_eq_true, beq_iff_eq, List.all_eq_true] at h
      obtain ⟨⟨hlast, hhidden⟩, hrest⟩ := h
      obtain ⟨x, hx⟩ := List.getLast?_eq_some_iff.1 hlast
      rw [hx, List.dropLast_concat] at hhidden
      refine .inl ⟨hq, x, (cutLiteral c t).2, ?_, hhidden, hrest, ?_⟩
      · have happend := cutLiteral_append c t
        rw [hx, List.append_assoc] at happend
        exact happend.symm
      · rw [scriptView_literal hq, hx, if_neg (by decide), blankLiteral, List.getLast?_concat,
          if_pos (beq_self_eq_true _), List.dropLast_concat, List.append_assoc]
        rfl
    · next hq =>
      have hcode : isQuote c = false := Bool.eq_false_iff.2 hq
      exact .inr ⟨hcode, h, scriptView_code hcode (opensNone_of_scan hline hblock)⟩
  · next heq => cases heq

/-- The first quote behind what was blanked is found again. -/
theorem takeWhile_blank_append {q : Char} (h : isQuote q = true) (x v : Text) :
    (blank x ++ q :: v).takeWhile (· != q) = blank x := by
  have hblank : ∀ c ∈ blank x, (c != q) = true := by
    intro c hc
    obtain ⟨d, -, rfl⟩ := List.mem_map.1 hc
    refine bne_iff_ne.2 ?_
    rintro rfl
    unfold blankChar at h
    split at h <;> cases h
  rw [List.takeWhile_append_of_pos hblank, List.takeWhile_cons_of_neg (by simp), List.append_nil]

/-- The view of a script is as long as the script. -/
theorem length_scriptView (t : Text) : (scriptView false t).length = t.length :=
  length_strip .code t

/-- Texts without comments and open literals are alike if they show the same code. -/
theorem alike_of_strip_eq (ht : quotesOnly hidden t = true) (hs : quotesOnly hidden s = true)
    (h : strip .code t = strip .code s) : CodeAlike hidden false t s := by
  change scriptView false t = scriptView false s at h
  induction hn : t.length using Nat.strongRecOn generalizing t s with
  | _ n ih =>
    subst hn
    have hlength : t.length = s.length := by rw [← length_scriptView t, h, length_scriptView]
    cases t with
    | nil =>
      rw [List.length_eq_zero_iff.1 hlength.symm]
      exact .nil
    | cons c t =>
      obtain ⟨d, s, rfl⟩ : ∃ d s', s = d :: s' :=
        List.exists_cons_of_length_pos (by rw [← hlength]; exact Nat.succ_pos _)
      rcases quotesOnly_cons ht with ⟨hq, x, rest, rfl, hx, hrest, hview⟩ | ⟨hq, hrest, hview⟩
      · rcases quotesOnly_cons hs with ⟨-, y, rest', rfl, hy, hrest', hview'⟩ | ⟨hq', -, hview'⟩
        · rw [hview, hview'] at h
          obtain ⟨rfl, hviews⟩ := List.cons.inj h
          -- The first quote behind the blanks closes both literals.
          have hblank : blank x = blank y := by
            rw [← takeWhile_blank_append hq x, hviews, takeWhile_blank_append hq]
          rw [hblank, List.append_cancel_left_eq] at hviews
          have hsame : x.length = y.length := by
            simpa [blank] using congrArg List.length hblank
          refine .opening hq (.literal_append hsame hx hy hq
            (ih _ ?_ hrest hrest' (List.cons.inj hviews).2 rfl))
          simp only [List.length_cons, List.length_append]
          omega
        · rw [hview, hview'] at h
          rw [(List.cons.inj h).1, hq'] at hq
          cases hq
      · rcases quotesOnly_cons hs with ⟨hq', y, rest', rfl, -, -, hview'⟩ | ⟨-, hrest', hview'⟩
        · rw [hview, hview'] at h
          rw [(List.cons.inj h).1, hq'] at hq
          cases hq
        · rw [hview, hview'] at h
          obtain ⟨rfl, hviews⟩ := List.cons.inj h
          exact .code hq (ih _ (Nat.lt_succ_self _) hrest hrest' hviews rfl)

end UxLint.Source
