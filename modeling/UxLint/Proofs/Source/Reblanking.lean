import UxLint.Proofs.Source.Revision

/-!
# Blanking a text that is blanked already

The comment-free view of a script is scanned as the script is: it has the same literals, and spaces where
the script has comments. No two characters come together that were apart, so nothing opens a comment in
the view that opened none in the script, and every view of the comment-free view is that view of the script
(`scriptView_scriptView`). The markup view holds no opening of a comment any more
(`not_prefix_drop_markupView`), so blanking it again changes nothing.
-/

set_option autoImplicit false

namespace UxLint.Source

/-! ## Scripts -/

/-- What stands for a line feed is one. -/
theorem StandsFor.lineFeed_iff {v c : Char} (h : StandsFor v c) : v = '\n' ↔ c = '\n' := by
  rcases h with rfl | ⟨rfl, hne⟩
  · rfl
  · exact iff_of_false (by decide) hne

/-- A blanked text starts like the text. -/
theorem sameStart_of_blanked {v t : Text} (h : Blanked v t) : SameStart t v := by
  cases h with
  | nil => trivial
  | cons hstands _ => exact hstands.lineFeed_iff

/-- What stands behind a character in a view opens no comment with it. -/
theorem OpensNone.blanked {c : Char} {v t : Text} (h : OpensNone c t) (hv : Blanked v t) :
    OpensNone c v := by
  refine h.of_head? fun d hd hmark => ?_
  cases hv with
  | nil => cases hd
  | cons hstands _ =>
    cases hd
    rcases hstands with rfl | ⟨rfl, -⟩
    · rfl
    · exact absurd hmark (by decide)

/-- A view of the comment-free view is that view of the script. -/
theorem scriptView_scriptView (keepLiterals : Bool) (t : Text) :
    scriptView keepLiterals (scriptView true t) = scriptView keepLiterals t := by
  fun_induction scriptView true t with
  | case1 t ih =>
    -- The two slashes are blank as well.
    change scriptView _ (blank (' ' :: ' ' :: (cutLine t).1) ++ _) = _
    rw [scriptView_blank_append, ih, scriptView]
    rfl
  | case2 t ih =>
    change scriptView _ (blank (' ' :: ' ' :: (cutBehind ['*', '/'] t).1) ++ _) = _
    rw [scriptView_blank_append, ih, scriptView]
    rfl
  | case3 c t _ _ hq inside ih =>
    -- The literal is kept, and a line feed that ends it is kept behind it.
    have hrest := sameStart_of_blanked (scriptView_blanked true (cutLiteral c t).2)
    have hcut := cutLiteral_revised hq (Revision.refl (length_blankLiteral inside)) hrest
    rw [if_pos rfl, scriptView_literal hq, hcut, scriptView_literal hq]
    dsimp only
    rw [ih]
  | case4 c t hline hblock hq ih =>
    have hcode := opensNone_of_scan hline hblock
    have hview := hcode.blanked (scriptView_blanked true t)
    have hq : isQuote c = false := by simpa using hq
    rw [scriptView_code hq hview, ih, scriptView_code hq hcode]
  | case5 => rw [scriptView]

/-! ## Markup -/

/-- What opens a comment in markup. -/
def markupOpening : Text := ['<', '!', '-', '-']

/-- The view of markup keeps a character that opens no comment. -/
theorem markupView_cons {c : Char} {t : Text} (h : ¬markupOpening <+: c :: t) :
    markupView (c :: t) = c :: markupView t := by
  rw [markupView]
  rintro s rfl rfl
  exact h ⟨s, rfl⟩

/-- No comment opens in what is blank. -/
theorem not_prefix_drop_blank_append {x v : Text} (h : ∀ n, ¬markupOpening <+: v.drop n) (n : Nat) :
    ¬markupOpening <+: (blank x ++ v).drop n := by
  induction x generalizing n with
  | nil => exact h n
  | cons c x ih =>
    cases n with
    | zero =>
      intro hprefix
      have hhead : '<' = blankChar c := (List.cons_prefix_cons.1 hprefix).1
      unfold blankChar at hhead
      split at hhead <;> exact absurd hhead (by decide)
    | succ n => exact ih n

/-- No comment opens anywhere in the markup view. -/
theorem not_prefix_drop_markupView (t : Text) (n : Nat) :
    ¬markupOpening <+: (markupView t).drop n := by
  fun_induction markupView t generalizing n with
  | case1 t ih =>
    -- The opening is blank as well.
    change ¬_ <+: (blank ('<' :: '!' :: '-' :: '-' :: (cutBehind ['-', '-', '>'] t).1) ++ _).drop n
    exact not_prefix_drop_blank_append ih n
  | case2 c t hcode ih =>
    cases n with
    | zero =>
      intro hprefix
      -- What the view shows stands in the text, where no comment opens.
      have hview : Blanked (c :: markupView t) (c :: t) :=
        .cons (.refl c) (markupView_blanked t)
      obtain ⟨s, hs⟩ := prefix_of_blanked hview (by decide) hprefix
      obtain ⟨rfl, rfl⟩ := List.cons.inj hs
      exact hcode s rfl rfl
    | succ n => exact ih n
  | case3 => simp [markupOpening]

/-- Markup in which no comment opens is its own view. -/
theorem markupView_eq_self {t : Text} (h : ∀ n, ¬markupOpening <+: t.drop n) : markupView t = t := by
  induction t with
  | nil => rw [markupView]
  | cons c t ih => rw [markupView_cons (h 0), ih fun n => h (n + 1)]

/-- The views of a text agree: without its comments a script has the code view and the comment-free view
that it has with them, the markup view is its own markup view, and no comment opens in it. -/
theorem strip_strip (t : Text) :
    strip .code (strip .comments t) = strip .code t ∧
      strip .comments (strip .comments t) = strip .comments t ∧
      strip .markup (strip .markup t) = strip .markup t ∧
      ¬"<!--".toList <:+: strip .markup t := by
  have hnone := not_prefix_drop_markupView t
  refine ⟨scriptView_scriptView false t, scriptView_scriptView true t, markupView_eq_self hnone, ?_⟩
  rintro ⟨before, after, hsplit⟩
  apply hnone before.length
  refine ⟨after, ?_⟩
  change _ = (strip .markup t).drop _
  rw [← hsplit, List.append_assoc, List.drop_left]
  rfl

end UxLint.Source
