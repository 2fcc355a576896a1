import UxLint.Proofs.Source.Revision

/-!
# What the code view hides cannot be seen in it

The code view of a script shows neither comments nor the insides of literals, and it does not tell what they
hold either: a revision of the script, which changes hidden characters only, has the same code view
(`scriptView_revised`). In particular a letter may be put in place of any hidden character that is no
slash, asterisk or backslash (`strip_code_set`), so no search of the code view can react to it.
-/

set_option autoImplicit false

namespace UxLint.Source

/-- What stands behind a character in a revision opens no comment with it. -/
theorem OpensNone.revised {c : Char} {view t s : Text} (h : OpensNone c t)
    (hs : Revision view t s) : OpensNone c s := by
  refine h.of_head? fun d hd hmark => ?_
  cases hs.alike with
  | nil => cases hd
  | cons hcd _ =>
    cases hd
    have hd : isMark d = true := by
      rcases hmark with rfl | rfl <;> decide
    rw [hcd.eq_of_isMark hd]
    rfl

/-- A revision of a script under its code view has the same code view. -/
theorem scriptView_revised {t s : Text} (h : Revision (scriptView false t) t s) :
    scriptView false s = scriptView false t := by
  -- Each construct is opened by marks that stay, is cut where it was, and leaves a revision of the rest.
  fun_induction scriptView false t generalizing s with
  | case1 t ih =>
    obtain ⟨_, rfl, hopen⟩ := h.mark (by decide) (by decide)
    obtain ⟨_, rfl, hrest⟩ := hopen.mark (by decide) (by decide)
    obtain ⟨x', y', rfl, hx, hy⟩ := hrest.split (cutLine_append t) (List.length_map _)
    have hcut := cutLine_revised hx.alike (sameStart_of_alike hy.alike)
    rw [scriptView, hcut, blank_eq_of_alike hx.alike, ih hy]
  | case2 t ih =>
    obtain ⟨_, rfl, hopen⟩ := h.mark (by decide) (by decide)
    obtain ⟨_, rfl, hrest⟩ := hopen.mark (by decide) (by decide)
    obtain ⟨x', y', rfl, hx, hy⟩ := hrest.split (cutBehind_append _ t) (List.length_map _)
    have hcut := cutBehind_revised (by simp [isMark, isQuote]) hx.alike hy.alike
    rw [scriptView, hcut, blank_eq_of_alike hx.alike, ih hy]
  | case3 c t _ _ hq inside =>
    rename_i ih
    obtain ⟨_, rfl, hrest⟩ := h.shown
    obtain ⟨x', y', rfl, hx, hy⟩ :=
      hrest.split (cutLiteral_append c t) (length_blankLiteral inside)
    have hcut := cutLiteral_revised hq hx (sameStart_of_alike hy.alike)
    rw [scriptView_literal hq, hcut]
    dsimp only
    rw [if_neg Bool.false_ne_true, if_neg Bool.false_ne_true, hx.blankLiteral_eq hq, ih hy]
  | case4 c t hline hblock hq ih =>
    obtain ⟨_, rfl, hrest⟩ := h.shown
    have hcode := (opensNone_of_scan hline hblock).revised hrest
    rw [scriptView_code (by simpa using hq) hcode, ih hrest]
  | case5 =>
    cases h
    rw [scriptView]

/-- No letter is a mark. -/
theorem isMark_eq_false_of_isAlpha {c : Char} (h : c.isAlpha = true) : isMark c = false := by
  rw [← Bool.not_eq_true]
  intro hmark
  have hcases : c = '\'' ∨ c = '"' ∨ c = '\x60' ∨ c = '/' ∨ c = '*' ∨ c = '\\' ∨ c = '\n' := by
    simpa [isMark, isQuote, or_assoc] using hmark
  rcases hcases with rfl | rfl | rfl | rfl | rfl | rfl | rfl <;> cases h

/-- A letter in place of a character that the code view does not show leaves the code view as it is, unless
the character is one of those of which comments and escapes are made. -/
theorem strip_code_set {t : Text} {i : Nat} {c letter : Char} (hc : t[i]? = some c)
    (hidden : (strip .code t)[i]? ≠ some c) (hslash : c ≠ '/') (hstar : c ≠ '*')
    (hbackslash : c ≠ '\\') (hletter : letter.isAlpha = true) :
    strip .code (t.set i letter) = strip .code t := by
  have hfeed : c ≠ '\n' := by
    rintro rfl
    exact hidden ((lineFeed_iff_of_blanked (strip_blanked .code t) i).2 hc)
  have hold : isMark c = true → isQuote c = true := by
    simp [isMark, hslash, hstar, hbackslash, hfeed]
  have hnew := isMark_eq_false_of_isAlpha hletter
  exact scriptView_revised (Revision.set (length_strip .code t) hc hidden hold hnew)

/-- The escaped quote inside a literal, with a comment behind it. -/
theorem strip_code_set_escaped_quote :
    "'a\\'b' // c".toList[3]? = some '\'' ∧
      (strip .code "'a\\'b' // c".toList)[3]? ≠ some '\'' ∧ 'x'.isAlpha = true ∧
      strip .code ("'a\\'b' // c".toList.set 3 'x') = strip .code "'a\\'b' // c".toList := by
  have hview : strip .code "'a\\'b' // c".toList = "'    '     ".toList := by
    simp [strip, scriptView, isQuote, cutLiteral, blankLiteral, blank, blankChar, cutLine]
  have hhidden : (strip .code "'a\\'b' // c".toList)[3]? ≠ some '\'' := by
    rw [hview]
    decide
  refine ⟨by decide, hhidden, by decide, ?_⟩
  exact strip_code_set (by decide) hhidden (by decide) (by decide) (by decide) (by decide)

end UxLint.Source
