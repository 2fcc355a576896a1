import UxLint.Source.Blanking
import Mathlib.Data.List.Forall2

/-!
# Blanking keeps places

A view of a text has a character for every character of the text: the same one, or a space for one that
is no line feed (`strip_blanked`). A place in a view is therefore the same place in the text, with as many
line feeds before it (`strip_keeps_shape`), and whatever a view shows that is no space stands in the text
too. Nothing is asked of the text: a comment or a literal may run to its end, and so may an escape.
-/

set_option autoImplicit false

namespace UxLint.Source

/-- A character of a view stands for a character of the text: it is the same, or a space for one that is
no line feed. -/
def StandsFor (v c : Char) : Prop := v = c ∨ v = ' ' ∧ c ≠ '\n'

/-- A view of a text, character by character. -/
abbrev Blanked (view t : Text) : Prop := List.Forall₂ StandsFor view t

/-- A character stands for itself. -/
theorem StandsFor.refl (c : Char) : StandsFor c c := .inl rfl

/-- A space stands for any character but a line feed. -/
theorem StandsFor.space {c : Char} (h : c ≠ '\n') : StandsFor ' ' c := .inr ⟨rfl, h⟩

/-- A text in which nothing is blanked. -/
theorem Blanked.refl (t : Text) : Blanked t t := List.forall₂_same.2 fun c _ => .refl c

/-- Texts are blanked part by part. -/
theorem Blanked.append {v w t u : Text} (h : Blanked v t) (h' : Blanked w u) :
    Blanked (v ++ w) (t ++ u) :=
  List.rel_append h h'

/-- What a character is blanked to stands for it. -/
theorem standsFor_blankChar (c : Char) : StandsFor (blankChar c) c := by
  unfold blankChar
  by_cases hc : c = '\n'
  · rw [hc]
    exact .refl _
  · rw [if_neg (by simpa using hc)]
    exact .space hc

/-- A text may be blanked as a whole. -/
theorem blank_blanked (t : Text) : Blanked (blank t) t := by
  unfold blank
  rw [Blanked, List.forall₂_map_left_iff]
  exact List.forall₂_same.2 fun c _ => standsFor_blankChar c

/-- The inside of a literal may be blanked. -/
theorem blankLiteral_blanked (quote : Char) (inside : Text) :
    Blanked (blankLiteral quote inside) inside := by
  unfold blankLiteral
  split
  · next hlast =>
    have hsplit := List.dropLast_append_getLast? quote (by simpa using hlast)
    have hblanked := (blank_blanked inside.dropLast).append (Blanked.refl [quote])
    rw [hsplit] at hblanked
    exact hblanked
  · exact blank_blanked inside

/-! ## Cuts -/

/-- A line and what stands behind it are the whole. -/
theorem cutLine_append (t : Text) : (cutLine t).1 ++ (cutLine t).2 = t := by
  induction t with
  | nil => rfl
  | cons c t ih =>
    rw [cutLine]
    split
    · rfl
    · exact congrArg (c :: ·) ih

/-- What is cut up to a closing text and what stands behind it are the whole. -/
theorem cutBehind_append (close t : Text) : (cutBehind close t).1 ++ (cutBehind close t).2 = t := by
  induction t with
  | nil => rfl
  | cons c t ih =>
    rw [cutBehind]
    split
    · exact List.take_append_drop _ _
    · exact congrArg (c :: ·) ih

/-- A literal and what stands behind it are the whole. -/
theorem cutLiteral_append (quote : Char) (t : Text) :
    (cutLiteral quote t).1 ++ (cutLiteral quote t).2 = t := by
  fun_induction cutLiteral quote t with
  | case1 => rfl
  | case2 => rfl
  | case3 => rfl
  | case4 c d t _ r ih => exact congrArg (fun u => c :: d :: u) ih
  | case5 => rfl
  | case6 => rfl
  | case7 c d t _ _ _ r ih => exact congrArg (c :: ·) ih

/-! ## Views -/

/-- The blanked first part of a cut and a view of the second part. -/
theorem blanked_of_cut {first second view t : Text} (hcut : first ++ second = t)
    (hview : Blanked view second) : Blanked (blank first ++ view) t :=
  hcut ▸ (blank_blanked first).append hview

/-- The view of a script is the script with some of it blanked. -/
theorem scriptView_blanked (keepLiterals : Bool) (t : Text) :
    Blanked (scriptView keepLiterals t) t := by
  fun_induction scriptView keepLiterals t with
  | case1 t ih =>
    have hrest := blanked_of_cut (cutLine_append t) ih
    exact .cons (.space (by decide)) (.cons (.space (by decide)) hrest)
  | case2 t ih =>
    have hrest := blanked_of_cut (cutBehind_append ['*', '/'] t) ih
    exact .cons (.space (by decide)) (.cons (.space (by decide)) hrest)
  | case3 c t _ _ _ inside ih =>
    refine .cons (.refl c) ?_
    have hliteral : Blanked (if keepLiterals then inside else blankLiteral c inside) inside := by
      split
      · exact .refl inside
      · exact blankLiteral_blanked c inside
    have hrest := hliteral.append ih
    rw [cutLiteral_append] at hrest
    exact hrest
  | case4 c t _ _ _ ih => exact .cons (.refl c) ih
  | case5 => exact .nil

/-- The view of markup is the markup with some of it blanked. -/
theorem markupView_blanked (t : Text) : Blanked (markupView t) t := by
  fun_induction markupView t with
  | case1 t ih =>
    have hrest := blanked_of_cut (cutBehind_append ['-', '-', '>'] t) ih
    refine .cons (.space (by decide)) (.cons (.space (by decide)) ?_)
    exact .cons (.space (by decide)) (.cons (.space (by decide)) hrest)
  | case2 c t _ ih => exact .cons (.refl c) ih
  | case3 => exact .nil

/-- Every view has a character for each character of the text. -/
theorem strip_blanked (view : View) (t : Text) : Blanked (strip view t) t := by
  cases view with
  | code => exact scriptView_blanked false t
  | comments => exact scriptView_blanked true t
  | markup => exact markupView_blanked t

/-! ## Places -/

/-- Blanking keeps all line feeds. -/
theorem lineFeeds_of_blanked {v t : Text} (h : Blanked v t) :
    Text.lineFeeds v = Text.lineFeeds t := by
  induction h with
  | nil => rfl
  | @cons v c _ _ hstands _ ih =>
    unfold Text.lineFeeds at ih ⊢
    rw [List.count_cons, List.count_cons, ih]
    rcases hstands with rfl | ⟨rfl, hne⟩
    · rfl
    · rw [if_neg (by decide), if_neg (by simpa using hne)]

/-- Before a place in a view there are as many line feeds as before it in the text. -/
theorem lineFeeds_take_strip (view : View) (t : Text) (n : Nat) :
    Text.lineFeeds ((strip view t).take n) = Text.lineFeeds (t.take n) :=
  lineFeeds_of_blanked (List.forall₂_take n (strip_blanked view t))

/-- A view is as long as its text. -/
theorem length_strip (view : View) (t : Text) : (strip view t).length = t.length :=
  (strip_blanked view t).length_eq

/-- A blanked text has the same character, or a space in the place of one that ends no line. -/
theorem getElem?_of_blanked {v t : Text} (h : Blanked v t) (i : Nat) :
    v[i]? = t[i]? ∨ v[i]? = some ' ' ∧ t[i]? ≠ some '\n' := by
  induction h generalizing i with
  | nil => exact .inl rfl
  | cons hstands _ ih =>
    cases i with
    | zero =>
      rcases hstands with rfl | ⟨rfl, hne⟩
      · exact .inl rfl
      · exact .inr ⟨rfl, by simpa using hne⟩
    | succ i => simpa using ih i

/-- Line feeds stand where they stood, and nowhere else. -/
theorem lineFeed_iff_of_blanked {v t : Text} (h : Blanked v t) (i : Nat) :
    v[i]? = some '\n' ↔ t[i]? = some '\n' := by
  rcases getElem?_of_blanked h i with heq | ⟨hspace, hne⟩
  · rw [heq]
  · rw [hspace]
    exact iff_of_false (by decide) hne

/-- Every view of every text has the text's shape: the same number of characters, at each place the
character of the text or a space, line feeds at the same places, and as many of them before each place. -/
theorem strip_keeps_shape (view : View) (t : Text) :
    (strip view t).length = t.length ∧
      (∀ i : Nat, (strip view t)[i]? = t[i]? ∨ i < t.length ∧ (strip view t)[i]? = some ' ') ∧
      (∀ i : Nat, (strip view t)[i]? = some '\n' ↔ t[i]? = some '\n') ∧
      ∀ i : Nat, Text.lineFeeds ((strip view t).take i) = Text.lineFeeds (t.take i) := by
  have hblanked := strip_blanked view t
  refine ⟨length_strip view t, fun i => ?_, lineFeed_iff_of_blanked hblanked,
    lineFeeds_take_strip view t⟩
  rcases getElem?_of_blanked hblanked i with heq | ⟨hspace, -⟩
  · exact .inl heq
  · refine .inr ⟨?_, hspace⟩
    rw [← length_strip view t]
    exact (List.getElem?_eq_some_iff.1 hspace).1

/-- A literal that does not end, with an escape that has nothing to escape. -/
example : strip .code "a('b\\".toList = "a('  ".toList := by cbv

/-- What a blanked text starts with, if it has no space, is what the text starts with. -/
theorem prefix_of_blanked {v t w : Text} (h : Blanked v t) (hw : ' ' ∉ w) (hv : w <+: v) :
    w <+: t := by
  induction h generalizing w with
  | nil => exact hv
  | @cons v c vs t hstands _ ih =>
    cases w with
    | nil => exact List.nil_prefix
    | cons x w =>
      obtain ⟨rfl, hrest⟩ := List.cons_prefix_cons.1 hv
      rw [List.mem_cons, not_or] at hw
      rcases hstands with rfl | ⟨rfl, -⟩
      · exact List.cons_prefix_cons.2 ⟨rfl, ih hw.2 hrest⟩
      · exact absurd rfl hw.1

/-- What a view shows without spaces stands at the same place in the text. -/
theorem prefix_drop_of_strip {view : View} {t w : Text} {n : Nat} (hw : ' ' ∉ w)
    (h : w <+: (strip view t).drop n) : w <+: t.drop n :=
  prefix_of_blanked (List.forall₂_drop n (strip_blanked view t)) hw h

end UxLint.Source
