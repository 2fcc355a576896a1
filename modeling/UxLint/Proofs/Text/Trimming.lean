import UxLint.Text.Blank
import UxLint.Text.Digit
import UxLint.Text.Word

/-!
# Trimmed texts

Trimming takes blanks off both ends of a text and nothing else (`exists_blanks_trim`), and so it leaves a
piece without blanks alone, together with the characters next to it that are not blank
(`exists_trim_around`). No blank can stand inside an identifier.
-/

set_option autoImplicit false

namespace UxLint.Text

/-- What is settled for the code points of the blank characters is settled for all blanks. -/
theorem eq_false_of_blank {q : Char → Bool} {c : Char}
    (hall : ∀ r ∈ blankRanges, ∀ n ∈ List.range' r.1 (r.2 + 1 - r.1), q (Char.ofNat n) = false)
    (h : isBlank c = true) : q c = false := by
  unfold isBlank inRanges at h
  obtain ⟨r, hr, hc⟩ := List.any_eq_true.1 h
  simp only [Bool.and_eq_true, decide_eq_true_eq] at hc
  have hmem : c.toNat ∈ List.range' r.1 (r.2 + 1 - r.1) := by
    rw [List.mem_range'_1]
    omega
  have hfalse := hall r hr c.toNat hmem
  rwa [Char.ofNat_toNat] at hfalse

/-- No blank can stand inside an identifier. -/
theorem not_identifier_of_blank {c : Char} (h : isBlank c = true) : isIdentifier c = false := by
  apply eq_false_of_blank _ h
  decide +kernel

/-- No blank is a digit. -/
theorem not_decimal_of_blank {c : Char} (h : isBlank c = true) : isDecimal c = false := by
  apply eq_false_of_blank _ h
  decide

section DropEnd

variable {p : Char → Bool}

/-- What is dropped at the end of a text satisfies the test. -/
theorem exists_dropEndWhile (t : Text) :
    ∃ b, t = dropEndWhile p t ++ b ∧ ∀ x ∈ b, p x = true := by
  induction t with
  | nil => exact ⟨[], rfl, by simp⟩
  | cons c t ih =>
    obtain ⟨b, ht, hb⟩ := ih
    rw [dropEndWhile]
    split
    · next hnil =>
      rw [hnil] at ht
      split
      · next hc =>
        refine ⟨c :: t, rfl, fun x hx => ?_⟩
        rcases List.mem_cons.1 hx with rfl | hx
        · exact hc
        · rw [ht, List.nil_append] at hx
          exact hb x hx
      · exact ⟨b, congrArg (c :: ·) ht, hb⟩
    · exact ⟨b, congrArg (c :: ·) ht, hb⟩

/-- What stops at the end of a text keeps all in front of it. -/
theorem dropEndWhile_append {t : Text} (s : Text) (ht : dropEndWhile p t ≠ []) :
    dropEndWhile p (s ++ t) = s ++ dropEndWhile p t := by
  induction s with
  | nil => rfl
  | cons c s ih =>
    rw [List.cons_append, dropEndWhile, ih]
    cases hst : s ++ dropEndWhile p t with
    | nil => exact absurd (List.append_eq_nil_iff.1 hst).2 ht
    | cons d rest =>
      dsimp only
      rw [← hst]
      rfl

/-- A character in front of what is kept is kept. -/
theorem dropEndWhile_cons_of_ne_nil {t : Text} {c : Char} (h : dropEndWhile p t ≠ []) :
    dropEndWhile p (c :: t) = c :: dropEndWhile p t := by
  rw [dropEndWhile]
  split
  · next hnil => exact absurd hnil h
  · rfl

/-- A character that is not dropped is kept. -/
theorem dropEndWhile_cons_of_not {c : Char} (h : p c = false) (t : Text) :
    dropEndWhile p (c :: t) = c :: dropEndWhile p t := by
  rw [dropEndWhile]
  split
  · next hnil => rw [hnil, h, if_neg (by decide)]
  · rfl

/-- What is dropped as a whole may stand at the end. -/
theorem dropEndWhile_append_of_all {b : Text} (hb : ∀ x ∈ b, p x = true) (t : Text) :
    dropEndWhile p (t ++ b) = dropEndWhile p t := by
  induction t with
  | nil =>
    induction b with
    | nil => rfl
    | cons c b ih =>
      have hrest : dropEndWhile p b = [] := ih fun x hx => hb x (List.mem_cons_of_mem c hx)
      change dropEndWhile p (c :: b) = []
      rw [dropEndWhile, hrest]
      exact if_pos (hb c List.mem_cons_self)
  | cons c t ih => rw [List.cons_append, dropEndWhile, ih, dropEndWhile]

/-- A text that ends in what is not dropped is kept. -/
theorem dropEndWhile_eq_self {t : Text} (h : ∀ x ∈ t.getLast?, p x = false) : dropEndWhile p t = t := by
  induction t with
  | nil => rfl
  | cons c t ih =>
    cases t with
    | nil => exact dropEndWhile_cons_of_not (h c rfl) []
    | cons d t =>
      have hrest := ih h
      rw [dropEndWhile_cons_of_ne_nil (by rw [hrest]; exact List.cons_ne_nil d t), hrest]

/-- Nothing is dropped behind a character that does not satisfy the test. -/
theorem exists_dropEndWhile_cons {c : Char} (hc : p c = false) (t : Text) :
    ∃ t', dropEndWhile p (c :: t) = c :: t' ∧ ∃ b, t = t' ++ b ∧ ∀ x ∈ b, p x = true := by
  obtain ⟨b, ht, hb⟩ := exists_dropEndWhile (p := p) t
  exact ⟨dropEndWhile p t, dropEndWhile_cons_of_not hc t, b, ht, hb⟩

end DropEnd

/-- A text is its trimmed middle between blanks. -/
theorem exists_blanks_trim (t : Text) :
    ∃ b b', t = b ++ trim t ++ b' ∧ (∀ x ∈ b, isBlank x = true) ∧ ∀ x ∈ b', isBlank x = true := by
  obtain ⟨b', hend, hb'⟩ := exists_dropEndWhile (p := isBlank) (trimStart t)
  refine ⟨t.takeWhile isBlank, b', ?_, ?_, hb'⟩
  · rw [List.append_assoc]
    change t = t.takeWhile isBlank ++ (dropEndWhile isBlank (trimStart t) ++ b')
    rw [← hend]
    exact List.takeWhile_append_dropWhile.symm
  · intro x hx
    exact List.all_eq_true.1 List.all_takeWhile x hx

/-- A text that starts and ends with no blank is what is left of it between blanks. -/
theorem trim_between {b b' t : Text} (hb : ∀ x ∈ b, isBlank x = true) (hb' : ∀ x ∈ b', isBlank x = true)
    (hhead : ∀ x ∈ t.head?, isBlank x = false) (hlast : ∀ x ∈ t.getLast?, isBlank x = false) :
    trim (b ++ t ++ b') = t := by
  cases t with
  | nil =>
    have hstart : trimStart (b ++ [] ++ b') = [] := by
      rw [List.append_nil, trimStart, List.dropWhile_append_of_pos hb]
      have hall : (b' ++ []).dropWhile isBlank = [].dropWhile isBlank := List.dropWhile_append_of_pos hb'
      rwa [List.append_nil] at hall
    rw [trim, hstart]
    rfl
  | cons c t =>
    have hstart : trimStart (b ++ (c :: t ++ b')) = c :: t ++ b' := by
      unfold trimStart
      rw [List.dropWhile_append_of_pos hb, List.cons_append,
        List.dropWhile_cons_of_neg (by rw [hhead c rfl]; decide)]
    rw [List.append_assoc, trim, hstart, trimEnd, dropEndWhile_append_of_all hb',
      dropEndWhile_eq_self hlast]

/-- A text without blanks at its ends is kept. -/
theorem trim_eq_self {t : Text} (hhead : ∀ x ∈ t.head?, isBlank x = false)
    (hlast : ∀ x ∈ t.getLast?, isBlank x = false) : trim t = t := by
  have h : trim ([] ++ t ++ []) = t := trim_between (by simp) (by simp) hhead hlast
  rwa [List.nil_append, List.append_nil] at h

/-- What is no blank is not trimmed off. -/
theorem mem_trim {t : Text} {c : Char} (hc : c ∈ t) (hblank : isBlank c = false) : c ∈ trim t := by
  obtain ⟨b, b', ht, hb, hb'⟩ := exists_blanks_trim t
  rw [ht, List.mem_append, List.mem_append] at hc
  rcases hc with (hc | hc) | hc
  · rw [hb c hc] at hblank
    cases hblank
  · exact hc
  · rw [hb' c hc] at hblank
    cases hblank

/-- Trimming leaves a piece without blanks where it is, and only takes blanks off what is around it. -/
theorem exists_trim_around {f : Text} (hf : f ≠ []) (hblank : ∀ x ∈ f, isBlank x = false)
    (s t : Text) :
    ∃ s' t', trim (s ++ f ++ t) = s' ++ f ++ t' ∧ s' <:+ s ∧ t' <+: t := by
  obtain ⟨c, e, rfl⟩ := List.exists_cons_of_ne_nil hf
  have hc : isBlank c = false := hblank c List.mem_cons_self
  have hstart : trimStart (s ++ (c :: e ++ t)) = s.dropWhile isBlank ++ (c :: e ++ t) := by
    unfold trimStart
    rw [List.dropWhile_append]
    split
    · next hnil =>
      rw [List.isEmpty_iff.1 hnil, List.cons_append, List.dropWhile_cons_of_neg (by simp [hc])]
      rfl
    · rfl
  -- The last character of the piece holds what is before it.
  obtain ⟨i, l, hlast⟩ : ∃ i l, c :: e = i ++ [l] :=
    ⟨_, _, (List.dropLast_concat_getLast (List.cons_ne_nil c e)).symm⟩
  have hl : isBlank l = false := hblank l (by rw [hlast]; simp)
  obtain ⟨t', hdrop, b, ht, -⟩ := exists_dropEndWhile_cons hl t
  refine ⟨s.dropWhile isBlank, t', ?_, List.dropWhile_suffix isBlank, ⟨b, ht.symm⟩⟩
  rw [List.append_assoc, trim, hstart, trimEnd, hlast, List.append_assoc i, List.singleton_append,
    ← List.append_assoc, dropEndWhile_append _ (by rw [hdrop]; exact List.cons_ne_nil _ _), hdrop]
  simp

end UxLint.Text
