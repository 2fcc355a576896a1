import UxLint.Text.Search

/-!
# Pieces between separators

A text falls into at least one piece. What stands behind the last separator is the last piece
(`lastPiece_append_cons`), and a text without separators is its own only piece. The pieces in front
of the last one are those between two separators (`mem_dropLast_pieces_iff`).
-/

set_option autoImplicit false

namespace UxLint.Text

variable {sep : Char} {t x : Text}

/-- A text without separators is one piece. -/
theorem pieces_of_not_mem (h : sep ∉ t) : pieces sep t = [t] := by
  induction t with
  | nil => rfl
  | cons c t ih =>
    rw [List.mem_cons, not_or] at h
    rw [pieces, if_neg (by simpa using Ne.symm h.1), ih h.2]

/-- The pieces of a text with a separator: those before it, the last of them perhaps cut short by it, and
those behind it. -/
theorem exists_pieces_append (sep : Char) (p t : Text) :
    ∃ q qs, pieces sep (p ++ sep :: t) = q :: qs ++ pieces sep t := by
  induction p with
  | nil => exact ⟨[], [], by simp [pieces]⟩
  | cons c p ih =>
    obtain ⟨q, qs, hpieces⟩ := ih
    rw [List.cons_append, pieces, hpieces]
    by_cases hc : (c == sep) = true
    · exact ⟨[], q :: qs, by simp [hc]⟩
    · exact ⟨c :: q, qs, by simp [hc]⟩

/-- A text without separators is its last piece. -/
theorem lastPiece_of_not_mem (h : sep ∉ t) : lastPiece sep t = t := by
  rw [lastPiece, pieces_of_not_mem h]
  rfl

/-- The last piece stands behind the last separator. -/
theorem lastPiece_append_cons (p : Text) (h : sep ∉ x) : lastPiece sep (p ++ sep :: x) = x := by
  obtain ⟨q, qs, hpieces⟩ := exists_pieces_append sep p x
  rw [lastPiece, hpieces, pieces_of_not_mem h, List.getLast?_concat]
  rfl

/-- A text with a separator is cut at the last one. -/
theorem exists_lastPiece (h : sep ∈ t) : ∃ p, t = p ++ sep :: lastPiece sep t ∧ sep ∉ lastPiece sep t := by
  obtain ⟨x, p, ht, hx⟩ : ∃ x p, t = p ++ sep :: x ∧ sep ∉ x := by
    obtain ⟨p, x, hreverse, hp⟩ := List.eq_append_cons_of_mem (List.mem_reverse.2 h)
    refine ⟨p.reverse, x.reverse, ?_, by simpa using hp⟩
    rw [← List.reverse_reverse t, hreverse]
    simp
  have hlast : lastPiece sep t = x := by rw [ht, lastPiece_append_cons p hx]
  exact ⟨p, by rw [hlast]; exact ht, by rw [hlast]; exact hx⟩

/-- The last piece holds no separator. -/
theorem not_mem_lastPiece (sep : Char) (t : Text) : sep ∉ lastPiece sep t := by
  by_cases h : sep ∈ t
  · obtain ⟨-, -, hlast⟩ := exists_lastPiece h
    exact hlast
  · rwa [lastPiece_of_not_mem h]

/-- Every text has a piece. -/
theorem pieces_ne_nil (sep : Char) (t : Text) : pieces sep t ≠ [] := by
  cases t with
  | nil => simp [pieces]
  | cons c t =>
    rw [pieces]
    split
    · simp
    · split <;> simp

/-- What stands in front of a separator does not change the last piece. -/
theorem lastPiece_append (p t : Text) : lastPiece sep (p ++ sep :: t) = lastPiece sep t := by
  obtain ⟨q, qs, hpieces⟩ := exists_pieces_append sep p t
  obtain ⟨x, hx⟩ := Option.isSome_iff_exists.1 (List.getLast?_isSome.2 (pieces_ne_nil sep t))
  rw [lastPiece, lastPiece, hpieces, List.getLast?_append, hx, Option.some_or]

/-- The last piece is an ending of the text. -/
theorem lastPiece_suffix (sep : Char) (t : Text) : lastPiece sep t <:+ t := by
  by_cases h : sep ∈ t
  · obtain ⟨p, ht, -⟩ := exists_lastPiece h
    exact ⟨p ++ [sep], by rw [List.append_assoc]; exact ht.symm⟩
  · exact (lastPiece_of_not_mem h).symm ▸ List.suffix_refl t

/-- A piece without separators in front of a separator is the first one. -/
theorem pieces_append_cons (h : sep ∉ x) (t : Text) : pieces sep (x ++ sep :: t) = x :: pieces sep t := by
  induction x with
  | nil => simp [pieces]
  | cons c x ih =>
    rw [List.mem_cons, not_or] at h
    rw [List.cons_append, pieces, if_neg (by simpa using Ne.symm h.1), ih h.2]

/-- The pieces in front of the last one are those that stand between two separators, where one more
separator is taken to stand in front of the text. -/
theorem mem_dropLast_pieces_iff :
    x ∈ (pieces sep t).dropLast ↔ sep ∉ x ∧ sep :: x ++ [sep] <:+: sep :: t := by
  constructor
  · -- the text is cut at its first separator, and what is behind the cut is shorter
    induction hn : t.length using Nat.strongRecOn generalizing t with
    | ind n ih =>
      intro hx
      by_cases hsep : sep ∈ t
      · obtain ⟨first, u, rfl, hfirst⟩ := List.eq_append_cons_of_mem hsep
        rw [pieces_append_cons hfirst, List.dropLast_cons_of_ne_nil (pieces_ne_nil sep u),
          List.mem_cons] at hx
        rcases hx with rfl | hx
        · exact ⟨hfirst, [], u, by simp⟩
        · have hu : u.length < n := by
            rw [← hn, List.length_append, List.length_cons]
            omega
          obtain ⟨hnot, hinfix⟩ := ih u.length hu rfl hx
          exact ⟨hnot, hinfix.trans (List.suffix_append (sep :: first) (sep :: u)).isInfix⟩
      · rw [pieces_of_not_mem hsep] at hx
        cases hx
  · rintro ⟨hx, before, behind, heq⟩
    cases before with
    | nil =>
      have ht : t = x ++ sep :: behind := by simpa using heq.symm
      rw [ht, pieces_append_cons hx, List.dropLast_cons_of_ne_nil (pieces_ne_nil sep behind)]
      exact List.mem_cons_self
    | cons c before =>
      have ht : t = before ++ sep :: (x ++ sep :: behind) := by
        have := (List.cons.inj heq).2
        simpa using this.symm
      obtain ⟨q, qs, hpieces⟩ := exists_pieces_append sep before (x ++ sep :: behind)
      rw [ht, hpieces, pieces_append_cons hx, List.dropLast_append_of_ne_nil (by simp),
        List.dropLast_cons_of_ne_nil (pieces_ne_nil sep behind)]
      exact List.mem_append_right _ List.mem_cons_self

end UxLint.Text
