import UxLint.Proofs.Source.Scanning

/-!
# Texts that are cut alike

The scan of a script looks for a few marks only: quotes, slashes, asterisks, backslashes and line feeds. A
revision of a text changes characters that a view does not show, takes away no mark but a quote, and adds
none. Every cut of the scan then stays where it is: before a line feed (`cutLine_revised`), behind a closing
piece (`cutBehind_revised`) and behind a literal (`cutLiteral_revised`). A quote may go because only an
escaped quote, or one of another kind, is blanked inside a literal.
-/

set_option autoImplicit false

namespace UxLint.Source

/-! ## Marks -/

/-- Whether the scan of a script looks for a character. -/
def isMark (c : Char) : Bool :=
  isQuote c || c == '/' || c == '*' || c == '\\' || c == '\n'

/-- A quotation mark is a mark. -/
theorem isMark_of_isQuote {c : Char} (h : isQuote c = true) : isMark c = true := by
  simp [isMark, h]

/-- A character in place of another: the same one, or one that is no mark for one that is no mark but
possibly a quote. -/
def Alike (c d : Char) : Prop := d = c ∨ isMark d = false ∧ (isMark c = true → isQuote c = true)

/-- A character is like itself. -/
theorem Alike.refl (c : Char) : Alike c c := .inl rfl

/-- No mark is new. -/
theorem Alike.eq_of_isMark {c d : Char} (h : Alike c d) (hd : isMark d = true) : d = c := by
  rcases h with rfl | ⟨hnew, -⟩
  · rfl
  · rw [hd] at hnew
    cases hnew

/-- No mark but a quote goes. -/
theorem Alike.eq_iff {c d k : Char} (h : Alike c d) (hk : isMark k = true) (hq : isQuote k = false) :
    d = k ↔ c = k := by
  constructor
  · rintro rfl
    exact (h.eq_of_isMark hk).symm
  · rintro rfl
    rcases h with rfl | ⟨-, hold⟩
    · rfl
    · rw [hold hk] at hq
      cases hq

/-- Of characters that are alike, both are line feeds or none is. -/
theorem Alike.lineFeed_iff {c d : Char} (h : Alike c d) : d = '\n' ↔ c = '\n' :=
  h.eq_iff (by decide) (by decide)

/-- Characters that are alike are blanked alike. -/
theorem Alike.blankChar_eq {c d : Char} (h : Alike c d) : blankChar d = blankChar c := by
  simp [blankChar, h.lineFeed_iff]

/-- Texts that are alike are blanked alike. -/
theorem blank_eq_of_alike {t s : Text} (h : List.Forall₂ Alike t s) : blank s = blank t := by
  induction h with
  | nil => rfl
  | cons hcd _ ih =>
    simp only [blank, List.map_cons] at ih ⊢
    rw [hcd.blankChar_eq, ih]

/-- Whether two texts both are empty, both start with a line feed, or neither. -/
def SameStart : Text → Text → Prop
  | [], [] => True
  | c :: _, d :: _ => d = '\n' ↔ c = '\n'
  | _, _ => False

/-- What starts like the empty text is empty. -/
theorem SameStart.of_nil {s : Text} (h : SameStart [] s) : s = [] := by
  cases s with
  | nil => rfl
  | cons d s => exact h.elim

/-- What starts like a text with a first character has one, too. -/
theorem SameStart.of_cons {c : Char} {t s : Text} (h : SameStart (c :: t) s) :
    ∃ d s', s = d :: s' ∧ (d = '\n' ↔ c = '\n') := by
  cases s with
  | nil => exact h.elim
  | cons d s => exact ⟨d, s, rfl, h⟩

/-- Texts that are alike start alike. -/
theorem sameStart_of_alike {t s : Text} (h : List.Forall₂ Alike t s) : SameStart t s := by
  cases h with
  | nil => trivial
  | cons hcd _ => exact hcd.lineFeed_iff

/-! ## Revisions -/

/-- A revision of a text under a view: characters that the view does not show are changed, no mark but a
quote goes, and no mark is new. -/
inductive Revision : Text → Text → Text → Prop
  | nil : Revision [] [] []
  | keep (v c : Char) {view t s : Text} (rest : Revision view t s) :
    Revision (v :: view) (c :: t) (c :: s)
  | change {v c d : Char} {view t s : Text} (hidden : v ≠ c)
    (old : isMark c = true → isQuote c = true) (new : isMark d = false)
    (rest : Revision view t s) : Revision (v :: view) (c :: t) (d :: s)

namespace Revision

/-- A text is a revision of itself. -/
theorem refl {view t : Text} (h : view.length = t.length) : Revision view t t := by
  induction t generalizing view with
  | nil =>
    rw [List.length_eq_zero_iff.1 h]
    exact .nil
  | cons c t ih =>
    cases view with
    | nil => cases h
    | cons v view => exact .keep v c (ih (Nat.succ.inj h))

/-- One character that the view does not show may be changed. -/
theorem set {view t : Text} {i : Nat} {c d : Char} (hlength : view.length = t.length)
    (hc : t[i]? = some c) (hidden : view[i]? ≠ some c) (old : isMark c = true → isQuote c = true)
    (new : isMark d = false) : Revision view t (t.set i d) := by
  induction t generalizing view i with
  | nil => cases hc
  | cons b t ih =>
    cases view with
    | nil => cases hlength
    | cons v view =>
      have hrest : view.length = t.length := Nat.succ.inj hlength
      cases i with
      | zero =>
        cases hc
        exact .change (by simpa using hidden) old new (refl hrest)
      | succ i => exact .keep v b (ih hrest (by simpa using hc) (by simpa using hidden))

/-- A revision is like the text that it revises. -/
theorem alike {view t s : Text} (h : Revision view t s) : List.Forall₂ Alike t s := by
  induction h with
  | nil => exact .nil
  | keep _ c _ ih => exact .cons (.refl c) ih
  | change _ old new _ ih => exact .cons (.inr ⟨new, old⟩) ih

/-- A revision of a text in two parts is made of a revision of each. -/
theorem split {v w x y t s : Text} (happend : x ++ y = t) (hlength : v.length = x.length)
    (h : Revision (v ++ w) t s) : ∃ x' y', s = x' ++ y' ∧ Revision v x x' ∧ Revision w y y' := by
  subst happend
  induction x generalizing v s with
  | nil =>
    rw [List.length_eq_zero_iff.1 hlength] at h ⊢
    exact ⟨[], s, rfl, .nil, h⟩
  | cons c x ih =>
    cases v with
    | nil => cases hlength
    | cons a v =>
      have hrest : v.length = x.length := Nat.succ.inj hlength
      cases h with
      | keep _ _ rest =>
        obtain ⟨x', y', rfl, hx, hy⟩ := ih hrest rest
        exact ⟨c :: x', y', rfl, .keep a c hx, hy⟩
      | change hidden old new rest =>
        obtain ⟨x', y', rfl, hx, hy⟩ := ih hrest rest
        exact ⟨_ :: x', y', rfl, .change hidden old new hx, hy⟩

/-- A character that the view shows stays. -/
theorem shown {c : Char} {view t s : Text} (h : Revision (c :: view) (c :: t) s) :
    ∃ s', s = c :: s' ∧ Revision view t s' := by
  cases h with
  | keep _ _ rest => exact ⟨_, rfl, rest⟩
  | change hidden _ _ _ => exact absurd rfl hidden

/-- A mark that is no quote stays. -/
theorem mark {v c : Char} {view t s : Text} (h : Revision (v :: view) (c :: t) s)
    (hc : isMark c = true) (hq : isQuote c = false) : ∃ s', s = c :: s' ∧ Revision view t s' := by
  cases h with
  | keep _ _ rest => exact ⟨_, rfl, rest⟩
  | change _ old _ _ =>
    rw [old hc] at hq
    cases hq

variable {quote : Char}

/-- Behind its first character, too, the inside of a literal is revised as its view tells. -/
theorem tail_literal {c d : Char} {x x' : Text}
    (h : Revision (blankLiteral quote (c :: x)) (c :: x) (d :: x')) :
    Revision (blankLiteral quote x) x x' := by
  have hrest : ∃ v, Revision (v :: blankLiteral quote x) (c :: x) (d :: x') := by
    by_cases hx : x = []
    · subst hx
      have hlength : (blankLiteral quote [c]).length = 1 := length_blankLiteral [c]
      obtain ⟨v, hv⟩ := List.length_eq_one_iff.1 hlength
      rw [hv] at h
      exact ⟨v, h⟩
    · rw [blankLiteral_cons c hx] at h
      exact ⟨_, h⟩
  obtain ⟨v, h⟩ := hrest
  cases h with
  | keep _ _ rest => exact rest
  | change _ _ _ rest => exact rest

/-- The view of a revised inside of a literal is that of the inside. -/
theorem blankLiteral_eq (hq : isQuote quote = true) {x x' : Text}
    (h : Revision (blankLiteral quote x) x x') : blankLiteral quote x' = blankLiteral quote x := by
  induction x generalizing x' with
  | nil =>
    cases h.alike
    rfl
  | cons c x ih =>
    cases h.alike with
    | @cons _ d _ x' hcd hrest =>
      have htail := ih h.tail_literal
      by_cases hx : x = []
      · -- A last character that is the quote is shown, and so it is still the quote.
        subst hx
        cases hrest
        by_cases hc : c = quote
        · subst hc
          rw [blankLiteral_close] at h
          obtain ⟨s', hs, -⟩ := h.shown
          obtain ⟨rfl, rfl⟩ := List.cons.inj hs
          rfl
        · have hd : d ≠ quote := by
            rintro rfl
            exact hc (hcd.eq_of_isMark (isMark_of_isQuote hq)).symm
          rw [blankLiteral_other hc, blankLiteral_other hd, hcd.blankChar_eq]
      · have hx' : x' ≠ [] := by
          rintro rfl
          cases hrest
          exact hx rfl
        rw [blankLiteral_cons c hx, blankLiteral_cons d hx', hcd.blankChar_eq, htail]

end Revision

/-! ## Cuts -/

/-- The cut before a line feed stays where it is. -/
theorem cutLine_revised {t x' y' : Text} (hx : List.Forall₂ Alike (cutLine t).1 x')
    (hy : SameStart (cutLine t).2 y') : cutLine (x' ++ y') = (x', y') := by
  induction t generalizing x' with
  | nil =>
    cases hx
    rw [hy.of_nil]
    rfl
  | cons c t ih =>
    by_cases hc : c = '\n'
    · subst hc
      rw [cutLine_lineFeed] at hx hy
      cases hx
      obtain ⟨d, s, rfl, hd⟩ := hy.of_cons
      rw [hd.2 rfl]
      rfl
    · rw [cutLine_other hc] at hx hy
      cases hx with
      | cons hcd hx =>
        rw [List.cons_append, cutLine_other (mt hcd.lineFeed_iff.1 hc), ih hx hy]

/-- A piece made of marks other than quotes stands at the start of both or of neither. -/
theorem isPrefixOf_of_alike {piece t s : Text}
    (hpiece : ∀ k ∈ piece, isMark k = true ∧ isQuote k = false) (h : List.Forall₂ Alike t s) :
    piece.isPrefixOf s = piece.isPrefixOf t := by
  induction h generalizing piece with
  | nil => rfl
  | @cons c d _ _ hcd _ ih =>
    cases piece with
    | nil => rfl
    | cons k piece =>
      obtain ⟨hk, hpiece⟩ := List.forall_mem_cons.1 hpiece
      have hhead : (k == d) = (k == c) := by
        rw [Bool.eq_iff_iff, beq_iff_eq, beq_iff_eq, eq_comm, hcd.eq_iff hk.1 hk.2, eq_comm]
      rw [List.isPrefixOf, List.isPrefixOf, hhead, ih hpiece]

/-- A text and another one that is alike are cut behind equally many characters. -/
theorem length_cutBehind_of_alike {close t s : Text}
    (hclose : ∀ k ∈ close, isMark k = true ∧ isQuote k = false) (h : List.Forall₂ Alike t s) :
    (cutBehind close s).1.length = (cutBehind close t).1.length := by
  induction h with
  | nil => rfl
  | @cons c d t s hcd hrest ih =>
    have hprefix := isPrefixOf_of_alike hclose (List.Forall₂.cons hcd hrest)
    rw [cutBehind, cutBehind, hprefix]
    split
    · simp [hrest.length_eq]
    · simp [ih]

/-- The cut behind a closing piece stays where it is. -/
theorem cutBehind_revised {close t x' y' : Text}
    (hclose : ∀ k ∈ close, isMark k = true ∧ isQuote k = false)
    (hx : List.Forall₂ Alike (cutBehind close t).1 x')
    (hy : List.Forall₂ Alike (cutBehind close t).2 y') : cutBehind close (x' ++ y') = (x', y') := by
  have hall : List.Forall₂ Alike t (x' ++ y') := by
    rw [← cutBehind_append close t]
    exact List.rel_append hx hy
  have hlength : (cutBehind close (x' ++ y')).1.length = x'.length := by
    rw [length_cutBehind_of_alike hclose hall, hx.length_eq]
  obtain ⟨hfirst, hsecond⟩ := List.append_inj (cutBehind_append close (x' ++ y')) hlength
  exact Prod.ext hfirst hsecond

section Literals

variable {quote : Char}

/-- Where a literal ends before a line feed, it ends there as long as the line feed stands there. -/
theorem cutLiteral_nil_revised (hq : isQuote quote = true) {c : Char} {t y' : Text}
    (hfeed : (c == '\n' && quote != '\x60') = true) (hy : SameStart (c :: t) y') :
    cutLiteral quote y' = ([], y') := by
  simp only [Bool.and_eq_true, beq_iff_eq, bne_iff_ne] at hfeed
  obtain ⟨d, s, rfl, hd⟩ := hy.of_cons
  rw [hd.2 hfeed.1]
  exact cutLiteral_lineFeed hq hfeed.2 s

/-- What is put in place of a character that neither escapes the next one nor ends the literal does neither
of it. -/
theorem cutLiteral_cons_revised (hq : isQuote quote = true) {c d : Char} (hcd : Alike c d)
    (hescape : ¬(c == '\\') = true) (hclose : ¬(c == quote) = true)
    (hfeed : ¬(c == '\n' && quote != '\x60') = true) (s : Text) :
    cutLiteral quote (d :: s) = (d :: (cutLiteral quote s).1, (cutLiteral quote s).2) := by
  simp only [Bool.and_eq_true, beq_iff_eq, bne_iff_ne, not_and, not_not] at hescape hclose hfeed
  refine cutLiteral_inside ?_ ?_ ?_ s
  · exact mt (hcd.eq_iff (by decide) (by decide)).1 hescape
  · rintro rfl
    exact hclose (hcd.eq_of_isMark (isMark_of_isQuote hq)).symm
  · exact fun hd => hfeed (hcd.lineFeed_iff.1 hd)

/-- The cut behind a literal stays where it is. -/
theorem cutLiteral_revised (hq : isQuote quote = true) {t x' y' : Text}
    (hx : Revision (blankLiteral quote (cutLiteral quote t).1) (cutLiteral quote t).1 x')
    (hy : SameStart (cutLiteral quote t).2 y') : cutLiteral quote (x' ++ y') = (x', y') := by
  -- The cut is made where the scan of the literal stops; the steps before it are the same in both texts.
  fun_induction cutLiteral quote t generalizing x' with
  | case1 =>
    cases hx.alike
    rw [hy.of_nil]
    rfl
  | case2 c hfeed =>
    cases hx.alike
    exact cutLiteral_nil_revised hq hfeed hy
  | case3 c hfeed =>
    rw [hy.of_nil]
    cases hx.alike with
    | @cons _ d _ _ hcd hnil =>
      cases hnil
      have hfeed' : ¬(d == '\n' && quote != '\x60') = true := by
        simpa [hcd.lineFeed_iff] using hfeed
      exact if_neg hfeed'
  | case4 c d t hescape r =>
    rename_i ih
    obtain rfl : c = '\\' := by simpa using hescape
    cases hx.alike with
    | @cons _ c' _ _ hc hrest =>
      obtain rfl : c' = '\\' := (hc.eq_iff (by decide) (by decide)).2 rfl
      cases hrest with
      | @cons _ d' _ x' _ _ =>
        have hcut := ih hx.tail_literal.tail_literal hy
        rw [List.cons_append, List.cons_append, cutLiteral_escape, hcut]
  | case5 c d t hescape hclose =>
    obtain rfl : c = quote := by simpa using hclose
    rw [blankLiteral_close] at hx
    obtain ⟨s, rfl, hnil⟩ := hx.shown
    cases hnil
    exact cutLiteral_close hq y'
  | case6 c d t hescape hclose hfeed =>
    cases hx.alike
    exact cutLiteral_nil_revised hq hfeed hy
  | case7 c d t hescape hclose hfeed r =>
    rename_i ih
    cases hx.alike with
    | @cons _ c' _ x' hc _ =>
      have hcut := ih hx.tail_literal hy
      rw [List.cons_append, cutLiteral_cons_revised hq hc hescape hclose hfeed, hcut]

end Literals

end UxLint.Source
