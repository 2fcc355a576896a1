import UxLint.Proofs.Pattern.Fitting

/-!
# The first reading of a pattern

Which of several readings a search takes is settled by the order in which `run` tries them. A reading leads
if it is the one that is tried first: whatever accepts its end makes `run` stop there (`Leads`). The first
reading of a pattern made of parts is put together from those of its parts, and a repetition stops where its
pattern fits nothing (`Refuses`). With it a match is known together with the pieces that it remembers
(`matchAt?_of_leads`), and so are all matches of a scan, one after the other (`allFrom_match`,
`allFrom_skip`, `allFrom_end`).
-/

set_option autoImplicit false

namespace UxLint.Pattern

/-- The place between two parts of a text, with some pieces remembered. -/
def Cursor.between (u r : Text) (ks : List Capture) : Cursor :=
  { Cursor.start r with before := lastOf none u, offset := u.length, captures := ks }

/-- The last character of a text that a character was added to is that character. -/
theorem lastOf_concat (before : Option Char) (u : Text) (x : Char) :
    lastOf before (u ++ [x]) = some x := by
  rw [lastOf_append]
  rfl

namespace Cursor

variable (u v r : Text) (ks : List Capture)

/-- At the start all of the text is behind the cursor. -/
theorem start_eq (t : Text) : Cursor.start t = between [] t [] := rfl

/-- The offset of a place counts the text in front of it. -/
@[simp] theorem offset_between : (between u r ks).offset = u.length := rfl

/-- Behind a place stands the rest of the text. -/
@[simp] theorem rest_between : (between u r ks).rest = r := rfl

/-- Before a place stands the last character of the text in front of it. -/
@[simp] theorem before_between : (between u r ks).before = lastOf none u := rfl

/-- As many characters are left as the rest has. -/
@[simp] theorem left_between : (between u r ks).left = r.length := rfl

/-- What is remembered at a place. -/
@[simp] theorem captures_between : (between u r ks).captures = ks := rfl

/-- A place may forget what was remembered. -/
theorem forget_between : { between u r ks with captures := [] } = between u r [] := rfl

/-- A place remembers one more piece. -/
theorem remember_between (k : Capture) : (between u r ks).remember k = between u r (k :: ks) := rfl

/-- A step takes the first character of the rest to the text in front. -/
theorem next?_between_cons (x : Char) :
    (between u (x :: r) ks).next? = some (x, between (u ++ [x]) r ks) := by
  have hlength : (u ++ [x]).length = u.length + 1 := List.length_append
  unfold between
  rw [lastOf_concat, hlength]
  rfl

end Cursor

open Cursor (between)

/-- The first reading that is tried from a place ends at another one. -/
structure Leads (p : Pattern) (c d : Cursor) : Prop where
  run_eq : ∀ {α : Type} (accept : Cursor → Option α), (accept d).isSome = true →
    p.run c accept = accept d

/-- A pattern fits no piece that starts behind `before` in the text `rest`. -/
def Refuses (p : Pattern) (before : Option Char) (rest : Text) : Prop :=
  ∀ w r, rest = w ++ r → ¬ Fits p before w r

variable {p a b : Pattern} {c d e : Cursor} {q : Char → Bool} {u v w r t : Text} {ks ks' : List Capture}

/-- A pattern that refuses a place yields nothing there. -/
theorem Refuses.run_eq_none {α : Type} (h : Refuses p c.before c.rest) (accept : Cursor → Option α) :
    p.run c accept = none := by
  cases hrun : p.run c accept with
  | none => rfl
  | some x =>
    obtain ⟨d, hreads, -⟩ := exists_reads p c accept x hrun
    obtain ⟨w, hw, hfits⟩ := hreads.exists_fits
    exact absurd hfits (h w d.rest hw.rest)

/-- A class refuses a place behind which none of its characters stands. -/
theorem refuses_one {before : Option Char} (h : ∀ x ∈ r.head?, q x = false) :
    Refuses (one q) before r := by
  rintro w r' rfl hfits
  obtain ⟨x, rfl, hx⟩ := fits_one_iff.1 hfits
  rw [h x rfl] at hx
  cases hx

/-! ## First readings -/

namespace Leads

/-- The empty pattern leads nowhere else. -/
theorem nothing (c : Cursor) : Leads nothing c c := by
  constructor
  intro α accept _
  rw [run]

/-- A class leads over a character of its own. -/
theorem one {x : Char} (hx : q x = true) :
    Leads (one q) (between u (x :: r) ks) (between (u ++ [x]) r ks) := by
  constructor
  intro α accept _
  rw [run, Cursor.next?_between_cons]
  dsimp only
  rw [if_pos hx]

/-- A test that holds leads nowhere else. -/
theorem look {test : Option Char → Text → Bool} (h : test c.before c.rest = true) :
    Leads (look test) c c := by
  constructor
  intro α accept _
  rw [run, if_pos h]

/-- Two patterns lead where the second one leads from where the first one led. -/
theorem both (hfirst : Leads a c d) (hsecond : Leads b d e) : Leads (both a b) c e := by
  constructor
  intro α accept haccept
  have hrest := hsecond.run_eq accept haccept
  rw [run, hfirst.run_eq _ (by rw [hrest]; exact haccept), hrest]

/-- A choice leads where its left side does. -/
theorem left (h : Leads a c d) : Leads (either a b) c d := by
  constructor
  intro α accept haccept
  obtain ⟨x, hx⟩ := Option.isSome_iff_exists.1 haccept
  rw [run, h.run_eq accept haccept, hx]

/-- A choice leads where its right side does if the left side is refused. -/
theorem right (hleft : Refuses a c.before c.rest) (h : Leads b c d) : Leads (either a b) c d := by
  constructor
  intro α accept haccept
  rw [run, hleft.run_eq_none, h.run_eq accept haccept]

/-- A repetition ends where its pattern fits nothing. -/
theorem stop (h : Refuses a c.before c.rest) : Leads (star a) c c := by
  constructor
  intro α accept _
  rw [star, run_greedy, h.run_eq_none]

/-- A repetition leads where it leads from behind one more piece. -/
theorem more (h : Leads a c d) (hshorter : d.left < c.left) (hrest : Leads (star a) d e) :
    Leads (star a) c e := by
  constructor
  intro α accept haccept
  obtain ⟨x, hx⟩ := Option.isSome_iff_exists.1 haccept
  have hgo := hrest.run_eq accept haccept
  rw [star] at hgo ⊢
  rw [run_greedy, h.run_eq _ (by rw [if_pos hshorter, hgo]; exact haccept), if_pos hshorter, hgo, hx]

/-- A pattern that is remembered leads to the same place, with the piece remembered. -/
theorem capture {number : Nat} (h : Leads a (between u (w ++ r) ks) (between (u ++ w) r ks')) :
    Leads (capture number a) (between u (w ++ r) ks)
      (between (u ++ w) r (⟨number, u.length, w.length, w ++ r⟩ :: ks')) := by
  constructor
  intro α accept haccept
  have hlength : (u ++ w).length - u.length = w.length := by simp
  rw [run, h.run_eq]
  · simp only [Cursor.offset_between, Cursor.rest_between, hlength, Cursor.remember_between]
  · simp only [Cursor.offset_between, Cursor.rest_between, hlength, Cursor.remember_between]
    exact haccept

/-- A greedy repetition of one class goes on over all characters of the class. -/
theorem star_one (hw : ∀ x ∈ w, q x = true) (hr : ∀ x ∈ r.head?, q x = false) :
    Leads (star (Pattern.one q)) (between u (w ++ r) ks) (between (u ++ w) r ks) := by
  induction w generalizing u with
  | nil =>
    rw [List.append_nil]
    exact stop (refuses_one hr)
  | cons x w ih =>
    have hrest := ih (u := u ++ [x]) fun y hy => hw y (List.mem_cons_of_mem x hy)
    rw [List.append_assoc, List.singleton_append] at hrest
    apply more (one (hw x List.mem_cons_self)) _ hrest
    simp

/-- One character of a class, and behind it all characters of another class. -/
theorem one_star {start : Char → Bool} {x : Char} (hx : start x = true) (hw : ∀ y ∈ w, q y = true)
    (hr : ∀ y ∈ r.head?, q y = false) :
    Leads (Pattern.both (Pattern.one start) (star (Pattern.one q))) (between u (x :: w ++ r) ks)
      (between (u ++ x :: w) r ks) := by
  have hrest : Leads (star (Pattern.one q)) (between (u ++ [x]) (w ++ r) ks)
      (between (u ++ [x] ++ w) r ks) := star_one hw hr
  rw [List.append_assoc, List.singleton_append] at hrest
  exact Leads.both (one hx) hrest

/-- A class that is repeated leads over all of its characters, if there is one. -/
theorem plus_one (hne : w ≠ []) (hw : ∀ x ∈ w, q x = true) (hr : ∀ x ∈ r.head?, q x = false) :
    Leads (plus (Pattern.one q)) (between u (w ++ r) ks) (between (u ++ w) r ks) := by
  obtain ⟨x, w, rfl⟩ := List.exists_cons_of_ne_nil hne
  exact one_star (hw x List.mem_cons_self) (fun y hy => hw y (List.mem_cons_of_mem x hy)) hr

/-- A character leads over itself. -/
theorem char (x : Char) : Leads (char x) (between u (x :: r) ks) (between (u ++ [x]) r ks) :=
  one (q := (· == x)) (beq_self_eq_true x)

/-- A row of characters leads over itself. -/
theorem chars (w : Text) :
    Leads (inOrder (w.map Pattern.char)) (between u (w ++ r) ks) (between (u ++ w) r ks) := by
  induction w generalizing u with
  | nil =>
    rw [List.append_nil]
    exact nothing _
  | cons x w ih =>
    cases w with
    | nil => exact char x
    | cons y w =>
      have hrest := ih (u := u ++ [x])
      rw [List.append_assoc, List.singleton_append] at hrest
      exact both (char x) hrest

/-- A literal leads over itself. -/
theorem literal (s : String) :
    Leads (literal s) (between u (s.toList ++ r) ks) (between (u ++ s.toList) r ks) :=
  chars s.toList

/-- A reluctant repetition of one class goes on over the places where what follows it does not fit. -/
theorem reluctant_one (hw : ∀ x ∈ w, q x = true)
    (hrefuses : ∀ v x v', w = v ++ x :: v' → Refuses b (lastOf none (u ++ v)) (x :: v' ++ r))
    (h : Leads b (between (u ++ w) r ks) d) :
    Leads (Pattern.both (reluctant (Pattern.one q)) b) (between u (w ++ r) ks) d := by
  constructor
  intro α accept haccept
  rw [run, reluctant]
  induction w generalizing u with
  | nil =>
    rw [List.append_nil] at h
    obtain ⟨x, hx⟩ := Option.isSome_iff_exists.1 haccept
    rw [List.nil_append, run_reluctant, h.run_eq accept haccept, hx]
  | cons x w ih =>
    have hhere : Refuses b (lastOf none u) (x :: w ++ r) := by
      have := hrefuses [] x w rfl
      rwa [List.append_nil] at this
    have hnone : b.run (between u (x :: w ++ r) ks) accept = none := hhere.run_eq_none accept
    rw [run_reluctant, hnone]
    dsimp only
    rw [List.cons_append, run, Cursor.next?_between_cons]
    dsimp only
    rw [if_pos (hw x List.mem_cons_self), if_pos (by simp)]
    apply ih (fun y hy => hw y (List.mem_cons_of_mem x hy))
    · intro v y v' hv
      have := hrefuses (x :: v) y v' (by rw [hv]; rfl)
      rwa [List.append_cons] at this
    · rwa [List.append_assoc, List.singleton_append]

end Leads

/-! ## Matches -/

/-- Where a pattern leads over a piece, this piece is the match. -/
theorem matchAt?_of_leads (h : Leads p (between u (w ++ r) []) (between (u ++ w) r ks')) :
    p.matchAt? (between u (w ++ r) ks) = some ⟨u.length, between (u ++ w) r ks', w⟩ := by
  have hrun := h.run_eq some rfl
  unfold matchAt?
  rw [Cursor.forget_between, hrun]
  simp [Cursor.piece]

/-- Where a pattern is refused, there is no match. -/
theorem matchAt?_of_refuses (h : Refuses p c.before c.rest) : p.matchAt? c = none := by
  have hnone := Refuses.run_eq_none (c := { c with captures := [] }) h some
  unfold matchAt?
  rw [hnone]
  rfl

/-- A search fails if the pattern is refused everywhere. -/
theorem searchFrom?_eq_none (h : ∀ v w, r = v ++ w → Refuses p (lastOf none (u ++ v)) w) :
    p.searchFrom? (between u r ks) = none := by
  cases hsearch : p.searchFrom? (between u r ks) with
  | none => rfl
  | some m =>
    have hsome : (p.searchFrom? (between u r ks)).isSome = true := by rw [hsearch]; rfl
    obtain ⟨v, w, r', hrest, hfits⟩ := searchFrom?_isSome_iff.1 hsome
    rw [Cursor.rest_between, List.append_assoc] at hrest
    rw [Cursor.before_between, ← lastOf_append] at hfits
    exact absurd hfits (h v (w ++ r') hrest w r' rfl)

/-- A search passes the places where the pattern fits nothing. -/
theorem searchFrom?_skip
    (h : ∀ v x v', w = v ++ x :: v' → Refuses p (lastOf none (u ++ v)) (x :: v' ++ r)) :
    p.searchFrom? (between u (w ++ r) ks) = p.searchFrom? (between (u ++ w) r ks) := by
  induction w generalizing u with
  | nil => rw [List.nil_append, List.append_nil]
  | cons x w ih =>
    have hhere : Refuses p (lastOf none u) (x :: w ++ r) := by
      have := h [] x w rfl
      rwa [List.append_nil] at this
    have hrest := ih (u := u ++ [x]) fun v y v' hv => by
      have := h (x :: v) y v' (by rw [hv]; rfl)
      rwa [List.append_cons] at this
    rw [List.append_assoc, List.singleton_append] at hrest
    rw [searchFrom?, matchAt?_of_refuses hhere, List.cons_append, Cursor.next?_between_cons]
    exact hrest

/-- The piece that was remembered last under a number is the one that a match gives out. -/
theorem group_captured (start number offset : Nat) (v : Text) :
    Match.group ⟨start, between u r (⟨number, offset, w.length, w ++ v⟩ :: ks), t⟩ number = w := by
  simp [Match.group, Match.capture?, Capture.text]

/-- A search finds the first reading from the first place where the pattern fits. -/
theorem search?_of_leads
    (hskip : ∀ v x v', u = v ++ x :: v' → Refuses p (lastOf none v) (x :: v' ++ (w ++ r)))
    (h : Leads p (between u (w ++ r) []) (between (u ++ w) r ks')) :
    p.search? (u ++ (w ++ r)) = some ⟨u.length, between (u ++ w) r ks', w⟩ := by
  rw [search?, Cursor.start_eq, searchFrom?_skip hskip, List.nil_append]
  exact searchFrom?_of_match (matchAt?_of_leads h)

/-- A search does not depend on what was remembered before it. -/
theorem searchFrom?_forget (u r : Text) (ks : List Capture) :
    p.searchFrom? (between u r ks) = p.searchFrom? (between u r []) := by
  induction r generalizing u with
  | nil =>
    rw [searchFrom?, searchFrom?]
    rfl
  | cons x r ih =>
    rw [searchFrom?, searchFrom?, Cursor.next?_between_cons, Cursor.next?_between_cons]
    dsimp only
    rw [ih]
    rfl

/-- What is remembered from before does not matter for a scan. -/
theorem allFrom_forget (u r : Text) (ks : List Capture) :
    p.allFrom (between u r ks) = p.allFrom (between u r []) := by
  induction r generalizing u with
  | nil =>
    rw [allFrom, allFrom, searchFrom?_forget]
    rfl
  | cons x r ih =>
    rw [allFrom, allFrom, searchFrom?_forget, Cursor.next?_between_cons, Cursor.next?_between_cons]
    dsimp only
    rw [ih]
    rfl

/-- A scan goes on behind a match that is not empty. -/
theorem allFrom_match (hne : w ≠ [])
    (h : Leads p (between u (w ++ r) []) (between (u ++ w) r ks')) :
    p.allFrom (between u (w ++ r) []) =
      ⟨u.length, between (u ++ w) r ks', w⟩ :: p.allFrom (between (u ++ w) r []) := by
  have hlength : 0 < w.length := List.length_pos_iff.2 hne
  rw [allFrom, searchFrom?_of_match (matchAt?_of_leads h)]
  dsimp only
  rw [dif_pos (by simp [hlength]), allFrom_forget]

/-- A match of a pattern that does not fit the empty piece leaves less of the text before it. -/
theorem searchFrom?_left_lt {m : Match} (hempty : ∀ before r, ¬ Fits p before [] r)
    (h : p.searchFrom? c = some m) : m.stop.left < c.left := by
  obtain ⟨v, d, hd, hmatch, -⟩ := searchFrom?_first h
  obtain ⟨-, w, hw, hfits⟩ := reaches_of_matchAt? hmatch
  have hne : w ≠ [] := by
    rintro rfl
    exact hempty _ _ hfits
  have hle : d.left ≤ c.left := by
    have hlength := congrArg List.length hd.rest
    rw [List.length_append, ← c.left_eq, ← d.left_eq] at hlength
    omega
  exact Nat.lt_of_lt_of_le (hw.left_lt hne) hle

/-- A scan passes the places where the pattern fits nothing. -/
theorem allFrom_skip (hempty : ∀ before r, ¬ Fits p before [] r)
    (h : ∀ v x v', w = v ++ x :: v' → Refuses p (lastOf none (u ++ v)) (x :: v' ++ r)) :
    p.allFrom (between u (w ++ r) []) = p.allFrom (between (u ++ w) r []) := by
  have hskip : p.searchFrom? (between u (w ++ r) []) = p.searchFrom? (between (u ++ w) r []) :=
    searchFrom?_skip h
  rw [allFrom, allFrom, hskip]
  cases hsearch : p.searchFrom? (between (u ++ w) r []) with
  | none => rfl
  | some m =>
    have hshorter := searchFrom?_left_lt hempty hsearch
    have hlonger := searchFrom?_left_lt hempty (hskip.trans hsearch)
    dsimp only
    rw [dif_pos hshorter, dif_pos hlonger]

/-- A scan passes one character where the pattern fits nothing. -/
theorem allFrom_next {x : Char} (hempty : ∀ before r, ¬ Fits p before [] r)
    (h : Refuses p (lastOf none u) (x :: r)) :
    p.allFrom (between u (x :: r) []) = p.allFrom (between (u ++ [x]) r []) := by
  apply allFrom_skip (w := [x]) hempty
  intro v y v' hv
  cases v with
  | nil =>
    obtain ⟨rfl, rfl⟩ := List.cons.inj hv
    rw [List.append_nil]
    exact h
  | cons z v => simp at hv

/-- There are no matches if the pattern is refused everywhere. -/
theorem allFrom_end (h : ∀ v w, r = v ++ w → Refuses p (lastOf none (u ++ v)) w) :
    p.allFrom (between u r []) = [] := by
  rw [allFrom, searchFrom?_eq_none h]

end UxLint.Pattern
