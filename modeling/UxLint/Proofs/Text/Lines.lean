import UxLint.Text.Blank
import UxLint.Text.Lines

/-!
# Lines behind line feeds

A text in which every line is closed by a line feed falls into just these lines, as long as none of them
holds another end of a line; only a carriage return before the line feed is taken off
(`lines_closedLines`).
-/

set_option autoImplicit false

namespace UxLint.Text

/-- A line without the carriage return at its end. -/
def withoutReturn : Text → Text
  | [] => []
  | ['\r'] => []
  | c :: t => c :: withoutReturn t

/-- Whether no end of a line stands in a line, but for a carriage return at its end. -/
def isPlain (line : Text) : Bool := (withoutReturn line).all fun c => !isLineEnd c

/-- Lines with a line feed behind each. -/
def closedLines (ls : List Text) : Text := ls.flatMap fun l => l ++ ['\n']

/-- A character that is no carriage return is kept in front. -/
theorem withoutReturn_cons {c : Char} (h : c ≠ '\r') (t : Text) :
    withoutReturn (c :: t) = c :: withoutReturn t := by
  rw [withoutReturn]
  intro hc
  exact absurd hc h

/-- A text without carriage returns is kept in front. -/
theorem withoutReturn_append {t : Text} (h : '\r' ∉ t) (u : Text) :
    withoutReturn (t ++ u) = t ++ withoutReturn u := by
  induction t with
  | nil => rfl
  | cons c t ih =>
    rw [List.mem_cons, not_or] at h
    rw [List.cons_append, withoutReturn_cons (Ne.symm h.1), ih h.2, List.cons_append]

/-- Without its carriage return a line is a start of itself. -/
theorem withoutReturn_prefix (t : Text) : withoutReturn t <+: t := by
  fun_induction withoutReturn t with
  | case1 => exact List.nil_prefix
  | case2 => exact List.nil_prefix
  | case3 c t _ ih => exact List.prefix_cons_inj c |>.2 ih

/-- To join carriage returns with line feeds goes line by line. -/
theorem joinReturns_line {line : Text} (h : isPlain line = true) (t : Text) :
    joinReturns (line ++ '\n' :: t) = withoutReturn line ++ '\n' :: joinReturns t := by
  unfold isPlain at h
  fun_induction withoutReturn line with
  | case1 => simp [joinReturns]
  | case2 => rfl
  | case3 c line _ ih =>
    rw [List.all_cons, Bool.and_eq_true] at h
    have hc : c ≠ '\r' := by
      rintro rfl
      exact absurd h.1 (by decide)
    rw [List.cons_append, joinReturns, ih h.2, List.cons_append]
    intro u hreturn
    exact absurd hreturn hc

/-- A line without ends inside is one of the lines. -/
theorem linesFrom_line {line : Text} (h : ∀ c ∈ line, isLineEnd c = false) (current t : Text) :
    linesFrom current (line ++ '\n' :: t) = (current.reverse ++ line) :: linesFrom [] t := by
  induction line generalizing current with
  | nil =>
    rw [List.nil_append, linesFrom, if_pos (by decide), List.append_nil]
  | cons c line ih =>
    rw [List.cons_append, linesFrom, h c List.mem_cons_self, if_neg Bool.false_ne_true,
      ih (fun d hd => h d (List.mem_cons_of_mem c hd)), List.reverse_cons, List.append_assoc]
    rfl

/-- A plain line is the first one of a text. -/
theorem lines_line {line : Text} (h : isPlain line = true) (t : Text) :
    lines (line ++ '\n' :: t) = withoutReturn line :: lines t := by
  have hends : ∀ c ∈ withoutReturn line, isLineEnd c = false := by
    intro c hc
    simpa using List.all_eq_true.1 h c hc
  unfold lines
  rw [joinReturns_line h, linesFrom_line hends]
  rfl

/-- Lines are closed one by one. -/
theorem closedLines_cons (l : Text) (ls : List Text) :
    closedLines (l :: ls) = l ++ '\n' :: closedLines ls := by
  simp [closedLines]

/-- Lines behind which line feeds stand are read one by one, whatever follows them. -/
theorem lines_closedLines_append {ls : List Text} (h : ∀ l ∈ ls, isPlain l = true) (t : Text) :
    lines (closedLines ls ++ t) = ls.map withoutReturn ++ lines t := by
  induction ls with
  | nil => rfl
  | cons l ls ih =>
    have hrest := ih fun m hm => h m (List.mem_cons_of_mem l hm)
    rw [closedLines_cons, List.append_assoc, List.cons_append, lines_line (h l List.mem_cons_self),
      hrest, List.map_cons, List.cons_append]

/-- Closed lines are read as they are, but for carriage returns at their ends. -/
theorem lines_closedLines {ls : List Text} (h : ∀ l ∈ ls, isPlain l = true) :
    lines (closedLines ls) = ls.map withoutReturn := by
  have hall := lines_closedLines_append h []
  rwa [List.append_nil, show lines [] = [] from rfl, List.append_nil] at hall

/-! ## Lines without ends in them -/

/-- Where there is no carriage return, none is joined. -/
theorem joinReturns_eq_self {t : Text} (h : '\r' ∉ t) : joinReturns t = t := by
  fun_induction joinReturns t with
  | case1 t ih => exact absurd List.mem_cons_self h
  | case2 c t _ ih => rw [ih fun hmem => h (List.mem_cons_of_mem c hmem)]
  | case3 => rfl

/-- A text without line ends has none anywhere. -/
theorem not_lineEnd_of_any {t : Text} (h : t.any isLineEnd = false) : ∀ c ∈ t, isLineEnd c = false :=
  fun c hc => Bool.eq_false_iff.2 (List.any_eq_false.1 h c hc)

/-- A text without line ends is one line. -/
theorem linesFrom_of_no_end {t : Text} (h : ∀ c ∈ t, isLineEnd c = false) (current : Text)
    (hne : current ++ t ≠ []) : linesFrom current t = [current.reverse ++ t] := by
  induction t generalizing current with
  | nil =>
    rw [List.append_nil] at hne ⊢
    cases current with
    | nil => exact absurd rfl hne
    | cons c t => rfl
  | cons c t ih =>
    rw [linesFrom, h c List.mem_cons_self, if_neg Bool.false_ne_true,
      ih (fun d hd => h d (List.mem_cons_of_mem c hd)) _ (by simp), List.reverse_cons,
      List.append_assoc]
    rfl

/-- A text without ends of lines is one line. -/
theorem lines_of_no_end {t : Text} (h : ∀ c ∈ t, isLineEnd c = false) (hne : t ≠ []) :
    lines t = [t] := by
  have hreturn : '\r' ∉ t := by
    intro hmem
    have hend := h _ hmem
    revert hend
    decide
  rw [lines, joinReturns_eq_self hreturn]
  exact linesFrom_of_no_end h [] hne

/-- A line without carriage returns loses none. -/
theorem withoutReturn_eq_self {t : Text} (h : '\r' ∉ t) : withoutReturn t = t := by
  have happend := withoutReturn_append h []
  rwa [List.append_nil, show withoutReturn [] = [] from rfl, List.append_nil] at happend

/-- A text is made of lines with line feeds between them, and perhaps one behind the last. -/
def IsLined (ls : List Text) (t : Text) : Prop := t = join ['\n'] ls ∨ t = closedLines ls

/-- Joined lines are closed but for the last one. -/
theorem join_concat (ls : List Text) (l : Text) :
    join ['\n'] (ls ++ [l]) = closedLines ls ++ l := by
  induction ls with
  | nil => rfl
  | cons m ls ih =>
    have hstep : join ['\n'] (m :: ls ++ [l]) = m ++ ['\n'] ++ join ['\n'] (ls ++ [l]) := by
      cases ls <;> rfl
    rw [hstep, ih, closedLines_cons]
    simp

/-- A text is read as the lines that it is made of; only an empty last line may be lost. -/
theorem lines_of_isLined {ls : List Text} {t : Text} (h : ∀ l ∈ ls, ∀ c ∈ l, isLineEnd c = false)
    (ht : IsLined ls t) : lines t = ls ∨ lines t ++ [[]] = ls := by
  have hreturn : ∀ l ∈ ls, withoutReturn l = l := by
    intro l hl
    apply withoutReturn_eq_self
    intro hmem
    have hend := h l hl _ hmem
    revert hend
    decide
  have hplain : ∀ l ∈ ls, isPlain l = true := by
    intro l hl
    unfold isPlain
    rw [hreturn l hl, List.all_eq_true]
    intro c hc
    simp [h l hl c hc]
  have hmap {ms : List Text} (hms : ∀ l ∈ ms, l ∈ ls) : ms.map withoutReturn = ms := by
    calc ms.map withoutReturn
      _ = ms.map id := List.map_congr_left fun l hl => hreturn l (hms l hl)
      _ = ms := List.map_id ms
  rcases ht with rfl | rfl
  · rcases List.eq_nil_or_concat ls with rfl | ⟨init, l, rfl⟩
    · exact .inl rfl
    · rw [List.concat_eq_append] at *
      have hinit : ∀ m ∈ init, m ∈ init ++ [l] := fun m hm => List.mem_append_left _ hm
      rw [join_concat, lines_closedLines_append fun m hm => hplain m (hinit m hm), hmap hinit]
      by_cases hl : l = []
      · subst hl
        exact .inr (by simp [lines, joinReturns, linesFrom])
      · exact .inl (by rw [lines_of_no_end (h l (by simp)) hl])
  · exact .inl (by rw [lines_closedLines hplain, hmap fun l hl => hl])

end UxLint.Text
