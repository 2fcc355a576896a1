import UxLint.Proofs.Diff.Header
import UxLint.Proofs.Diff.Patch
import UxLint.Source.Unit

/-!
# Reading printed differences

If no line of the print of a patch holds another end of a line than the line feed behind it, then reading
the print gives each added line once, with its number among the lines of the new file (`read_text`). A
line that does hold one is read as several, and moves the numbers of all lines behind it
(`read_text_formFeed`).
-/

set_option autoImplicit false

namespace UxLint

/-! ## Headers -/

namespace Hunk

/-- A single line is not counted. -/
def countOf (count : Nat) : Option Nat := if count = 1 then none else some count

/-- A count is printed as it is shown in a header. -/
theorem printedCount_eq (count : Nat) : printedCount count = Diff.shownCount (countOf count) := by
  unfold printedCount countOf
  split <;> rfl

/-- The header of a hunk shows its first lines and its counts. -/
theorem header_eq (h : Hunk) (old new : Nat) :
    h.header old new = Diff.hunkHeader (firstOf old h.oldCount) (countOf h.oldCount)
      (firstOf new h.editedLines.length) (countOf h.editedLines.length) h.heading := by
  unfold header Diff.hunkHeader
  rw [printedCount_eq, printedCount_eq]

/-- A printed count holds no carriage return. -/
theorem not_mem_printedCount (count : Nat) : '\r' ∉ printedCount count := by
  unfold printedCount
  split
  · simp
  · intro hmem
    rcases List.mem_cons.1 hmem with hc | hc
    · exact absurd hc (by decide)
    · exact absurd (Text.isDigit_of_mem_toDigits hc) (by decide)

/-- A header loses the carriage return at its end with its heading. -/
theorem withoutReturn_header (h : Hunk) (old new : Nat) :
    Text.withoutReturn (h.header old new) =
      { h with heading := Text.withoutReturn h.heading }.header old new := by
  have hdigits (n : Nat) : '\r' ∉ Nat.toDigits 10 n := fun hmem =>
    absurd (Text.isDigit_of_mem_toDigits hmem) (by decide)
  unfold header
  rw [Text.withoutReturn_append (by decide), Text.withoutReturn_append (hdigits _),
    Text.withoutReturn_append (not_mem_printedCount _), Text.withoutReturn_append (by decide),
    Text.withoutReturn_append (hdigits _), Text.withoutReturn_append (not_mem_printedCount _),
    Text.withoutReturn_append (by decide)]
  rfl

end Hunk

/-! ## Reading the lines -/

namespace Edit

/-- The mark of an edit is no carriage return. -/
theorem mark_ne_return (e : Edit) : e.mark ≠ '\r' := by
  cases e <;> simp [mark]

/-- An edit loses the carriage return at its end with what it shows. -/
theorem withoutReturn_printed (e : Edit) :
    Text.withoutReturn e.printed = e.mark :: Text.withoutReturn e.shown :=
  Text.withoutReturn_cons e.mark_ne_return _

/-- A printed edit starts no hunk. -/
theorem not_hunk_printed (e : Edit) : "@@".toList.isPrefixOf (Text.withoutReturn e.printed) = false := by
  rw [withoutReturn_printed]
  cases e <;> rfl

/-- A printed edit names no file. -/
theorem not_names_printed (e : Edit) :
    "diff --git".toList.isPrefixOf (Text.withoutReturn e.printed) = false := by
  rw [withoutReturn_printed]
  cases e <;> rfl

/-- A printed edit gives the line that it adds, and moves on by the new line that it tells. -/
theorem addedFrom_printed (e : Edit) (n : Nat) (rest : List Text) :
    Diff.addedFrom (some n) (Text.withoutReturn e.printed :: rest) =
      Patch.numbered n e.newLine?.toList ++ Diff.addedFrom (some (n + e.newLine?.toList.length)) rest := by
  rw [Diff.addedFrom.eq_def]
  dsimp only
  rw [e.not_names_printed, if_neg Bool.false_ne_true, Diff.hunkStart?_eq_none e.not_hunk_printed,
    withoutReturn_printed]
  cases e <;> rfl

/-- The edits of a hunk add their new lines, numbered one after the other. -/
theorem addedFrom_map_printed (es : List Edit) (n : Nat) (rest : List Text) :
    Diff.addedFrom (some n) (es.map (fun e => Text.withoutReturn e.printed) ++ rest) =
      Patch.numbered n (es.filterMap newLine?) ++
        Diff.addedFrom (some (n + (es.filterMap newLine?).length)) rest := by
  induction es generalizing n with
  | nil => rfl
  | cons e es ih =>
    have hsplit : (e :: es).filterMap newLine? = e.newLine?.toList ++ es.filterMap newLine? := by
      rw [List.filterMap_cons]
      cases e.newLine? <;> rfl
    rw [List.map_cons, List.cons_append, addedFrom_printed, ih, hsplit, Patch.numbered_append,
      List.append_assoc, List.length_append, Nat.add_assoc]

end Edit

namespace Hunk

/-- A header says where the new lines of its hunk start. -/
theorem hunkStart?_header (h : Hunk) (old new : Nat) :
    Diff.hunkStart? (Text.withoutReturn (h.header old new)) =
      some (firstOf new h.editedLines.length) := by
  rw [withoutReturn_header, header_eq]
  exact Diff.hunkStart?_hunkHeader _ _ _ _ _

/-- A header with small numbers is read without an error. -/
theorem hunkError?_header (h : Hunk) {old new : Nat}
    (hsize : Text.fitsNumeral (new + h.editedLines.length) = true) :
    Diff.hunkError? (Text.withoutReturn (h.header old new)) = none := by
  have hfirst : firstOf new h.editedLines.length ≤ new + h.editedLines.length := by
    unfold firstOf
    split <;> omega
  rw [withoutReturn_header, header_eq]
  exact Diff.hunkError?_hunkHeader_eq_none_iff.2 (Text.fitsNumeral_of_le hfirst hsize)

/-- New lines are numbered from the first one, and it does not matter where none are. -/
theorem numbered_firstOf (before : Nat) (ls : List NewLine) :
    Patch.numbered (firstOf before ls.length) ls = Patch.numbered (before + 1) ls := by
  cases ls with
  | nil => rfl
  | cons l ls => rfl

end Hunk

namespace Patch

/-- The new lines of a hunk are those that it skips and those that it shows. -/
theorem length_newLines (h : Hunk) :
    h.newLines.length = h.skipped.length + h.editedLines.length := by
  simp [Hunk.newLines]

/-- Reading the lines of hunks gives their added lines, with numbers that go on from the lines before. -/
theorem addedFrom_hunkLines (hs : List Hunk) (next : Option Nat) (old new : Nat) :
    Diff.addedFrom next ((hunkLines old new hs).map Text.withoutReturn) =
      numbered (new + 1) (hs.flatMap Hunk.newLines) := by
  induction hs generalizing next old new with
  | nil => rfl
  | cons h hs ih =>
    have hnames : "diff --git".toList.isPrefixOf (Text.withoutReturn
        (h.header (old + h.skipped.length) (new + h.skipped.length))) = false := by
      rw [Hunk.withoutReturn_header]
      rfl
    have hrest := ih (some (Hunk.firstOf (new + h.skipped.length) h.editedLines.length +
      h.editedLines.length)) (old + h.skipped.length + h.oldCount) (new + h.newLines.length)
    have hlength : new + 1 + h.newLines.length = new + h.newLines.length + 1 := by omega
    have hskipped : new + 1 + h.skipped.length = new + h.skipped.length + 1 := by omega
    calc Diff.addedFrom next ((hunkLines old new (h :: hs)).map Text.withoutReturn)
      _ = Diff.addedFrom (some (Hunk.firstOf (new + h.skipped.length) h.editedLines.length))
            (h.edits.map (fun e => Text.withoutReturn e.printed) ++
              (hunkLines (old + h.skipped.length + h.oldCount) (new + h.newLines.length) hs).map
                Text.withoutReturn) := by
          rw [hunkLines, List.map_cons, Diff.addedFrom_header next _ hnames (h.hunkStart?_header _ _),
            List.map_append, List.map_map]
          rfl
      _ = numbered (new + h.skipped.length + 1) h.editedLines ++
            numbered (new + h.newLines.length + 1) (hs.flatMap Hunk.newLines) := by
          rw [Edit.addedFrom_map_printed, ← Hunk.editedLines, hrest, Hunk.numbered_firstOf]
      _ = numbered (new + 1) ((h :: hs).flatMap Hunk.newLines) := by
          rw [List.flatMap_cons, numbered_append, hlength, Hunk.newLines, numbered_append,
            numbered_kept, List.nil_append, List.length_map, hskipped]

/-- The lines of hunks with small numbers are read without an error. -/
theorem hunkError?_hunkLines (hs : List Hunk) (old new : Nat)
    (hsize : Text.fitsNumeral (new + (hs.flatMap Hunk.newLines).length) = true) :
    ∀ l ∈ hunkLines old new hs, Diff.hunkError? (Text.withoutReturn l) = none := by
  induction hs generalizing old new with
  | nil => simp [hunkLines]
  | cons h hs ih =>
    rw [List.flatMap_cons, List.length_append] at hsize
    have hcount := length_newLines h
    intro l hl
    rw [hunkLines, List.mem_cons, List.mem_append] at hl
    rcases hl with rfl | hl | hl
    · exact h.hunkError?_header (Text.fitsNumeral_of_le (by omega) hsize)
    · obtain ⟨e, -, rfl⟩ := List.mem_map.1 hl
      exact Diff.hunkError?_eq_none e.not_hunk_printed
    · exact ih _ _ (Text.fitsNumeral_of_le (by omega) hsize) l hl

/-- No line of a hunk announces a new file. -/
theorem announcesNew_hunkLines (hs : List Hunk) (old new : Nat) :
    Diff.announcesNew ((hunkLines old new hs).map Text.withoutReturn) = false := by
  cases hs with
  | nil => rfl
  | cons h hs =>
    rw [hunkLines, List.map_cons, Hunk.withoutReturn_header]
    rfl

/-! ## Reading the print -/

/-- A neutral line stays neutral without its carriage return. -/
theorem isNeutral_withoutReturn {line : Text} (h : isNeutral line = true) :
    isNeutral (Text.withoutReturn line) = true := by
  have hkeeps (start : Text) (hstart : start.isPrefixOf line = false) :
      start.isPrefixOf (Text.withoutReturn line) = false := by
    rw [Bool.eq_false_iff] at hstart ⊢
    intro hprefix
    exact hstart (List.isPrefixOf_iff_prefix.2
      ((List.isPrefixOf_iff_prefix.1 hprefix).trans (Text.withoutReturn_prefix line)))
  unfold isNeutral at h ⊢
  rw [Bool.not_eq_true', Bool.or_eq_false_iff, Bool.or_eq_false_iff] at h ⊢
  exact ⟨⟨hkeeps _ h.1.1, hkeeps _ h.1.2⟩, hkeeps _ h.2⟩

/-- A neutral line starts no hunk. -/
theorem not_hunk_of_isNeutral {line : Text} (h : isNeutral line = true) :
    "@@".toList.isPrefixOf line = false := by
  unfold isNeutral at h
  rw [Bool.not_eq_true', Bool.or_eq_false_iff, Bool.or_eq_false_iff] at h
  exact h.1.1

/-- Neutral lines add nothing. -/
theorem addedFrom_neutral {ls : List Text} (h : ∀ l ∈ ls, isNeutral l = true) (rest : List Text) :
    Diff.addedFrom none (ls.map Text.withoutReturn ++ rest) = Diff.addedFrom none rest := by
  induction ls with
  | nil => rfl
  | cons l ls ih =>
    have hl := not_hunk_of_isNeutral (isNeutral_withoutReturn (h l List.mem_cons_self))
    rw [List.map_cons, List.cons_append, Diff.addedFrom_outside _ (Diff.hunkStart?_eq_none hl)]
    exact ih fun m hm => h m (List.mem_cons_of_mem l hm)

/-- Neutral lines announce no new file. -/
theorem announcesNew_neutral {ls : List Text} (h : ∀ l ∈ ls, isNeutral l = true) (rest : List Text) :
    Diff.announcesNew (ls.map Text.withoutReturn ++ rest) = Diff.announcesNew rest := by
  induction ls with
  | nil => rfl
  | cons l ls ih =>
    have hl := isNeutral_withoutReturn (h l List.mem_cons_self)
    unfold isNeutral at hl
    rw [Bool.not_eq_true', Bool.or_eq_false_iff, Bool.or_eq_false_iff] at hl
    have hhunk : ['@', '@'].isPrefixOf (Text.withoutReturn l) = false := hl.1.1
    rw [List.map_cons, List.cons_append, Diff.announcesNew, hl.1.2, hl.2, hhunk]
    exact ih fun m hm => h m (List.mem_cons_of_mem l hm)

variable {p : Patch}

/-- The lines of a patch as they are read: the names, the extended header and the hunks. -/
theorem map_withoutReturn_lines (p : Patch) :
    p.lines.map Text.withoutReturn = ("diff --git ".toList ++ Text.withoutReturn p.names) ::
      (p.extended.map Text.withoutReturn ++ (hunkLines 0 0 p.hunks).map Text.withoutReturn) := by
  unfold lines
  rw [List.map_cons, List.map_append, Text.withoutReturn_append (by decide)]

/-- The lines of a patch add what it adds. -/
theorem addedFrom_lines (hneutral : ∀ l ∈ p.extended, isNeutral l = true) :
    Diff.addedFrom none (p.lines.map Text.withoutReturn) = p.addedLines := by
  have hnames : Diff.hunkStart? ("diff --git ".toList ++ Text.withoutReturn p.names) = none :=
    Diff.hunkStart?_eq_none rfl
  rw [map_withoutReturn_lines, Diff.addedFrom_outside _ hnames, addedFrom_neutral hneutral,
    addedFrom_hunkLines, addedLines, newLines, numbered_append, numbered_kept, List.append_nil]

/-- The lines of a patch announce no new file. -/
theorem announcesNew_lines (hneutral : ∀ l ∈ p.extended, isNeutral l = true) :
    Diff.announcesNew (p.lines.map Text.withoutReturn) = false := by
  rw [map_withoutReturn_lines]
  change Diff.announcesNew (_ ++ _) = false
  rw [announcesNew_neutral hneutral, announcesNew_hunkLines]

/-- The lines of a patch with small numbers are read without an error. -/
theorem hunkError?_lines (hneutral : ∀ l ∈ p.extended, isNeutral l = true)
    (hsize : Text.fitsNumeral p.newLines.length = true) :
    (p.lines.map Text.withoutReturn).findSome? Diff.hunkError? = none := by
  rw [List.findSome?_eq_none_iff, map_withoutReturn_lines]
  unfold newLines at hsize
  rw [List.length_append] at hsize
  intro l hl
  rw [List.mem_cons, List.mem_append] at hl
  rcases hl with rfl | hl | hl
  · exact Diff.hunkError?_eq_none rfl
  · obtain ⟨m, hm, rfl⟩ := List.mem_map.1 hl
    exact Diff.hunkError?_eq_none
      (not_hunk_of_isNeutral (isNeutral_withoutReturn (hneutral m hm)))
  · obtain ⟨m, hm, rfl⟩ := List.mem_map.1 hl
    exact hunkError?_hunkLines p.hunks 0 0 (Text.fitsNumeral_of_le (by omega) hsize) m hm

/-- A patch is not blank. -/
theorem not_blank_text (p : Patch) : p.text.all Text.isBlank = false := by
  unfold text lines Text.closedLines
  rw [List.flatMap_cons]
  rfl

/-- The new lines of a patch are those of the file that it makes. -/
theorem getElem?_pieces {new : Text} (hmakes : p.Makes new) {i : Nat} {l : NewLine}
    (h : p.newLines[i]? = some l) : (Text.pieces '\n' new)[i]? = some l.piece := by
  have hpiece : (p.newLines.map (·.piece))[i]? = some l.piece := by
    rw [List.getElem?_map, h]
    rfl
  rcases hmakes with hnew | hnew
  · rw [hnew, hpiece]
  · rw [hnew, List.getElem?_append_left (List.getElem?_eq_some_iff.1 hpiece).1, hpiece]

/-- Lines of the new version are touched exactly if one of them was added. -/
theorem touches_iff {d : Diff} (hnew : d.isNew = false) (hadded : d.added = p.addedLines)
    (first last : Nat) : d.touches first last = true ↔
      ∃ i l, p.newLines[i]? = some l ∧ l.isAdded = true ∧ first ≤ i + 1 ∧ i + 1 ≤ last := by
  unfold Diff.touches
  rw [hnew, hadded, Bool.false_or, List.any_eq_true]
  constructor
  · rintro ⟨a, ha, hwithin⟩
    obtain ⟨i, l, hl, hisAdded, rfl⟩ := mem_addedLines.1 ha
    rw [Bool.and_eq_true, decide_eq_true_eq, decide_eq_true_eq] at hwithin
    dsimp only at hwithin
    exact ⟨i, l, hl, hisAdded, by omega, by omega⟩
  · rintro ⟨i, l, hl, hisAdded, hfirst, hlast⟩
    refine ⟨_, mem_addedLines.2 ⟨i, l, hl, hisAdded, rfl⟩, ?_⟩
    rw [Bool.and_eq_true, decide_eq_true_eq, decide_eq_true_eq]
    dsimp only
    exact ⟨by omega, by omega⟩

/-- The print of a change of a file, in which no line holds an end of a line besides the one that closes
it, is read as the added lines: each one once, with its number among the pieces of the new file, without
a carriage return at its end. A node is touched exactly if one of its lines was added. -/
theorem read_text {new : Text} (hmakes : p.Makes new)
    (hneutral : ∀ l ∈ p.extended, isNeutral l = true)
    (hplain : ∀ l ∈ p.lines, Text.isPlain l = true)
    (hsize : Text.fitsNumeral p.newLines.length = true) :
    ∃ d, Diff.read p.text = .ok d ∧ d.isNew = false ∧ d.added = p.addedLines ∧
      (∀ a ∈ d.added, ∃ piece, 0 < a.number ∧ (Text.pieces '\n' new)[a.number - 1]? = some piece ∧
        a.content = Text.withoutReturn piece) ∧
      ∀ (u : SourceUnit) (n : Node), d.touches (u.lineOf n) (u.endLineOf n) = true ↔
        ∃ i l, p.newLines[i]? = some l ∧ l.isAdded = true ∧
          u.lineOf n ≤ i + 1 ∧ i + 1 ≤ u.endLineOf n := by
  have hlines : Text.lines p.text = p.lines.map Text.withoutReturn := Text.lines_closedLines hplain
  have hnew : (Diff.ofText p.text).isNew = false := by
    unfold Diff.ofText
    dsimp only
    rw [p.not_blank_text, hlines, announcesNew_lines hneutral]
    rfl
  have hadded : (Diff.ofText p.text).added = p.addedLines := by
    unfold Diff.ofText
    dsimp only
    rw [hlines, addedFrom_lines hneutral]
  refine ⟨Diff.ofText p.text, ?_, hnew, hadded, ?_, fun u n => touches_iff hnew hadded _ _⟩
  · unfold Diff.read
    rw [hlines, hunkError?_lines hneutral hsize]
  · intro a ha
    rw [hadded] at ha
    obtain ⟨i, l, hl, -, rfl⟩ := mem_addedLines.1 ha
    exact ⟨l.piece, Nat.succ_pos i, getElem?_pieces hmakes hl, rfl⟩

/-- A call is added behind a line with some text in a literal. -/
def callBehind (inside : Text) : Patch where
  names := "a/a.js b/a.js".toList
  extended := ["index 1111111..2222222 100644".toList, "--- a/a.js".toList, "+++ b/a.js".toList]
  hunks := [⟨[], [], [.keep ("const a = 'x".toList ++ (inside ++ "y';".toList)),
    .add "post(a);".toList, .keep "done();".toList]⟩]
  unshown := []

/-- The new version with the call. -/
def withCallBehind (inside : Text) : Text :=
  "const a = 'x".toList ++ (inside ++ "y';\npost(a);\ndone();\n".toList)

/-- With a blank in the literal, the call is the second line. -/
theorem read_text_call :
    let p := callBehind [' ']
    p.Makes (withCallBehind [' ']) ∧ p.addedLines = [⟨2, "post(a);".toList⟩] ∧
      ∃ d, Diff.read p.text = .ok d ∧ d.isNew = false ∧ d.added = p.addedLines ∧
        (∀ a ∈ d.added, ∃ piece, 0 < a.number ∧
          (Text.pieces '\n' (withCallBehind [' ']))[a.number - 1]? = some piece ∧
          a.content = Text.withoutReturn piece) ∧
        ∀ (u : SourceUnit) (n : Node), d.touches (u.lineOf n) (u.endLineOf n) = true ↔
          ∃ i l, p.newLines[i]? = some l ∧ l.isAdded = true ∧
            u.lineOf n ≤ i + 1 ∧ i + 1 ≤ u.endLineOf n := by
  intro p
  have hmakes : p.Makes (withCallBehind [' ']) := .inr (by decide +kernel)
  have hsize : Text.fitsNumeral p.newLines.length = true := by decide +kernel
  exact ⟨hmakes, by decide +kernel,
    read_text hmakes (by decide +kernel) (by decide +kernel) hsize⟩

/-- With a form feed in the literal, the call is still the second line, but it is read as the third. -/
theorem read_text_formFeed :
    let p := callBehind ['\x0c']
    p.Makes (withCallBehind ['\x0c']) ∧ (∀ l ∈ p.extended, isNeutral l = true) ∧
      p.addedLines = [⟨2, "post(a);".toList⟩] ∧
      ∃ d, Diff.read p.text = .ok d ∧ d.isNew = false ∧ d.added = [⟨3, "post(a);".toList⟩] ∧
        d.touches 2 2 = false ∧ d.touches 3 3 = true := by
  intro p
  have hread : Diff.read p.text = .ok (Diff.ofText p.text) := by
    have herror : (Text.lines p.text).findSome? Diff.hunkError? = none := by decide +kernel
    rw [Diff.read, herror]
  exact ⟨.inr (by decide +kernel), by decide +kernel, by decide +kernel, Diff.ofText p.text, hread,
    by decide +kernel, by decide +kernel, by decide +kernel, by decide +kernel⟩

end Patch

end UxLint
