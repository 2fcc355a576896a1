import UxLint.Proofs.Diff.Header
import UxLint.Proofs.Diff.Patch
import UxLint.Proofs.Diff.Reading

/-!
# Differences with several sections

A difference may go through several files, each in a section of its own: some lines that open it, and hunks
whose headers bear any numbers. The body of a hunk tells lines by their first characters, and an empty line
stands for an empty line of both versions. What stands behind these characters may look like a header of
any kind. A difference can be read exactly if the headers bear no number that is too long, and what it adds
are then the added lines of the bodies, each numbered by the lines of the new version before it
(`read_sections`).
-/

set_option autoImplicit false

namespace UxLint

/-- A line in the body of a hunk. -/
inductive BodyLine where
  | edit (e : Edit)
  /-- An empty line, as which an empty line of both versions may stand. -/
  | empty

namespace BodyLine

/-- The line as it stands in the difference. -/
def printed : BodyLine → Text
  | edit e => e.printed
  | empty => []

/-- Whether the line stands in the new version. -/
def isNew : BodyLine → Bool
  | edit e => e.newLine?.isSome
  | empty => true

/-- The text that the line adds, if it adds one. -/
def added? : BodyLine → Option Text
  | edit (.add piece) => some piece
  | _ => none

end BodyLine

/-- A hunk with the numbers of its header. -/
structure NumberedHunk where
  /-- The number of its first line in the old version. -/
  old : Nat
  oldCount : Option Nat
  /-- The number of its first line in the new version. -/
  new : Nat
  newCount : Option Nat
  /-- What stands behind the numbers in the header. -/
  heading : Text
  body : List BodyLine

namespace NumberedHunk

/-- The lines of the hunk. -/
def lines (h : NumberedHunk) : List Text :=
  Diff.hunkHeader h.old h.oldCount h.new h.newCount h.heading :: h.body.map BodyLine.printed

/-- The number of the line of the new version at a place of the body. -/
def numberAt (h : NumberedHunk) (i : Nat) : Nat := h.new + (h.body.take i).countP BodyLine.isNew

/-- The lines that the hunk adds. -/
def added (h : NumberedHunk) : List AddedLine :=
  h.body.zipIdx.filterMap fun (l, i) => l.added?.map fun piece => ⟨h.numberAt i, piece⟩

end NumberedHunk

/-- The part of a difference that is about one file. -/
structure FileSection where
  /-- The lines before the first hunk. -/
  opening : List Text
  hunks : List NumberedHunk
  /-- No line before the first hunk looks like the header of one. -/
  no_header : ∀ l ∈ opening, "@@".toList.isPrefixOf l = false

namespace FileSection

/-- The lines of the section. -/
def lines (s : FileSection) : List Text := s.opening ++ s.hunks.flatMap NumberedHunk.lines

/-- The lines that the section adds. -/
def added (s : FileSection) : List AddedLine := s.hunks.flatMap NumberedHunk.added

/-- Whether the first line names the two versions of a file. -/
def namesFile (s : FileSection) : Bool :=
  match s.opening with
  | [] => false
  | l :: _ => "diff --git".toList.isPrefixOf l

end FileSection

/-! ## One hunk -/

namespace BodyLine

/-- A printed line names no file. -/
theorem not_names_printed (l : BodyLine) : "diff --git".toList.isPrefixOf l.printed = false := by
  rcases l with e | -
  · cases e <;> rfl
  · rfl

/-- A printed line starts no hunk. -/
theorem not_hunk_printed (l : BodyLine) : "@@".toList.isPrefixOf l.printed = false := by
  rcases l with e | -
  · cases e <;> rfl
  · rfl

/-- A line of a body gives the line that it adds, and moves on if it stands in the new version. -/
theorem addedFrom_printed (l : BodyLine) (n : Nat) (rest : List Text) :
    Diff.addedFrom (some n) (l.printed :: rest) =
      (l.added?.map fun piece => ⟨n, piece⟩).toList ++
        Diff.addedFrom (some (n + if l.isNew then 1 else 0)) rest := by
  rw [Diff.addedFrom.eq_def]
  dsimp only
  rw [l.not_names_printed, if_neg Bool.false_ne_true, Diff.hunkStart?_eq_none l.not_hunk_printed]
  rcases l with e | -
  · cases e <;> rfl
  · rfl

end BodyLine

namespace NumberedHunk

/-- A body gives its added lines, numbered by the lines of the new version that stand before them. The
lines in `done` are those that have been read. -/
theorem addedFrom_body (new : Nat) (done ls : List BodyLine) (rest : List Text) :
    Diff.addedFrom (some (new + done.countP BodyLine.isNew)) (ls.map BodyLine.printed ++ rest) =
      ((ls.zipIdx done.length).filterMap fun (l, i) => l.added?.map fun piece =>
        ⟨new + ((done ++ ls).take i).countP BodyLine.isNew, piece⟩) ++
      Diff.addedFrom (some (new + (done ++ ls).countP BodyLine.isNew)) rest := by
  induction ls generalizing done with
  | nil => simp
  | cons l ls ih =>
    have hsplit : done ++ l :: ls = done ++ [l] ++ ls := by simp
    have hcount : new + done.countP BodyLine.isNew + (if l.isNew then 1 else 0) =
        new + (done ++ [l]).countP BodyLine.isNew := by
      rw [List.countP_append, List.countP_singleton, Nat.add_assoc]
    have hlength : done.length + 1 = (done ++ [l]).length := by simp
    have htake : (done ++ [l] ++ ls).take done.length = done := by
      rw [List.append_assoc, List.take_left]
    rw [List.map_cons, List.cons_append, BodyLine.addedFrom_printed, hcount, ih, hsplit,
      List.zipIdx_cons, List.filterMap_cons, hlength]
    dsimp only
    rw [htake]
    cases l.added? <;> rfl

/-- Reading a hunk gives what it adds, whatever was read before. -/
theorem exists_addedFrom_lines (h : NumberedHunk) (next : Option Nat) (rest : List Text) :
    ∃ next', Diff.addedFrom next (h.lines ++ rest) = h.added ++ Diff.addedFrom next' rest := by
  refine ⟨some (h.new + h.body.countP BodyLine.isNew), ?_⟩
  rw [lines, List.cons_append, Diff.addedFrom_header next _ rfl (Diff.hunkStart?_hunkHeader _ _ _ _ _)]
  exact addedFrom_body h.new [] h.body rest

/-- A hunk can be read exactly if its number is not too long. -/
theorem readable_iff (h : NumberedHunk) :
    (∀ l ∈ h.lines, Diff.hunkError? l = none) ↔ Text.fitsNumeral h.new = true := by
  rw [lines, List.forall_mem_cons, Diff.hunkError?_hunkHeader_eq_none_iff, and_iff_left_iff_imp]
  intro _ l hl
  obtain ⟨b, -, rfl⟩ := List.mem_map.1 hl
  exact Diff.hunkError?_eq_none b.not_hunk_printed

end NumberedHunk

/-! ## Sections -/

namespace FileSection

/-- Hunks add their lines, whatever number the lines in front of them had reached. -/
theorem exists_addedFrom_hunks (hs : List NumberedHunk) (next : Option Nat) (rest : List Text) :
    ∃ next', Diff.addedFrom next (hs.flatMap NumberedHunk.lines ++ rest) =
      hs.flatMap NumberedHunk.added ++ Diff.addedFrom next' rest := by
  induction hs generalizing next with
  | nil => exact ⟨next, rfl⟩
  | cons h hs ih =>
    obtain ⟨middle, hmiddle⟩ := h.exists_addedFrom_lines next (hs.flatMap NumberedHunk.lines ++ rest)
    obtain ⟨next', hnext⟩ := ih middle
    refine ⟨next', ?_⟩
    rw [List.flatMap_cons, List.flatMap_cons, List.append_assoc, hmiddle, hnext, List.append_assoc]

/-- Lines in front of the first hunk add nothing. -/
theorem addedFrom_opening {ls : List Text} (h : ∀ l ∈ ls, "@@".toList.isPrefixOf l = false)
    (rest : List Text) : Diff.addedFrom none (ls ++ rest) = Diff.addedFrom none rest := by
  induction ls with
  | nil => rfl
  | cons l ls ih =>
    have hl := Diff.hunkStart?_eq_none (h l List.mem_cons_self)
    rw [List.cons_append, Diff.addedFrom_outside _ hl]
    exact ih fun m hm => h m (List.mem_cons_of_mem l hm)

/-- A line that names a file ends the hunk before it. -/
theorem addedFrom_namesFile {s : FileSection} (h : s.namesFile = true) (next : Option Nat)
    (rest : List Text) : Diff.addedFrom next (s.lines ++ rest) = Diff.addedFrom none (s.lines ++ rest) := by
  unfold namesFile at h
  unfold lines
  cases hopening : s.opening with
  | nil =>
    rw [hopening] at h
    cases h
  | cons l ls =>
    rw [hopening] at h
    rw [List.cons_append, List.cons_append, Diff.addedFrom.eq_def, Diff.addedFrom.eq_def none]
    dsimp only at h ⊢
    rw [if_pos h, if_pos h]

/-- Reading a section gives what it adds, if it is the first one or names a file. -/
theorem exists_addedFrom_lines (s : FileSection) {next : Option Nat}
    (h : next = none ∨ s.namesFile = true) (rest : List Text) :
    ∃ next', Diff.addedFrom next (s.lines ++ rest) = s.added ++ Diff.addedFrom next' rest := by
  have hnone : Diff.addedFrom next (s.lines ++ rest) = Diff.addedFrom none (s.lines ++ rest) := by
    rcases h with rfl | hnames
    · rfl
    · exact addedFrom_namesFile hnames next rest
  obtain ⟨next', hnext⟩ := exists_addedFrom_hunks s.hunks none rest
  refine ⟨next', ?_⟩
  rw [hnone, lines, List.append_assoc, addedFrom_opening s.no_header, hnext]
  rfl

/-- Reading the lines of several sections gives what each of them adds. -/
theorem addedFrom_sections {ss : List FileSection} (next : Option Nat)
    (hfirst : next = none ∨ ∀ s ∈ ss, s.namesFile = true)
    (hlater : ∀ s ∈ ss.tail, s.namesFile = true) :
    Diff.addedFrom next (ss.flatMap lines) = ss.flatMap added := by
  induction ss generalizing next with
  | nil => rfl
  | cons s ss ih =>
    have hs : next = none ∨ s.namesFile = true :=
      hfirst.imp_right fun h => h s List.mem_cons_self
    obtain ⟨next', hnext⟩ := s.exists_addedFrom_lines hs (ss.flatMap lines)
    rw [List.flatMap_cons, hnext, List.flatMap_cons]
    congr 1
    apply ih next' (.inr hlater)
    intro s' hs'
    exact hlater s' (List.mem_of_mem_tail hs')

/-- The headers of several sections can be read exactly if none of their numbers is too long. -/
theorem hunkErrors_eq_none_iff (ss : List FileSection) :
    (ss.flatMap lines).findSome? Diff.hunkError? = none ↔
      ∀ s ∈ ss, ∀ h ∈ s.hunks, Text.fitsNumeral h.new = true := by
  rw [List.findSome?_eq_none_iff, List.forall_mem_flatMap]
  apply forall_congr'
  intro s
  apply imp_congr_right
  intro _
  unfold lines
  rw [List.forall_mem_append, List.forall_mem_flatMap]
  have hopening : ∀ l ∈ s.opening, Diff.hunkError? l = none :=
    fun l hl => Diff.hunkError?_eq_none (s.no_header l hl)
  rw [and_iff_right hopening]
  exact forall₂_congr fun h _ => h.readable_iff

variable {ss : List FileSection} {t : Text}

/-- The first error among the lines of a text is that of the sections. -/
theorem hunkErrors_lines (hplain : ∀ l ∈ ss.flatMap lines, ∀ c ∈ l, Text.isLineEnd c = false)
    (ht : Text.IsLined (ss.flatMap lines) t) :
    (Text.lines t).findSome? Diff.hunkError? = (ss.flatMap lines).findSome? Diff.hunkError? := by
  rcases Text.lines_of_isLined hplain ht with heq | heq
  · rw [heq]
  · rw [← heq, List.findSome?_append, show [[]].findSome? Diff.hunkError? = none from rfl, Option.or_none]

/-- A difference can be read exactly if none of the numbers in its headers is too long. -/
theorem readable_iff (hplain : ∀ l ∈ ss.flatMap lines, ∀ c ∈ l, Text.isLineEnd c = false)
    (ht : Text.IsLined (ss.flatMap lines) t) :
    Diff.Readable t ↔ ∀ s ∈ ss, ∀ h ∈ s.hunks, Text.fitsNumeral h.new = true := by
  rw [← hunkErrors_eq_none_iff, ← hunkErrors_lines hplain ht]
  unfold Diff.Readable Diff.read
  cases (Text.lines t).findSome? Diff.hunkError? with
  | none => simp
  | some e => simp

/-- What a text of sections adds is what they add, one after the other. -/
theorem added_ofText (hlater : ∀ s ∈ ss.tail, s.namesFile = true)
    (hplain : ∀ l ∈ ss.flatMap lines, ∀ c ∈ l, Text.isLineEnd c = false)
    (ht : Text.IsLined (ss.flatMap lines) t) : (Diff.ofText t).added = ss.flatMap added := by
  have hall := addedFrom_sections none (.inl rfl) hlater
  unfold Diff.ofText
  dsimp only
  rw [← hall]
  rcases Text.lines_of_isLined hplain ht with heq | heq
  · rw [heq]
  · rw [← heq, Diff.addedFrom_concat_nil]

/-- A difference with one section or several, in which no line holds an end of a line, can be read exactly
if none of the numbers of new lines in its headers is too long. It is read as the added lines of the bodies
in their order, each with its number. -/
theorem read_sections (hlater : ∀ s ∈ ss.tail, s.namesFile = true)
    (hplain : ∀ l ∈ ss.flatMap lines, ∀ c ∈ l, Text.isLineEnd c = false)
    (ht : Text.IsLined (ss.flatMap lines) t) :
    (Diff.Readable t ↔ ∀ s ∈ ss, ∀ h ∈ s.hunks, Text.fitsNumeral h.new = true) ∧
      ∀ d, Diff.read t = .ok d → d.added = ss.flatMap added := by
  refine ⟨readable_iff hplain ht, ?_⟩
  intro d hd
  have hadded := added_ofText hlater hplain ht
  unfold Diff.read at hd
  split at hd
  · cases hd
  · cases hd
    exact hadded

/-- Two sections whose contents look like headers and names of files. -/
def lookalikes : List FileSection :=
  [{ opening := ["--- a/x.js".toList, "+++ b/x.js".toList]
     hunks := [⟨1, some 3, 1, some 4, " save".toList,
      [.edit (.keep "a".toList), .edit (.add "++ b/x".toList), .edit (.drop "-- a/x".toList), .empty,
        .edit (.add "@@ -1 +1 @@".toList), .edit (.note " No newline at end of file".toList)]⟩]
     no_header := by decide +kernel },
   { opening := ["diff --git a/y.js b/y.js".toList]
     hunks := [⟨7, none, 9, none, [], [.edit (.add "diff --git a/z b/z".toList)]⟩]
     no_header := by decide +kernel }]

/-- Lines that look like headers inside of hunks are read as lines. -/
theorem read_sections_lookalikes :
    let t := Text.closedLines (lookalikes.flatMap lines)
    (∀ s ∈ lookalikes.tail, s.namesFile = true) ∧
      (∀ l ∈ lookalikes.flatMap lines, ∀ c ∈ l, Text.isLineEnd c = false) ∧
      Text.IsLined (lookalikes.flatMap lines) t ∧
      ∃ d, Diff.read t = .ok d ∧ d.added =
        [⟨2, "++ b/x".toList⟩, ⟨4, "@@ -1 +1 @@".toList⟩, ⟨9, "diff --git a/z b/z".toList⟩] := by
  intro t
  have hlater : ∀ s ∈ lookalikes.tail, s.namesFile = true := by decide +kernel
  have hany : ∀ l ∈ lookalikes.flatMap lines, l.any Text.isLineEnd = false := by decide +kernel
  have hplain := fun l hl => Text.not_lineEnd_of_any (hany l hl)
  have ht : Text.IsLined (lookalikes.flatMap lines) t := .inr rfl
  obtain ⟨hreadable, hadded⟩ := read_sections hlater hplain ht
  have hfits : ∀ s ∈ lookalikes, ∀ h ∈ s.hunks, Text.fitsNumeral h.new = true := by decide +kernel
  obtain ⟨d, hd⟩ := hreadable.2 hfits
  have hexpected : lookalikes.flatMap added =
      [⟨2, "++ b/x".toList⟩, ⟨4, "@@ -1 +1 @@".toList⟩, ⟨9, "diff --git a/z b/z".toList⟩] := by
    decide +kernel
  exact ⟨hlater, hplain, ht, d, hd, (hadded d hd).trans hexpected⟩

/-- A section whose only hunk starts at the least number that is too long. -/
def distant : FileSection where
  opening := []
  hunks := [⟨1, none, 10 ^ Text.longestNumeral, none, [], [.edit (.keep ['x'])]⟩]
  no_header := by simp

/-- The header with a distant start is one line. -/
theorem isLineEnd_distant : ∀ l ∈ distant.lines, ∀ c ∈ l, Text.isLineEnd c = false := by
  have hlines : distant.lines = [Diff.hunkHeader 1 none (10 ^ Text.longestNumeral) none [], " x".toList] :=
    rfl
  rw [hlines, List.forall_mem_cons, List.forall_mem_singleton]
  exact ⟨Diff.isLineEnd_hunkHeader (by simp) _ _ _ _, Text.not_lineEnd_of_any (by decide)⟩

/-- A difference with too long a number in a header is not read at all, although it adds nothing. -/
theorem not_read_distant :
    let t := Text.closedLines ([distant].flatMap lines)
    (∀ s ∈ [distant].tail, s.namesFile = true) ∧
      (∀ l ∈ [distant].flatMap lines, ∀ c ∈ l, Text.isLineEnd c = false) ∧
      [distant].flatMap added = [] ∧ ¬ ∃ d, Diff.read t = .ok d ∧ d.added = [distant].flatMap added := by
  intro t
  have hplain : ∀ l ∈ [distant].flatMap lines, ∀ c ∈ l, Text.isLineEnd c = false := by
    rw [List.flatMap_singleton]
    exact isLineEnd_distant
  refine ⟨by simp, hplain, rfl, ?_⟩
  rintro ⟨d, hd, -⟩
  have hfits := (readable_iff hplain (.inr rfl)).1 ⟨d, hd⟩ distant (by simp) _ (List.mem_singleton_self _)
  exact Nat.lt_irrefl _ (Text.fitsNumeral_iff.1 hfits)

end FileSection

end UxLint
