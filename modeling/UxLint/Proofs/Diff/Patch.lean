import UxLint.Diff
import UxLint.Proofs.Text.Lines

/-!
# Printed differences

A patch says how a file was changed: the lines that no hunk shows, and the hunks with the lines that they
keep, add and drop. It is printed with a line feed behind every line. The lines that it adds are numbered
by their places among all lines of the new version (`mem_addedLines`).
-/

set_option autoImplicit false

namespace UxLint

/-- A line of the new version of a file. -/
structure NewLine where
  /-- Whether the change added the line. -/
  isAdded : Bool
  piece : Text
  deriving DecidableEq, Repr

/-- What a hunk says about one line. -/
inductive Edit where
  /-- The line stands in both versions. -/
  | keep (piece : Text)
  /-- The line stands in the new version only. -/
  | add (piece : Text)
  /-- The line stands in the old version only. -/
  | drop (piece : Text)
  /-- A note about the line before, such as that no line feed closes it. -/
  | note (remark : Text)

/-- A run of changed lines, with some of the lines around them. -/
structure Hunk where
  /-- The lines of both versions between the hunk before and this one. -/
  skipped : List Text
  /-- What stands behind the numbers in the header of the hunk. -/
  heading : Text
  edits : List Edit

/-- The change of one file. -/
structure Patch where
  /-- The names of the file before and after the change. -/
  names : Text
  /-- The lines between the one with the names and the first hunk. -/
  extended : List Text
  hunks : List Hunk
  /-- The lines of both versions behind the last hunk. -/
  unshown : List Text

namespace NewLine

/-- A line that stands in both versions. -/
def kept (piece : Text) : NewLine := ⟨false, piece⟩

end NewLine

namespace Edit

/-- The line of the new version, if the edit tells one. -/
def newLine? : Edit → Option NewLine
  | keep piece => some ⟨false, piece⟩
  | add piece => some ⟨true, piece⟩
  | drop _ => none
  | note _ => none

/-- Whether the edit tells a line of the old version. -/
def isOld : Edit → Bool
  | keep _ => true
  | drop _ => true
  | add _ => false
  | note _ => false

/-- The character that marks the edit. -/
def mark : Edit → Char
  | keep _ => ' '
  | add _ => '+'
  | drop _ => '-'
  | note _ => '\\'

/-- What stands behind the mark. -/
def shown : Edit → Text
  | keep piece => piece
  | add piece => piece
  | drop piece => piece
  | note remark => remark

/-- The printed line. -/
def printed (e : Edit) : Text := e.mark :: e.shown

end Edit

namespace Hunk

/-- The lines of the new version that the edits tell. -/
def editedLines (h : Hunk) : List NewLine := h.edits.filterMap Edit.newLine?

/-- The lines of the new version from the hunk before to the end of this one. -/
def newLines (h : Hunk) : List NewLine := h.skipped.map NewLine.kept ++ h.editedLines

/-- The number of lines of the old version that the edits tell. -/
def oldCount (h : Hunk) : Nat := h.edits.countP Edit.isOld

/-- The number of the first of `count` lines with `before` lines before them; without any line, the number
of the line before. -/
def firstOf (before count : Nat) : Nat := if count = 0 then before else before + 1

/-- A count of lines as it stands behind a number; a single line is not counted. -/
def printedCount (count : Nat) : Text := if count = 1 then [] else ',' :: Nat.toDigits 10 count

/-- The header of the hunk behind `old` and `new` lines of the two versions. -/
def header (h : Hunk) (old new : Nat) : Text :=
  "@@ -".toList ++ (Nat.toDigits 10 (firstOf old h.oldCount) ++ (printedCount h.oldCount ++
    (" +".toList ++ (Nat.toDigits 10 (firstOf new h.editedLines.length) ++
      (printedCount h.editedLines.length ++ (" @@".toList ++ h.heading))))))

end Hunk

namespace Patch

/-- The lines of hunks that start behind `old` and `new` lines of the two versions. -/
def hunkLines (old new : Nat) : List Hunk → List Text
  | [] => []
  | h :: hs =>
    h.header (old + h.skipped.length) (new + h.skipped.length) ::
      (h.edits.map Edit.printed ++
        hunkLines (old + h.skipped.length + h.oldCount) (new + h.newLines.length) hs)

/-- The lines of the print. -/
def lines (p : Patch) : List Text :=
  ("diff --git ".toList ++ p.names) :: (p.extended ++ hunkLines 0 0 p.hunks)

/-- The print. -/
def text (p : Patch) : Text := Text.closedLines p.lines

/-- The lines of the new version. -/
def newLines (p : Patch) : List NewLine :=
  p.hunks.flatMap Hunk.newLines ++ p.unshown.map NewLine.kept

/-- Whether a text is the new version: its pieces between line feeds are the new lines, and an empty one
if a line feed closes the last. -/
def Makes (p : Patch) (new : Text) : Prop :=
  Text.pieces '\n' new = p.newLines.map (·.piece) ∨
    Text.pieces '\n' new = p.newLines.map (·.piece) ++ [[]]

/-- Whether a line before the first hunk neither starts a hunk nor says that the file is new. -/
def isNeutral (line : Text) : Bool :=
  !("@@".toList.isPrefixOf line || "new file mode".toList.isPrefixOf line ||
    "--- /dev/null".toList.isPrefixOf line)

/-- The added ones among lines with numbers from `first` on. -/
def numbered (first : Nat) (ls : List NewLine) : List AddedLine :=
  (ls.zipIdx first).filterMap fun (l, number) =>
    if l.isAdded then some ⟨number, Text.withoutReturn l.piece⟩ else none

/-- The lines that the change adds, each with its number in the new version. -/
def addedLines (p : Patch) : List AddedLine := numbered 1 p.newLines

/-! ## Numbering -/

/-- The first new line has the first number, and the others those behind it. -/
theorem numbered_cons (first : Nat) (l : NewLine) (ls : List NewLine) :
    numbered first (l :: ls) =
      (if l.isAdded then [⟨first, Text.withoutReturn l.piece⟩] else []) ++ numbered (first + 1) ls := by
  obtain ⟨added, piece⟩ := l
  cases added <;> rfl

/-- New lines are numbered on from those in front of them. -/
theorem numbered_append (first : Nat) (ls ms : List NewLine) :
    numbered first (ls ++ ms) = numbered first ls ++ numbered (first + ls.length) ms := by
  unfold numbered
  rw [List.zipIdx_append, List.filterMap_append]

/-- Lines that are kept add nothing. -/
theorem numbered_kept (first : Nat) (pieces : List Text) :
    numbered first (pieces.map NewLine.kept) = [] := by
  induction pieces generalizing first with
  | nil => rfl
  | cons t ts ih =>
    rw [List.map_cons, numbered_cons, ih]
    rfl

/-- A patch adds the new lines that are marked so, each with its place in the new file. -/
theorem mem_addedLines {p : Patch} {a : AddedLine} :
    a ∈ p.addedLines ↔ ∃ i l, p.newLines[i]? = some l ∧ l.isAdded = true ∧
      a = ⟨i + 1, Text.withoutReturn l.piece⟩ := by
  unfold addedLines numbered
  rw [List.mem_filterMap]
  constructor
  · rintro ⟨⟨l, number⟩, hmem, ha⟩
    obtain ⟨hle, hget⟩ := List.mem_zipIdx_iff_le_and_getElem?_sub.1 hmem
    dsimp only at hle hget ha
    split at ha
    · next hadded =>
      cases ha
      refine ⟨number - 1, l, hget, hadded, ?_⟩
      rw [Nat.sub_add_cancel hle]
    · cases ha
  · rintro ⟨i, l, hget, hadded, rfl⟩
    refine ⟨(l, i + 1), List.mem_zipIdx_iff_le_and_getElem?_sub.2 ⟨Nat.le_add_left 1 i, hget⟩, ?_⟩
    dsimp only
    rw [if_pos hadded]

end Patch

end UxLint
