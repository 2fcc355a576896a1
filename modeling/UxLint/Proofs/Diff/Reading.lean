import UxLint.Diff
import UxLint.Proofs.Text.Lines
import Mathlib.Data.List.TakeWhile

/-!
# Reading differences

An empty difference makes the whole file count as added. A difference can be read unless a hunk starts at
a number with more digits than a numeral may have; `read_header` gives such a difference for every number
of digits that is too large.
-/

set_option autoImplicit false

namespace UxLint

namespace Diff

/-- Whether a difference can be read. -/
def Readable (diff : Text) : Prop := ∃ d, read diff = .ok d

/-- What an empty difference says. -/
def whole : Diff := ofText []

/-- The empty difference stands for the whole file. -/
theorem read_nil : read [] = .ok whole := rfl

/-- The whole of a file is new. -/
theorem isNew_whole : whole.isNew = true := rfl

/-- The whole of a file touches every line. -/
theorem touches_whole (first last : Int) : whole.touches first last = true := rfl

end Diff

namespace Diff

/-- The header of a hunk whose first new line has the given digits as its number. -/
def header (digits : Text) : Text := "@@ -1 +".toList ++ (digits ++ " @@".toList)

variable {digits : Text} (h : ∀ c ∈ digits, c = '1')
include h

/-- The digits in a header are read as they are. -/
theorem hunkDigits?_header (hne : digits ≠ []) : hunkDigits? (header digits) = some digits := by
  have htake : (digits ++ " @@".toList).takeWhile Text.isDecimal = digits := by
    rw [List.takeWhile_append_of_pos fun c hc => by rw [h c hc]; decide]
    exact List.append_nil _
  have hdrop : (digits ++ " @@".toList).dropWhile Text.isDecimal = " @@".toList := by
    rw [List.dropWhile_append_of_pos fun c hc => by rw [h c hc]; decide]
    rfl
  have hdigits : digits? (digits ++ " @@".toList) = some (digits, " @@".toList) := by
    unfold digits?
    rw [htake, hdrop]
    cases digits with
    | nil => exact absurd rfl hne
    | cons c t => rfl
  change (digits? (digits ++ " @@".toList)).bind _ = _
  rw [hdigits]
  rfl

/-- A difference whose hunk starts at a number with too many digits cannot be read. -/
theorem read_header (hlong : Text.longestNumeral < digits.length) :
    read (header digits) = .error (.numeral (.tooLong digits.length)) := by
  have hne : digits ≠ [] := by
    rintro rfl
    exact Nat.not_lt_zero _ hlong
  have hstart : "@@ -1 +".toList.any Text.isLineEnd = false := by decide
  have hstop : " @@".toList.any Text.isLineEnd = false := by decide
  have hends : ∀ c ∈ header digits, Text.isLineEnd c = false := by
    intro c hc
    rcases List.mem_append.1 hc with hc | hc
    · exact Bool.eq_false_iff.2 (List.any_eq_false.1 hstart c hc)
    · rcases List.mem_append.1 hc with hc | hc
      · rw [h c hc]
        decide
      · exact Bool.eq_false_iff.2 (List.any_eq_false.1 hstop c hc)
  have hwhole : Text.wholeNumber digits = .error (.tooLong digits.length) := by
    have htake : digits.takeWhile Text.isDecimal = digits :=
      List.takeWhile_eq_self_iff.2 fun c hc => by rw [h c hc]; decide
    unfold Text.wholeNumber
    rw [htake]
    dsimp only
    rw [if_pos hlong]
  have herror : hunkError? (header digits) = some (.tooLong digits.length) := by
    unfold hunkError?
    rw [hunkDigits?_header h hne, Option.map_some, hwhole]
  unfold read
  have hheader : header digits ≠ [] := List.append_ne_nil_of_left_ne_nil (by decide) _
  rw [Text.lines_of_no_end hends hheader, List.findSome?_cons, herror]

end Diff

end UxLint
