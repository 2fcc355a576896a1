import UxLint.Diff
import UxLint.Proofs.Text.Lines
import UxLint.Proofs.Text.Numerals

/-!
# Headers of hunks

A hunk starts with a line that names the first line of the hunk in either version of the file, and how many
lines of that version it shows. Whatever the four numbers are, the digits of the number in the new version
are found in that line (`hunkDigits?_hunkHeader`). A line that does not start with two at-signs is no header.
-/

set_option autoImplicit false

namespace UxLint.Diff

/-- A count of lines as it stands behind a number, if it is shown. -/
def shownCount : Option Nat → Text
  | none => []
  | some count => ',' :: Nat.toDigits 10 count

/-- The header of a hunk with the given numbers and counts. -/
def hunkHeader (old : Nat) (oldCount : Option Nat) (new : Nat) (newCount : Option Nat)
    (heading : Text) : Text :=
  "@@ -".toList ++ (Nat.toDigits 10 old ++ (shownCount oldCount ++
    (" +".toList ++ (Nat.toDigits 10 new ++ (shownCount newCount ++ (" @@".toList ++ heading))))))

/-- The digits of a number are read up to what is no digit. -/
theorem digits?_toDigits (n : Nat) {t : Text} (h : t.head?.all (fun c => !Text.isDecimal c) = true) :
    digits? (Nat.toDigits 10 n ++ t) = some (Nat.toDigits 10 n, t) := by
  have hall : ∀ c ∈ Nat.toDigits 10 n, Text.isDecimal c = true :=
    fun c => Text.isDecimal_of_mem_toDigits
  have hstop : t.takeWhile Text.isDecimal = [] ∧ t.dropWhile Text.isDecimal = t := by
    cases t with
    | nil => exact ⟨rfl, rfl⟩
    | cons c t =>
      have hc : Text.isDecimal c = false := by simpa using h
      simp [hc]
  have htake : (Nat.toDigits 10 n ++ t).takeWhile Text.isDecimal = Nat.toDigits 10 n := by
    rw [List.takeWhile_append_of_pos hall, hstop.1, List.append_nil]
  have hdrop : (Nat.toDigits 10 n ++ t).dropWhile Text.isDecimal = t := by
    rw [List.dropWhile_append_of_pos hall, hstop.2]
  have hne : Nat.toDigits 10 n ≠ [] := by simp
  unfold digits?
  rw [htake, hdrop]
  split
  · next hnil => exact absurd hnil hne
  · rfl

/-- The digits in front of a count are read up to it. -/
theorem digits?_shownCount (n : Nat) (count : Option Nat) (t : Text) :
    digits? (Nat.toDigits 10 n ++ (shownCount count ++ ' ' :: t)) =
      some (Nat.toDigits 10 n, shownCount count ++ ' ' :: t) := by
  apply digits?_toDigits n
  cases count <;> rfl

/-- A count that is shown is passed over. -/
theorem behindCount?_shownCount (count : Option Nat) (t : Text) :
    behindCount? (shownCount count ++ ' ' :: t) = some (' ' :: t) := by
  cases count with
  | none => rfl
  | some count =>
    rw [shownCount, List.cons_append, behindCount?, digits?_toDigits count rfl]
    rfl

/-- What stands behind a start is found. -/
theorem behind?_append (start : String) (t : Text) :
    behind? start (start.toList ++ t) = some t := by
  unfold behind?
  rw [if_pos (List.isPrefixOf_iff_prefix.2 (List.prefix_append _ _)), List.drop_left]

/-- The number in the new version is found in a header, whatever stands behind it. -/
theorem hunkDigits?_hunkHeader (old : Nat) (oldCount : Option Nat) (new : Nat)
    (newCount : Option Nat) (heading : Text) :
    hunkDigits? (hunkHeader old oldCount new newCount heading) = some (Nat.toDigits 10 new) := by
  have hplus (t : Text) : " +".toList ++ t = ' ' :: '+' :: t := rfl
  have hat (t : Text) : " @@".toList ++ t = ' ' :: '@' :: '@' :: t := rfl
  unfold hunkDigits? hunkHeader
  simp only [behind?_append, Option.bind_eq_bind, Option.bind_some, hplus, digits?_shownCount,
    behindCount?_shownCount]
  rw [← hplus, behind?_append, Option.bind_some, hat, digits?_shownCount, Option.bind_some,
    behindCount?_shownCount, Option.bind_some, ← hat, behind?_append]
  rfl

/-- A header says where its new lines start. -/
theorem hunkStart?_hunkHeader (old : Nat) (oldCount : Option Nat) (new : Nat)
    (newCount : Option Nat) (heading : Text) :
    hunkStart? (hunkHeader old oldCount new newCount heading) = some new := by
  rw [hunkStart?, hunkDigits?_hunkHeader]
  exact Text.decimalNumber?_toDigits new

/-- A header can be read exactly if its number is not too long. -/
theorem hunkError?_hunkHeader_eq_none_iff {old : Nat} {oldCount : Option Nat} {new : Nat}
    {newCount : Option Nat} {heading : Text} :
    hunkError? (hunkHeader old oldCount new newCount heading) = none ↔
      Text.fitsNumeral new = true := by
  rw [hunkError?, hunkDigits?_hunkHeader, Option.map_some]
  constructor
  · intro h
    by_contra hlong
    rw [Text.wholeNumber_toDigits_of_not_fits (Bool.eq_false_iff.2 hlong)] at h
    cases h
  · intro hfits
    rw [Text.wholeNumber_toDigits hfits]

/-- No digit ends a line. -/
theorem isLineEnd_toDigits {n : Nat} {c : Char} (h : c ∈ Nat.toDigits 10 n) :
    Text.isLineEnd c = false := by
  have hbounds : 0x30 ≤ c.toNat ∧ c.toNat ≤ 0x39 := by
    simpa [Char.isDigit, UInt32.le_iff_toNat_le] using Text.isDigit_of_mem_toDigits h
  simp only [Text.isLineEnd, Text.inRanges, List.any_cons, List.any_nil, Bool.or_false,
    Bool.or_eq_false_iff, Bool.and_eq_false_iff, decide_eq_false_iff_not]
  omega

/-- A header is one line if its heading is. -/
theorem isLineEnd_hunkHeader {heading : Text} (h : ∀ c ∈ heading, Text.isLineEnd c = false)
    (old : Nat) (oldCount : Option Nat) (new : Nat) (newCount : Option Nat) :
    ∀ c ∈ hunkHeader old oldCount new newCount heading, Text.isLineEnd c = false := by
  have hany : ∀ s ∈ ["@@ -", " +", " @@"], s.toList.any Text.isLineEnd = false := by decide
  have hsign (s : String) (hs : s ∈ ["@@ -", " +", " @@"]) := Text.not_lineEnd_of_any (hany s hs)
  have hcount (count : Option Nat) : ∀ c ∈ shownCount count, Text.isLineEnd c = false := by
    cases count with
    | none => simp [shownCount]
    | some n => exact List.forall_mem_cons.2 ⟨by decide, fun c => isLineEnd_toDigits⟩
  unfold hunkHeader
  simp only [List.forall_mem_append]
  exact ⟨hsign _ (by simp), fun c => isLineEnd_toDigits, hcount oldCount, hsign _ (by simp),
    fun c => isLineEnd_toDigits, hcount newCount, hsign _ (by simp), h⟩

/-! ## Other lines -/

/-- A line that starts no hunk has no digits of one. -/
theorem hunkDigits?_eq_none {line : Text} (h : "@@".toList.isPrefixOf line = false) :
    hunkDigits? line = none := by
  have hstart : "@@ -".toList.isPrefixOf line = false := by
    rw [Bool.eq_false_iff]
    intro hprefix
    have hshort : "@@".toList <+: line :=
      List.IsPrefix.trans ⟨" -".toList, rfl⟩ (List.isPrefixOf_iff_prefix.1 hprefix)
    rw [List.isPrefixOf_iff_prefix.2 hshort] at h
    cases h
  unfold hunkDigits? behind?
  rw [hstart]
  rfl

/-- A line that starts no hunk says nowhere that lines start. -/
theorem hunkStart?_eq_none {line : Text} (h : "@@".toList.isPrefixOf line = false) :
    hunkStart? line = none := by
  rw [hunkStart?, hunkDigits?_eq_none h]
  rfl

/-- A line that starts no hunk has no error of one. -/
theorem hunkError?_eq_none {line : Text} (h : "@@".toList.isPrefixOf line = false) :
    hunkError? line = none := by
  rw [hunkError?, hunkDigits?_eq_none h]
  rfl

/-- A header sets the number of the next line. -/
theorem addedFrom_header {line : Text} {start : Nat} (next : Option Nat) (rest : List Text)
    (hnames : "diff --git".toList.isPrefixOf line = false) (hstart : hunkStart? line = some start) :
    addedFrom next (line :: rest) = addedFrom (some start) rest := by
  rw [addedFrom.eq_def]
  dsimp only
  rw [hnames, if_neg Bool.false_ne_true, hstart]

/-- Outside of hunks a line that starts none adds nothing. -/
theorem addedFrom_outside {line : Text} (rest : List Text) (hstart : hunkStart? line = none) :
    addedFrom none (line :: rest) = addedFrom none rest := by
  rw [addedFrom.eq_def]
  dsimp only
  rw [hstart]
  split <;> rfl

/-- An empty line at the end adds nothing. -/
theorem addedFrom_concat_nil (next : Option Nat) (ls : List Text) :
    addedFrom next (ls ++ [[]]) = addedFrom next ls := by
  induction ls generalizing next with
  | nil => cases next <;> rfl
  | cons l ls ih =>
    rw [List.cons_append, addedFrom.eq_def next (l :: (ls ++ [[]])), addedFrom.eq_def next (l :: ls)]
    dsimp only
    simp only [ih]

end UxLint.Diff
