import UxLint.Text.Numeral
import Mathlib.Algebra.Group.Nat.Defs
import Mathlib.Data.List.TakeWhile

/-!
# Written numbers

A whole number that is written with the ten common digits is read back as itself, unless it needs more
digits than a numeral may have (`wholeNumber_toDigits`).
-/

set_option autoImplicit false

namespace UxLint.Text

/-- The value of a plain digit counts from zero. -/
theorem decimalValue?_of_isDigit {c : Char} (h : c.isDigit = true) :
    decimalValue? c = some (c.toNat - '0'.toNat) := by
  have hbounds : 0x30 ≤ c.toNat ∧ c.toNat ≤ 0x39 := by
    simpa [Char.isDigit, UInt32.le_iff_toNat_le] using h
  -- The common digits come first among those of all scripts.
  have hzeros : zeros = 0x30 :: zeros.tail := rfl
  have hfound : zeros.find? (fun z => z ≤ c.toNat && c.toNat ≤ z + 9) = some 0x30 := by
    rw [hzeros]
    exact List.find?_cons_of_pos (by simpa using hbounds)
  unfold decimalValue?
  rw [hfound]
  rfl

/-- The digits of a number are plain digits. -/
theorem isDigit_of_mem_toDigits {n : Nat} {c : Char} (h : c ∈ Nat.toDigits 10 n) : c.isDigit = true :=
  Nat.isDigit_of_mem_toDigits (by decide) (by decide) h

/-- The digits of a number are decimal. -/
theorem isDecimal_of_mem_toDigits {n : Nat} {c : Char} (h : c ∈ Nat.toDigits 10 n) :
    isDecimal c = true := by
  unfold isDecimal
  rw [decimalValue?_of_isDigit (isDigit_of_mem_toDigits h)]
  rfl

/-- Plain digits are read to the number that they write. -/
theorem decimalNumberFrom_of_isDigit {t : Text} (h : ∀ c ∈ t, c.isDigit = true) (value : Nat) :
    decimalNumberFrom value t = some (Nat.ofDigitChars 10 t value) := by
  induction t generalizing value with
  | nil => rfl
  | cons c t ih =>
    rw [decimalNumberFrom, decimalValue?_of_isDigit (h c List.mem_cons_self)]
    dsimp only
    rw [ih fun d hd => h d (List.mem_cons_of_mem c hd), Nat.mul_comm value]
    rfl

/-- The digits of a number are read as that number. -/
theorem decimalNumber?_toDigits (n : Nat) : decimalNumber? (Nat.toDigits 10 n) = some n := by
  have hne : (Nat.toDigits 10 n).isEmpty = false := by
    simp [List.isEmpty_eq_false_iff]
  unfold decimalNumber?
  rw [hne, if_neg Bool.false_ne_true, decimalNumberFrom_of_isDigit fun c => isDigit_of_mem_toDigits,
    Nat.ofDigitChars_toDigits (by decide) (by decide)]

/-- A number is read from decimal digits, of which there is at least one. -/
theorem decimalNumber?_isSome_iff {t : Text} :
    (decimalNumber? t).isSome = true ↔ t ≠ [] ∧ ∀ c ∈ t, isDecimal c = true := by
  have hfrom (t : Text) (value : Nat) :
      (decimalNumberFrom value t).isSome = true ↔ ∀ c ∈ t, isDecimal c = true := by
    induction t generalizing value with
    | nil => simp [decimalNumberFrom]
    | cons c t ih =>
      rw [decimalNumberFrom, List.forall_mem_cons, isDecimal]
      cases decimalValue? c with
      | none => simp
      | some d => simpa using ih (value * 10 + d)
  cases t with
  | nil => simp [decimalNumber?]
  | cons c t =>
    have hne : (c :: t) ≠ [] := List.cons_ne_nil c t
    rw [decimalNumber?, List.isEmpty_cons, if_neg Bool.false_ne_true, hfrom]
    exact ⟨fun h => ⟨hne, h⟩, fun h => h.2⟩

/-- What is read as a number has digits, and nothing else. -/
theorem isDecimal_of_decimalNumber? {t : Text} {n : Nat} (h : decimalNumber? t = some n) :
    t ≠ [] ∧ ∀ c ∈ t, isDecimal c = true :=
  decimalNumber?_isSome_iff.1 (by rw [h]; rfl)

/-- Digits that are not too many are read as the number that they write. -/
theorem wholeNumber_of_decimalNumber? {t : Text} {n : Nat} (h : decimalNumber? t = some n)
    (hlength : t.length ≤ longestNumeral) : wholeNumber t = .ok n := by
  have hall : t.takeWhile isDecimal = t :=
    List.takeWhile_eq_self_iff.2 (isDecimal_of_decimalNumber? h).2
  unfold wholeNumber
  rw [hall]
  dsimp only
  rw [if_neg (Nat.not_lt.2 hlength), h]

/-- Whether a number has no more digits than a numeral may have. -/
def fitsNumeral (n : Nat) : Bool := (Nat.toDigits 10 n).length ≤ longestNumeral

/-- A number can be written if it has no more digits than the longest numeral. -/
theorem fitsNumeral_iff {n : Nat} : fitsNumeral n = true ↔ n < 10 ^ longestNumeral := by
  unfold fitsNumeral
  rw [decide_eq_true_iff, Nat.length_toDigits_le_iff (by decide) (by decide)]

/-- Smaller numbers can be written if larger ones can. -/
theorem fitsNumeral_of_le {m n : Nat} (h : m ≤ n) (hn : fitsNumeral n = true) :
    fitsNumeral m = true := by
  rw [fitsNumeral_iff] at hn ⊢
  exact Nat.lt_of_le_of_lt h hn

/-- A number that can be written is read back. -/
theorem wholeNumber_toDigits {n : Nat} (h : fitsNumeral n = true) :
    wholeNumber (Nat.toDigits 10 n) = .ok n := by
  unfold fitsNumeral at h
  rw [decide_eq_true_eq] at h
  exact wholeNumber_of_decimalNumber? (decimalNumber?_toDigits n) h

/-- A number with too many digits is refused with their count. -/
theorem wholeNumber_toDigits_of_not_fits {n : Nat} (h : fitsNumeral n = false) :
    wholeNumber (Nat.toDigits 10 n) = .error (.tooLong (Nat.toDigits 10 n).length) := by
  have hall : (Nat.toDigits 10 n).takeWhile isDecimal = Nat.toDigits 10 n :=
    List.takeWhile_eq_self_iff.2 fun c => isDecimal_of_mem_toDigits
  have hlength : longestNumeral < (Nat.toDigits 10 n).length := by
    unfold fitsNumeral at h
    rw [decide_eq_false_iff_not] at h
    omega
  unfold wholeNumber
  rw [hall]
  dsimp only
  rw [if_pos hlength]

end UxLint.Text
