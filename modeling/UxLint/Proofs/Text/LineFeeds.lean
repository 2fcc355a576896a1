import UxLint.Syntax.Outline
import Mathlib.Tactic.SplitIfs

/-!
# Counting line feeds

A line feed is one octet of an encoded text, and no other code point has this octet among its own. So the
line feeds of a text can be counted on its octets, and the counts of parts add up on either side.
For a part of a text that is read on its own, `lineFeeds_take_region` and `rowAt_encode_region` say what
this means: the lines of the part, together with those before the part, are the lines of the whole text.
-/

set_option autoImplicit false

namespace UxLint

namespace Text

/-- The line feeds of two texts are counted text by text. -/
theorem lineFeeds_append (t u : Text) : lineFeeds (t ++ u) = lineFeeds t + lineFeeds u :=
  List.count_append

/-- The start of a text has no more line feeds than the text. -/
theorem lineFeeds_take_le (t : Text) (n : Nat) : lineFeeds (t.take n) ≤ lineFeeds t :=
  (List.take_sublist n t).count_le _

/-- The line feeds before a place in a part of a text: those before the part and those in the part. -/
theorem lineFeeds_take_region {t region : Text} {start n : Nat} (h : region <+: t.drop start)
    (hn : n ≤ region.length) :
    lineFeeds (t.take (start + n)) = lineFeeds (t.take start) + lineFeeds (region.take n) := by
  obtain ⟨rest, hrest⟩ := h
  rw [List.take_add, lineFeeds_append, ← hrest, List.take_append_of_le_length hn]

/-- Texts are encoded text by text. -/
theorem encode_append (t u : Text) : encode (t ++ u) = encode t ++ encode u := List.flatMap_append

/-- An octet beyond the basic characters is no line feed. -/
theorem ofNat_ne_lineFeed {n : Nat} (h : 0x80 ≤ n) (hn : n < 256) : (UInt8.ofNat n == 10) = false := by
  rw [beq_eq_false_iff_ne]
  intro heq
  have hval : n % 256 = 10 := congrArg UInt8.toNat heq
  omega

/-- No code point has the octet of a line feed among its own but the line feed itself. -/
theorem count_utf8EncodeChar (c : Char) :
    (String.utf8EncodeChar c).count 10 = if c = '\n' then 1 else 0 := by
  have hvalid := c.valid
  simp only [UInt32.isValidChar, Nat.isValidChar] at hvalid
  unfold String.utf8EncodeChar
  dsimp only
  by_cases hbasic : c.val.toNat ≤ 0x7f
  · rw [if_pos hbasic, List.count_singleton]
    by_cases hc : c = '\n'
    · rw [hc]
      rfl
    · have hne : (UInt8.ofNat c.val.toNat == 10) = false := by
        rw [beq_eq_false_iff_ne]
        intro heq
        have hval : c.val.toNat % 256 = 10 := congrArg UInt8.toNat heq
        apply hc
        apply Char.ext
        apply UInt32.toNat_inj.1
        change c.val.toNat = 10
        omega
      rw [hne, if_neg hc]
      rfl
  · have hc : c ≠ '\n' := by
      rintro rfl
      exact hbasic (by decide)
    rw [if_neg hbasic, if_neg hc]
    split_ifs
    all_goals
      simp only [List.count_cons, List.count_nil]
      repeat rw [ofNat_ne_lineFeed (by omega) (by omega)]
      rfl

/-- Encoding keeps the count of line feeds. -/
theorem count_encode (t : Text) : (encode t).count 10 = lineFeeds t := by
  induction t with
  | nil => rfl
  | cons c t ih =>
    rw [show encode (c :: t) = String.utf8EncodeChar c ++ encode t from rfl, List.count_append, ih,
      count_utf8EncodeChar, lineFeeds, lineFeeds, List.count_cons]
    by_cases hc : c = '\n'
    · rw [if_pos hc, if_pos (by simp [hc]), Nat.add_comm]
    · rw [if_neg hc, if_neg (by simpa using hc), Nat.zero_add, Nat.add_zero]

/-- The octets of a part of a text stand among those of the whole text. -/
theorem exists_encode_eq {t region : Text} {start : Nat} (h : region <+: t.drop start) :
    ∃ rest, encode t = encode (t.take start) ++ (encode region ++ rest) := by
  obtain ⟨rest, hrest⟩ := h
  refine ⟨encode rest, ?_⟩
  rw [← encode_append, ← encode_append, hrest, List.take_append_drop]

/-- The octets of a part from a place on stand at the same place in the whole text. -/
theorem encode_drop_prefix {t region : Text} {start n : Nat} (h : region <+: t.drop start)
    (hn : n ≤ (encode region).length) :
    (encode region).drop n <+: (encode t).drop ((encode (t.take start)).length + n) := by
  obtain ⟨rest, hrest⟩ := exists_encode_eq h
  rw [hrest, List.drop_length_add_append, List.drop_append_of_le_length hn]
  exact List.prefix_append _ _

end Text

namespace Outline

/-- No row lies beyond the last one. -/
theorem rowAt_le (source : List UInt8) (n : Nat) : rowAt source n ≤ source.count 10 :=
  (List.take_sublist n source).count_le _

/-- The row of an octet does not depend on what stands behind. -/
theorem rowAt_append_left {a : List UInt8} (b : List UInt8) {n : Nat} (h : n ≤ a.length) :
    rowAt (a ++ b) n = rowAt a n := by
  rw [rowAt, rowAt, List.take_append_of_le_length h]

/-- The row of an octet counts the rows in front. -/
theorem rowAt_append_right (a b : List UInt8) (n : Nat) :
    rowAt (a ++ b) (a.length + n) = a.count 10 + rowAt b n := by
  rw [rowAt, rowAt, List.take_length_add_append, List.count_append]

/-- A place in a part of a text: the rows of the part and the line feeds before it are the rows of the
whole. -/
theorem rowAt_encode_region {t region : Text} {start n : Nat} (h : region <+: t.drop start)
    (hn : n ≤ (Text.encode region).length) :
    rowAt (Text.encode t) ((Text.encode (t.take start)).length + n) =
      Text.lineFeeds (t.take start) + rowAt (Text.encode region) n := by
  obtain ⟨rest, hrest⟩ := Text.exists_encode_eq h
  rw [hrest, rowAt_append_right, rowAt_append_left _ hn, Text.count_encode]

end Outline

end UxLint
