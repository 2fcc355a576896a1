import UxLint.Proofs.Pattern.Fitting
import Mathlib.Data.List.Induction
import Mathlib.Order.Bounds.Basic

/-!
# The first place where a pattern fits

A search answers with the first place of a text where its pattern fits, and with nothing if there is no such
place (`search?_isLeast`, `search?_eq_none_iff`). What it means to fit is read off for a keyword that
stands at the edge of a word with blanks and a character behind it. A pattern with letters that it needs
does not occur in a text without them (`Needs`).
-/

set_option autoImplicit false

namespace UxLint.Pattern

/-- The pattern fits a piece of the text behind its first `i` characters. -/
def FitsAt (p : Pattern) (t : Text) (i : Nat) : Prop :=
  ∃ u w r, t = u ++ w ++ r ∧ u.length = i ∧ Fits p (lastOf none u) w r

variable {p : Pattern} {t : Text}

/-- A search fails exactly if the pattern fits nowhere. -/
theorem search?_eq_none_iff : p.search? t = none ↔ ∀ i, ¬ p.FitsAt t i := by
  rw [← Option.not_isSome_iff_eq_none]
  constructor
  · rintro h i ⟨u, w, r, ht, -, hfits⟩
    exact h (occurs_iff.2 ⟨u, w, r, ht, hfits⟩)
  · intro h hsome
    obtain ⟨u, w, r, ht, hfits⟩ := occurs_iff.1 hsome
    exact h u.length ⟨u, w, r, ht, rfl, hfits⟩

/-- A search finds the first place where the pattern fits. -/
theorem search?_isLeast {m : Match} (h : p.search? t = some m) :
    IsLeast {i | p.FitsAt t i} m.start := by
  obtain ⟨u, d, hd, hmatch, -⟩ := searchFrom?_first h
  obtain ⟨hstart, w, hw, hfits⟩ := reaches_of_matchAt? hmatch
  have hlength : u.length = m.start := by
    rw [hstart, hd.offset]
    exact (Nat.zero_add _).symm
  constructor
  · refine ⟨u, w, m.stop.rest, ?_, hlength, ?_⟩
    · rw [List.append_assoc, ← hw.rest, ← hd.rest]
      rfl
    · rw [hd.before] at hfits
      exact hfits
  · rintro i ⟨u', w', r, ht, rfl, hfits'⟩
    have := searchFrom?_start_le h ht hfits'
    rwa [show (Cursor.start t).offset = 0 from rfl, Nat.zero_add] at this

/-- At the start of a text the last character is its own. -/
theorem lastOf_none (w : Text) : lastOf none w = w.getLast? := by
  cases w using List.reverseRecOn with
  | nil => rfl
  | append_singleton w x =>
    rw [lastOf_append, List.getLast?_concat]
    rfl

/-- A choice fits what one of its sides fits. -/
theorem fits_either_iff {a b : Pattern} {before : Option Char} {w behind : Text} :
    Fits (either a b) before w behind ↔ Fits a before w behind ∨ Fits b before w behind := by
  constructor
  · intro h
    cases h with
    | left h => exact .inl h
    | right h => exact .inr h
  · rintro (h | h)
    · exact .left h
    · exact .right h

/-- Blanks and then a character. -/
theorem fits_gap_iff {x : Char} {before : Option Char} {w behind : Text} :
    Fits (both blanks (char x)) before w behind ↔
      ∃ gap, w = gap ++ [x] ∧ ∀ c ∈ gap, Text.isBlank c = true := by
  rw [fits_both_iff]
  constructor
  · rintro ⟨gap, v, rfl, hgap, hx⟩
    obtain ⟨y, rfl, hy⟩ := fits_one_iff.1 hx
    rw [beq_iff_eq.1 hy]
    exact ⟨gap, rfl, fits_many_one_iff.1 hgap⟩
  · rintro ⟨gap, rfl, hgap⟩
    exact ⟨gap, [x], rfl, fits_many_one_iff.2 hgap, fits_one_iff.2 ⟨x, rfl, beq_self_eq_true x⟩⟩

/-- A keyword that starts with a word character and stands at an edge, and then blanks and a character. -/
theorem fits_keyword_iff {s : String} {k : Char} {word : Text} (hs : s.toList = k :: word)
    (hk : Text.isWord k = true) {x : Char} {before : Option Char} {w behind : Text} :
    Fits (inOrder [wordEdge, literal s, blanks, char x]) before w behind ↔
      ∃ gap, w = s.toList ++ gap ++ [x] ∧ (∀ c ∈ gap, Text.isBlank c = true) ∧
        before.any Text.isWord = false := by
  change Fits (both wordEdge (both (literal s) (both blanks (char x)))) before w behind ↔ _
  rw [fits_both_iff]
  have hedge {v : Text} : (before.any Text.isWord != (s.toList ++ v).head?.any Text.isWord) = true ↔
      before.any Text.isWord = false := by
    rw [hs, List.cons_append, List.head?_cons, Option.any_some, hk]
    cases before.any Text.isWord <;> decide
  constructor
  · rintro ⟨v, v', rfl, hfirst, hsecond⟩
    obtain ⟨rfl, hlook⟩ := fits_look_iff.1 hfirst
    obtain ⟨l, g, rfl, hl, hg⟩ := fits_both_iff.1 hsecond
    obtain rfl := fits_literal_iff.1 hl
    obtain ⟨gap, rfl, hgap⟩ := fits_gap_iff.1 hg
    rw [List.append_assoc] at hlook
    exact ⟨gap, by simp, hgap, hedge.1 hlook⟩
  · rintro ⟨gap, rfl, hgap, hbefore⟩
    refine ⟨[], s.toList ++ gap ++ [x], rfl, fits_look_iff.2 ⟨rfl, ?_⟩, fits_both_iff.2 ?_⟩
    · rw [List.append_assoc, List.append_assoc]
      exact hedge.2 hbefore
    · exact ⟨s.toList, gap ++ [x], List.append_assoc _ _ _, fits_literal_iff.2 rfl,
        fits_gap_iff.2 ⟨gap, rfl, hgap⟩⟩

/-! ## Letters that a pattern needs -/

/-- Every piece that the pattern fits has the letter. -/
def Needs (p : Pattern) (x : Char) : Prop := ∀ before w behind, Fits p before w behind → x ∈ w

/-- A pattern does not occur in a text without a letter that it needs. -/
theorem Needs.occurs_eq_false {x : Char} (h : p.Needs x) (hx : x ∉ t) : p.occurs t = false := by
  rw [← Bool.not_eq_true]
  intro hoccurs
  obtain ⟨u, w, r, rfl, hfits⟩ := occurs_iff.1 hoccurs
  exact hx (List.mem_append_left r (List.mem_append_right u (h _ w r hfits)))

/-- A literal needs each of its characters. -/
theorem needs_literal {s : String} {x : Char} (h : x ∈ s.toList) : (literal s).Needs x := by
  intro before w behind hfits
  rw [fits_literal_iff.1 hfits]
  exact h

/-- A row of patterns needs what one of them needs. -/
theorem needs_inOrder {ps : List Pattern} {x : Char} (hp : p ∈ ps) (h : p.Needs x) :
    (inOrder ps).Needs x := by
  induction ps with
  | nil => cases hp
  | cons q ps ih =>
    intro before w behind hfits
    cases ps with
    | nil =>
      rw [List.mem_singleton.1 hp] at h
      exact h before w behind hfits
    | cons q' ps =>
      obtain ⟨v, v', rfl, hfirst, hsecond⟩ := fits_both_iff.1 hfits
      rcases List.mem_cons.1 hp with rfl | hp
      · exact List.mem_append_left v' (h before v _ hfirst)
      · exact List.mem_append_right v (ih hp _ v' behind hsecond)

end UxLint.Pattern
