import Mathlib.Data.List.Basic
import Mathlib.Order.Lattice

/-!
# Stable sorting

Reports are sorted by keys that two violations may share, so what a sort does with equal keys matters.
A sort here is `List.mergeSort` under a comparison that is transitive and total. Two facts are proved
about it: leaving items out before a sort is leaving items out after it, and a sort depends on the
order of its input only through the order of the items that tie.
-/

set_option autoImplicit false

namespace UxLint.StableSort

variable {α : Type} {le : α → α → Bool}

/-- Whether two items are alike for a comparison, so that a stable sort keeps their order. -/
def ties (le : α → α → Bool) (a b : α) : Bool := le a b && le b a

/-- A comparison that may be sorted by. -/
structure Comparison (le : α → α → Bool) : Prop where
  trans : ∀ a b c, le a b → le b c → le a c
  total : ∀ a b, le a b || le b a

section Keys

variable {κ : Type} [LinearOrder κ] {key : α → κ}

variable (key) in
/-- Items may be sorted by a key from a linear order. -/
theorem Comparison.ofKey (h : ∀ a b, le a b ↔ key a ≤ key b) : Comparison le where
  trans a b c hab hbc := (h a c).2 (le_trans ((h a b).1 hab) ((h b c).1 hbc))
  total a b := by
    rw [Bool.or_eq_true, h, h]
    exact le_total (key a) (key b)

/-- Items that tie have one key. -/
theorem key_eq_of_ties (h : ∀ a b, le a b ↔ key a ≤ key b) {a b : α} (hties : ties le a b) :
    key a = key b := by
  obtain ⟨hab, hba⟩ := Bool.and_eq_true_iff.1 hties
  exact le_antisymm ((h a b).1 hab) ((h b a).1 hba)

end Keys

section Sublists

/-- A sorted list without its item `a` splits at the place of `a` into what is strictly less and the
rest, so a filter recovers both sides. -/
theorem filter_split {a : α} {l₁ l₂ : List α} (hl₁ : ∀ b ∈ l₁, !le a b)
    (hl₂ : ∀ b ∈ l₂, le a b) :
    (l₁ ++ l₂).filter (fun b => !le a b) = l₁ ∧ (l₁ ++ l₂).filter (le a) = l₂ := by
  have hnot : ∀ b ∈ l₁, le a b = false := by
    intro b hb
    simpa using hl₁ b hb
  constructor
  · rw [List.filter_append, List.filter_eq_self.2 hl₁, List.filter_eq_nil_iff.2, List.append_nil]
    intro b hb
    simp [hl₂ b hb]
  · rw [List.filter_append, List.filter_eq_self.2 hl₂, List.filter_eq_nil_iff.2, List.nil_append]
    intro b hb
    simp [hnot b hb]

/-- Sorting one more item puts it between the items that are strictly less and the others. -/
theorem mergeSort_cons_split (h : Comparison le) (a : α) (l : List α) :
    ∃ l₁ l₂, (a :: l).mergeSort le = l₁ ++ a :: l₂ ∧ l.mergeSort le = l₁ ++ l₂ ∧
      (∀ b ∈ l₁, !le a b) ∧ ∀ b ∈ l₂, le a b := by
  obtain ⟨l₁, l₂, hcons, htail, hless⟩ := List.mergeSort_cons h.trans h.total a l
  have hsorted := List.pairwise_mergeSort h.trans h.total (a :: l)
  rw [hcons, List.pairwise_append, List.pairwise_cons] at hsorted
  exact ⟨l₁, l₂, hcons, htail, hless, hsorted.2.1.1⟩

/-- Items that are left out before a sort are left out of its result, and nothing else changes. -/
theorem sublist_mergeSort_of_sublist (h : Comparison le) {c l : List α} (hc : c.Sublist l) :
    (c.mergeSort le).Sublist (l.mergeSort le) := by
  induction hc with
  | slnil => exact List.Sublist.refl _
  | @cons c l a _ ih =>
    obtain ⟨l₁, l₂, hcons, htail, -⟩ := mergeSort_cons_split h a l
    rw [htail] at ih
    rw [hcons]
    exact ih.trans ((List.Sublist.refl l₁).append (List.sublist_cons_self a l₂))
  | @cons_cons c l a _ ih =>
    obtain ⟨c₁, c₂, hcc, hct, hc₁, hc₂⟩ := mergeSort_cons_split h a c
    obtain ⟨l₁, l₂, hlc, hlt, hl₁, hl₂⟩ := mergeSort_cons_split h a l
    rw [hct, hlt] at ih
    have hleft := ih.filter fun b => !le a b
    have hright := ih.filter (le a)
    rw [(filter_split hc₁ hc₂).1, (filter_split hl₁ hl₂).1] at hleft
    rw [(filter_split hc₁ hc₂).2, (filter_split hl₁ hl₂).2] at hright
    rw [hcc, hlc]
    exact hleft.append (hright.cons_cons a)

end Sublists

section Ties

/-- An item ties with itself. -/
theorem ties_self (h : Comparison le) (a : α) : ties le a a = true := by
  have := h.total a a
  simp only [Bool.or_self] at this
  simp [ties, this]

/-- What ties with one item is sorted already. -/
theorem pairwise_filter_ties (h : Comparison le) (a : α) (l : List α) :
    (l.filter (ties le a)).Pairwise (fun x y => le x y = true) := by
  rw [List.pairwise_filter]
  refine List.pairwise_of_forall fun x y hx hy => ?_
  simp only [ties, Bool.and_eq_true] at hx hy
  exact h.trans x a y hx.2 hy.1

/-- A sort keeps the order of the items that tie with a given one. -/
theorem filter_ties_mergeSort (h : Comparison le) (a : α) (l : List α) :
    (l.mergeSort le).filter (ties le a) = l.filter (ties le a) := by
  have hsub : (l.filter (ties le a)).Sublist (l.mergeSort le) :=
    List.sublist_mergeSort h.trans h.total (pairwise_filter_ties h a l) List.filter_sublist
  have hsub' := hsub.filter (ties le a)
  rw [List.filter_filter] at hsub'
  simp only [Bool.and_self] at hsub'
  have hlen := ((List.mergeSort_perm l le).filter (ties le a)).length_eq
  exact (hsub'.eq_of_length hlen.symm).symm

/-- A sorted list is determined by its items and by the order of the items that tie. -/
theorem eq_of_perm_of_ties (h : Comparison le) : ∀ {s t : List α},
    s.Pairwise (fun x y => le x y = true) → t.Pairwise (fun x y => le x y = true) → s.Perm t →
    (∀ a, s.filter (ties le a) = t.filter (ties le a)) → s = t
  | [], t, _, _, hperm, _ => (hperm.symm.eq_nil).symm
  | a :: s, [], _, _, hperm, _ => absurd hperm.eq_nil (List.cons_ne_nil a s)
  | a :: s, b :: t, hs, ht, hperm, hties => by
    -- Each head is a least item of the common multiset, so the heads tie.
    have hab : le a b = true := by
      rcases List.mem_cons.1 (hperm.mem_iff.2 List.mem_cons_self) with rfl | hb
      · simpa using h.total b b
      · exact (List.pairwise_cons.1 hs).1 b hb
    have hba : le b a = true := by
      rcases List.mem_cons.1 (hperm.mem_iff.1 List.mem_cons_self) with rfl | ha
      · simpa using h.total a a
      · exact (List.pairwise_cons.1 ht).1 a ha
    have hhead := hties a
    rw [List.filter_cons_of_pos (ties_self h a),
      List.filter_cons_of_pos (by simp [ties, hab, hba])] at hhead
    obtain rfl : a = b := (List.cons.inj hhead).1
    have htail : ∀ c, s.filter (ties le c) = t.filter (ties le c) := by
      intro c
      have hc := hties c
      by_cases hca : ties le c a = true
      · rw [List.filter_cons_of_pos hca, List.filter_cons_of_pos hca] at hc
        exact (List.cons.inj hc).2
      · rwa [List.filter_cons_of_neg hca, List.filter_cons_of_neg hca] at hc
    rw [eq_of_perm_of_ties h hs.of_cons ht.of_cons hperm.cons_inv htail]

/-- Two lists of the same items are sorted alike if items that tie come in the same order. -/
theorem mergeSort_eq_of_perm (h : Comparison le) {l₁ l₂ : List α} (hperm : l₁.Perm l₂)
    (hties : ∀ a, l₁.filter (ties le a) = l₂.filter (ties le a)) :
    l₁.mergeSort le = l₂.mergeSort le := by
  refine eq_of_perm_of_ties h (List.pairwise_mergeSort h.trans h.total l₁)
    (List.pairwise_mergeSort h.trans h.total l₂) ?_ ?_
  · exact (List.mergeSort_perm l₁ le).trans (hperm.trans (List.mergeSort_perm l₂ le).symm)
  · intro a
    rw [filter_ties_mergeSort h, filter_ties_mergeSort h, hties]

end Ties

end UxLint.StableSort
