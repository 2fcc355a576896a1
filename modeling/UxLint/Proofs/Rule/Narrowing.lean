import UxLint.Proofs.Diff.Reading
import UxLint.Proofs.Rule.Calm
import UxLint.Proofs.StableSort
import Mathlib.Data.List.Flatten
import Mathlib.Data.Int.Order.Basic
import Mathlib.Tactic.Choose
import Mathlib.Tactic.SplitIfs

/-!
# A difference narrows what a rule finds

The rules use a difference at different points: to leave a file alone, to leave groups of handlers,
requests or elements out, or to read nothing else of it. Under every rule, what is found with a
difference is found without one too, in the same order, as long as the lookup answers the questions that
only the rule without a difference asks (`all_narrow`). The one fault that a difference adds is that it
cannot be read.
-/

set_option autoImplicit false

namespace UxLint

/-- What a rule says with a difference, next to what it says where the whole file counts as added. -/
structure Narrows (diff : Text) (some whole : Except Fault Findings) : Prop where
  /-- What is found with the difference is found without it. -/
  found : ∀ found, some = .ok found → found.getD [] = [] ∨
    ∃ all, whole = .ok all ∧ (found.getD []).Sublist (all.getD [])
  /-- A fault with the difference is one without it, or the difference cannot be read. -/
  fault : ∀ fault, some = .error fault → whole = .error fault ∨ Diff.read diff = .error fault

namespace Narrows

variable {diff : Text} {whole : Except Fault Findings}

/-- To find nothing narrows whatever there is. -/
theorem nothing {found : Findings} (h : found.getD [] = []) : Narrows diff (.ok found) whole := by
  refine ⟨?_, ?_⟩
  · intro found' hfound'
    cases hfound'
    exact .inl h
  · intro fault hfault
    cases hfault

/-- To find a part of what there is narrows it. -/
theorem sublist {found all : Findings} (h : (found.getD []).Sublist (all.getD [])) :
    Narrows diff (.ok found) (.ok all) := by
  refine ⟨?_, ?_⟩
  · intro found' hfound'
    cases hfound'
    exact .inr ⟨all, rfl, h⟩
  · intro fault hfault
    cases hfault

/-- What there is narrows itself. -/
theorem refl (diff : Text) (whole : Except Fault Findings) : Narrows diff whole whole := by
  refine ⟨?_, ?_⟩
  · rintro found rfl
    exact .inr ⟨found, rfl, List.Sublist.refl _⟩
  · rintro fault rfl
    exact .inl rfl

/-- A fault narrows what there is if the difference cannot be read. -/
theorem unread {fault : Fault} (h : Diff.read diff = .error fault) :
    Narrows diff (.error fault) whole := by
  refine ⟨?_, ?_⟩
  · intro found hfound
    cases hfound
  · rintro fault' hfault'
    cases hfault'
    exact .inr h

end Narrows

/-- A rule that reads a difference and then judges: it is enough that the judgement narrows. -/
theorem narrows_of_read {diff : Text} {judge : Diff → Findings}
    (h : ∀ d, (judge d).getD [] = [] ∨
      ((judge d).getD []).Sublist ((judge .whole).getD [])) :
    Narrows diff ((Diff.read diff).map judge) ((Diff.read []).map judge) := by
  cases hread : Diff.read diff with
  | error fault => exact .unread hread
  | ok d =>
    rw [Diff.read_nil]
    rcases h d with hnone | hsub
    · exact .nothing hnone
    · exact .sublist hsub

/-! ## Rules 3 to 5 -/

/-- A map that keeps less yields a part. -/
theorem sublist_filterMap {α β : Type} {f g : α → Option β}
    (h : ∀ a b, f a = some b → g a = some b) (l : List α) :
    (l.filterMap f).Sublist (l.filterMap g) := by
  induction l with
  | nil => exact List.Sublist.refl _
  | cons a l ih =>
    rw [List.filterMap_cons, List.filterMap_cons]
    cases hf : f a with
    | none =>
      dsimp only
      split
      · exact ih
      · exact ih.cons _
    | some b =>
      rw [h a b hf]
      exact ih.cons_cons b

section Pure

variable (settings : RuleSettings) (path : String) (u : SourceUnit) (diff : Text)

/-- A request that is reported with a difference is reported alike without it. -/
theorem SuccessToast.check?_whole {settings : RuleSettings} {path : String} {u : SourceUnit}
    {classifier : Classifier} {d : Diff} {request : Place} {v : Violation}
    (h : check? settings classifier path u d request = some v) :
    check? settings classifier path u .whole request = some v := by
  unfold check? at h ⊢
  cases hverb : classifier.mutationVerb? request.node with
  | none =>
    rw [hverb] at h
    cases h
  | some verb =>
    rw [hverb] at h
    dsimp only at h ⊢
    rw [Diff.touches_whole, if_neg (by decide)]
    split at h
    · cases h
    · exact h

/-- A difference narrows the third rule. -/
theorem SuccessToast.evaluate_narrows (classifier : Classifier) :
    Narrows diff (evaluate settings classifier path u diff)
      (evaluate settings classifier path u []) := by
  unfold evaluate
  by_cases hoff : (!settings.enabled || settings.isPathWhitelisted path) = true
  · rw [if_pos hoff, if_pos hoff]
    exact .refl _ _
  · rw [if_neg hoff, if_neg hoff]
    cases u.root? with
    | none => exact .refl _ _
    | some root =>
      refine narrows_of_read fun d => .inr ?_
      exact sublist_filterMap (fun _ _ h => check?_whole h) _

/-- A difference narrows the fourth rule. -/
theorem EmptyState.evaluate_narrows :
    Narrows diff (evaluate settings path u diff) (evaluate settings path u []) := by
  unfold evaluate
  split_ifs
  · exact .refl _ _
  · exact .refl _ _
  · exact .refl _ _
  · exact .refl _ _
  · cases rendering? u with
    | none => exact .refl _ _
    | some list =>
      refine narrows_of_read fun d => ?_
      have hwhole : judge settings path u list .whole =
          if (emptyState? settings u).isSome then some [] else some [report settings path list] := by
        unfold judge
        rw [Diff.touches_whole]
        rfl
      rw [hwhole]
      unfold judge
      by_cases huntouched :
          (!d.touches list.line list.line && !d.mentionsAny diffTokens) = true
      · rw [if_pos huntouched]
        exact .inl rfl
      · rw [if_neg huntouched]
        exact .inr (List.Sublist.refl _)

/-- A difference narrows the fifth rule. -/
theorem InputPlaceholder.evaluate_narrows :
    Narrows diff (evaluate settings path u diff) (evaluate settings path u []) := by
  unfold evaluate
  split_ifs
  · exact .refl _ _
  · exact .refl _ _
  · refine narrows_of_read fun d => ?_
    unfold judge
    by_cases hunmentioned : (!d.isNew && !d.mentionsAny ["<"]) = true
    · rw [if_pos hunmentioned]
      exact .inl rfl
    · rw [if_neg hunmentioned, Diff.isNew_whole]
      refine .inr (List.Sublist.map _ (List.monotone_filter_right _ fun e he => ?_))
      unfold isBad at he ⊢
      simp only [Bool.and_eq_true] at he ⊢
      obtain ⟨⟨⟨hinput, _⟩, hexempt⟩, hplaceholder⟩ := he
      exact ⟨⟨⟨hinput, Diff.touches_whole _ _⟩, hexempt⟩, hplaceholder⟩

end Pure

/-! ## Lookups that answer -/

/-- A computation that ends with a result. -/
def Succeeds {α : Type} (x : ExceptT Fault Id α) : Prop := ∃ a, x.run = .ok a

/-- To succeed is to be calm. -/
theorem succeeds_iff {α : Type} {x : ExceptT Fault Id α} : Succeeds x ↔ Calm x := calm_iff.symm

/-- A lookup that answers every question about a unit instead of breaking down. -/
def Lookup.Answers (l : Lookup Id) (u : SourceUnit) : Prop :=
  ∀ strict action, Succeeds (l strict action u)

/-- A lookup that answers is calm. -/
theorem Lookup.Answers.isCalm {l : Lookup Id} {u : SourceUnit} (h : l.Answers u) : l.IsCalm u :=
  fun strict action => succeeds_iff.1 (h strict action)

/-- A rule that reads a difference and then goes on: it is enough that what follows narrows. -/
theorem narrows_of_read_bind {diff : Text} {judge : Diff → ExceptT Fault Id Findings}
    (h : ∀ d, Narrows diff (judge d).run (judge .whole).run) :
    Narrows diff (MonadExcept.ofExcept (Diff.read diff) >>= judge).run
      (MonadExcept.ofExcept (Diff.read []) >>= judge).run := by
  rw [ExceptT.run_bind, ExceptT.run_bind, Diff.read_nil]
  cases hread : Diff.read diff with
  | error fault => exact .unread hread
  | ok d => exact h d

section Lookups

variable {lookup : Option (Lookup Id)} {u : SourceUnit}

/-- A lookup that answers finds a flag or none. -/
theorem flag?_succeeds {l : Lookup Id} (h : l.Answers u) (action : String) :
    Succeeds (l.flag? action u) :=
  succeeds_iff.2 (flag?_calm h.isCalm action)

namespace DoubleSubmit

variable (classifier : Classifier) (path : String) (elements : List Element)

/-- A group can be checked with a lookup that answers. -/
theorem checkGroup_succeeds (h : ∀ l ∈ lookup, l.Answers u) (g : Group) :
    Succeeds (checkGroup classifier lookup path u elements g) :=
  succeeds_iff.2 (checkGroup_calm classifier path elements (fun l hl => (h l hl).isCalm) g)

/-- Groups are checked one by one, each for itself. -/
theorem exists_checkGroups (h : ∀ l ∈ lookup, l.Answers u) :
    ∃ judge : Group → Option Violation,
      (∀ g, (checkGroup classifier lookup path u elements g).run = .ok (judge g)) ∧
        ∀ groups, (checkGroups classifier lookup path u elements groups).run =
          .ok (groups.flatMap fun g => (judge g).toList) := by
  choose judge hjudge using checkGroup_succeeds classifier path elements h
  refine ⟨judge, hjudge, fun groups => ?_⟩
  induction groups with
  | nil => rfl
  | cons g rest ih =>
    unfold checkGroups
    rw [ExceptT.run_bind, hjudge g]
    change (checkGroups classifier lookup path u elements rest >>= _).run = _
    rw [ExceptT.run_bind, ih]
    rfl

/-- A difference leaves a part of the groups. -/
theorem sublist_groupsOf (settings : RuleSettings) (root : Place) (d : Diff)
    (handlers : List Handler) :
    (groupsOf settings u root d handlers).Sublist (groupsOf settings u root .whole handlers) := by
  refine List.monotone_filter_right _ fun g _ => ?_
  rw [Diff.isNew_whole]
  rfl

/-- The order of violations is that of their lines. -/
theorem comparison_line :
    StableSort.Comparison fun a b : Violation => decide (a.line ≤ b.line) :=
  .ofKey Violation.line fun _ _ => decide_eq_true_iff

/-- Once the handlers are known, a difference leaves groups out and nothing else. -/
theorem checkGroups_narrows (h : ∀ l ∈ lookup, l.Answers u) (settings : RuleSettings)
    (diff : Text) (root : Place) (d : Diff) (handlers : List Handler) :
    let judged := fun d : Diff =>
      (do
        let found ← checkGroups classifier lookup path u elements
          (groupsOf settings u root d handlers)
        return some (found.mergeSort fun a b => a.line ≤ b.line) : ExceptT Fault Id Findings)
    Narrows diff (judged d).run (judged .whole).run := by
  intro judged
  obtain ⟨judge, -, hjudge⟩ := exists_checkGroups classifier path elements h
  have hrun : ∀ d : Diff, (judged d).run =
      .ok (some (((groupsOf settings u root d handlers).flatMap fun g =>
        (judge g).toList).mergeSort fun a b => a.line ≤ b.line)) := by
    intro d
    rw [ExceptT.run_bind, hjudge]
    rfl
  have hsub := (sublist_groupsOf (u := u) settings root d handlers).flatMap
    fun g => (judge g).toList
  rw [hrun, hrun]
  exact .sublist (StableSort.sublist_mergeSort_of_sublist comparison_line hsub)

/-- A difference narrows the first rule. -/
theorem evaluate_narrows (h : ∀ l ∈ lookup, l.Answers u) (settings : RuleSettings) (diff : Text) :
    Narrows diff (evaluate settings classifier lookup path u diff).run
      (evaluate settings classifier lookup path u []).run := by
  unfold evaluate
  by_cases hoff : (!settings.enabled || settings.isPathWhitelisted path) = true
  · rw [if_pos hoff, if_pos hoff]
    exact .refl _ _
  · rw [if_neg hoff, if_neg hoff]
    cases u.root? with
    | none => exact .refl _ _
    | some root =>
      refine narrows_of_read_bind fun d => ?_
      by_cases hunmentioned : (!d.isNew && !d.mentionsAny diffTokens) = true
      · rw [if_pos hunmentioned]
        exact .nothing rfl
      · rw [if_neg hunmentioned, Diff.isNew_whole, if_neg (by simp)]
        dsimp only
        rw [ExceptT.run_bind, ExceptT.run_bind]
        cases Handler.discover u.elements with
        | error fault => exact .refl _ _
        | ok handlers => exact checkGroups_narrows classifier path u.elements h settings diff root d _

end DoubleSubmit

/-- With a difference, the rule on loading states does nothing or all that it does without one. -/
theorem InitialLoading.evaluate_narrows (classifier : Classifier) (settings : RuleSettings)
    (path diff) :
    Narrows diff (evaluate settings classifier lookup path u diff).run
      (evaluate settings classifier lookup path u []).run := by
  unfold evaluate
  by_cases hoff : (!settings.enabled || settings.isPathWhitelisted path) = true
  · rw [if_pos hoff, if_pos hoff]
    exact .refl _ _
  · rw [if_neg hoff, if_neg hoff]
    cases u.root? with
    | none => exact .refl _ _
    | some root =>
      refine narrows_of_read_bind fun d => ?_
      have hwhole : concerns u .whole = true := rfl
      by_cases hskip : (!concerns u d || !looksLikePage u) = true
      · rw [if_pos hskip]
        exact .nothing rfl
      · rw [if_neg hskip]
        simp only [Bool.or_eq_true, not_or] at hskip
        rw [hwhole, if_neg (by simpa using hskip.2)]
        exact .refl _ _

end Lookups

/-! ## All rules -/

/-- Under each of the five rules, a difference only narrows what is found. -/
theorem all_narrow {s : Settings} {lookup : Option (Lookup Id)} {e : Evaluator Id}
    (he : e ∈ Evaluator.all s lookup) {u : SourceUnit} (h : ∀ l ∈ lookup, l.Answers u)
    (path : String) (diff : Text) :
    Narrows diff (e.evaluate path u diff).run (e.evaluate path u []).run := by
  have hof : ∀ x : Except Fault Findings,
      (MonadExcept.ofExcept x : ExceptT Fault Id Findings).run = x := by
    intro x
    cases x <;> rfl
  simp only [Evaluator.all, List.mem_cons, List.not_mem_nil, or_false] at he
  rcases he with rfl | rfl | rfl | rfl | rfl
  · exact DoubleSubmit.evaluate_narrows _ path h _ diff
  · exact InitialLoading.evaluate_narrows _ _ path diff
  · dsimp only
    rw [hof, hof]
    exact SuccessToast.evaluate_narrows _ path u diff _
  · dsimp only
    rw [hof, hof]
    exact EmptyState.evaluate_narrows _ path u diff
  · dsimp only
    rw [hof, hof]
    exact InputPlaceholder.evaluate_narrows _ path u diff

end UxLint
