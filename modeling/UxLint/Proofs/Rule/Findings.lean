import UxLint.Proofs.Rule.Diagnosis
import UxLint.Rule.All
import Mathlib.Tactic.SplitIfs

/-!
# What the rules report

Every violation that one of the five rules finds is the report of something of the unit: of a handler
of an element, of a request in a callback of page entry, of a request that changes data, of a list, or
of an input. This holds for whatever lookup the rules ask. What all reports of a rule have in common
therefore holds of all that it finds (`evaluate_ensures`, one for each rule): `found_reported` and
`found_rule` are the tops, and that a violation names the file that was asked about is read off.
-/

set_option autoImplicit false

namespace UxLint

/-- A violation is the report of a rule on something of a unit. -/
inductive Reported (s : Settings) (file : String) (u : SourceUnit) : Violation → Prop where
  /-- Rule 1 reports a handler of an element. -/
  | handler {h : Handler} (function : Node) (elements : List Element) (verdict : DoubleSubmit.ActionVerdict)
      (mem : h.element ∈ u.elements) (line : h.line = h.element.line) :
      Reported s file u (DoubleSubmit.report file function elements h verdict)
  /-- Rule 2 reports a request in a callback of page entry. -/
  | entry {root hook p : Place} (requests : Nat) (tree : u.root? = some root)
      (hook_mem : hook ∈ InitialLoading.lifecycleCallbacks root)
      (mem : p ∈ (Evaluator.classifier s).requests hook) :
      Reported s file u (InitialLoading.report (s.rule 2) file u p requests)
  /-- Rule 3 reports a request that changes data. -/
  | mutation {root p : Place} {verb : MutationVerb} (tree : u.root? = some root)
      (mem : p ∈ (Evaluator.classifier s).requests root)
      (changes : (Evaluator.classifier s).mutationVerb? p.node = some verb) :
      Reported s file u (SuccessToast.report (s.rule 3) file u p.node verb)
  /-- Rule 4 reports the list that the file renders. -/
  | list {e : Evidence} (renders : EmptyState.rendering? u = some e) :
      Reported s file u (EmptyState.report (s.rule 4) file e)
  /-- Rule 5 reports an input. -/
  | input {e : Element} (mem : e ∈ u.elements)
      (isInput : InputPlaceholder.isInput (s.rule 5) e.name = true) :
      Reported s file u (InputPlaceholder.report file e)

/-- Every violation among some findings satisfies `P`. -/
def AllFound (P : Violation → Prop) (found : Findings) : Prop :=
  ∀ vs, found = some vs → ∀ v ∈ vs, P v

/-- Every violation among some findings is the report of a rule. -/
def AllReported (s : Settings) (file : String) (u : SourceUnit) (found : Findings) : Prop :=
  ∀ vs, found = some vs → ∀ v ∈ vs, Reported s file u v

/-- Nothing is found where the rule has nothing to say. -/
theorem allFound_none (P : Violation → Prop) : AllFound P none := by
  intro vs h
  cases h

/-- All that is found is what a list holds. -/
theorem allFound_some {P : Violation → Prop} {vs : List Violation} (h : ∀ v ∈ vs, P v) :
    AllFound P (some vs) := by
  intro ws hws
  cases hws
  exact h

/-! ## Rule 1 -/

/-- A handler belongs to one of some elements and has its line. -/
def Handler.BelongsTo (elements : List Element) (h : Handler) : Prop :=
  h.element ∈ elements ∧ h.line = h.element.line

/-- The handler of an attribute stands on the element of the attribute. -/
theorem Handler.element_of_ofAttribute? {e : Element} {name : String} {accepts : String → Bool}
    {h : Handler} (hh : ofAttribute? e name accepts = .ok (some h)) :
    h.element = e ∧ h.line = e.line := by
  unfold ofAttribute? at hh
  split at hh
  · cases hh
  · split at hh
    · cases hh
    · split at hh
      · cases hh
      · cases hr : reference? _ with
        | error f => rw [hr] at hh; cases hh
        | ok r =>
          rw [hr] at hh
          cases r with
          | none => cases hh
          | some r => cases hh; exact ⟨rfl, rfl⟩

/-- The handlers of an element stand on it. -/
theorem Handler.of_mem_ofElement {e : Element} {handlers : List Handler} (h : ofElement e = .ok handlers) :
    ∀ x ∈ handlers, x.element = e ∧ x.line = e.line := by
  unfold ofElement at h
  cases hc : callbackAttributes.mapM fun c => ofAttribute? e c.1 c.2 with
  | error f => rw [hc] at h; cases h
  | ok found =>
    rw [hc] at h
    cases h
    intro x hx
    obtain ⟨o, ho, hox⟩ := List.mem_filterMap.1 hx
    obtain ⟨c, -, hc⟩ := exists_of_mem_mapM hc o ho
    cases hox
    exact element_of_ofAttribute? hc

/-- The handlers that are found stand on the elements among which they were looked for. -/
theorem Handler.belongsTo_of_discover {elements : List Element} {handlers : List Handler}
    (h : discover elements = .ok handlers) : ∀ x ∈ handlers, x.BelongsTo elements := by
  unfold discover at h
  cases hm : elements.mapM ofElement with
  | error f => rw [hm] at h; cases h
  | ok rows =>
    rw [hm] at h
    cases h
    intro x hx
    obtain ⟨row, hrow, hx⟩ := List.mem_flatten.1 hx
    obtain ⟨e, he, hrow⟩ := exists_of_mem_mapM hm row hrow
    obtain ⟨rfl, hline⟩ := of_mem_ofElement hrow x hx
    exact ⟨he, hline⟩

namespace DoubleSubmit

section Monadic

variable {m : Type → Type} [Monad m] [LawfulMonad m] {P : Violation → Prop} {file : String}
  {u : SourceUnit}

/-- What holds of every report on a handler of the unit holds of all that the rule finds. -/
theorem evaluate_ensures (settings : RuleSettings) (classifier : Classifier)
    (lookup : Option (Lookup m)) (diff : Text)
    (hP : ∀ h function elements verdict, h.BelongsTo u.elements →
      P (report file function elements h verdict)) :
    Ensures (AllFound P) (evaluate settings classifier lookup file u diff) := by
  refine (evaluate_reportsOn settings (answers_anything lookup u) diff).imp fun found hfound vs hvs v hv => ?_
  obtain ⟨-, @⟨d, root, handlers, reports, -, -, -, hreports, hgroups⟩⟩ := hfound vs hvs
  obtain ⟨r, hr, rfl⟩ := List.mem_map.1 (hreports.perm.mem_iff.2 hv)
  obtain ⟨first, verdict, hfirst, hreport⟩ := (hreports.each r hr).exists_first
  have hgroup := (hgroups r hr).1
  have hmem : first ∈ handlers := hgroup.mem_handlers (List.mem_of_head? hfirst)
  rw [hreport]
  exact hP first _ _ verdict (Handler.belongsTo_of_discover hgroup.discovered first hmem)

end Monadic

end DoubleSubmit

/-! ## Rule 2 -/

namespace InitialLoading

section Monadic

variable {m : Type → Type} [Monad m] [LawfulMonad m]

/-- The uncovered requests of a hook are some of its requests. -/
theorem uncoveredOf_mem (settings : RuleSettings) (lookup : Option (Lookup m)) (u : SourceUnit)
    (hook : Place) (requests : List Place) :
    Ensures (fun found => ∀ p ∈ found, p ∈ requests)
      (uncoveredOf settings lookup u hook requests) := by
  induction requests with
  | nil => exact Ensures.pure (by simp)
  | cons request rest ih =>
    unfold uncoveredOf
    refine (Ensures.true _).bind fun found _ => ih.bind fun more hmore => Ensures.pure ?_
    intro p hp
    split at hp
    · exact List.mem_cons_of_mem request (hmore p hp)
    · rcases List.mem_cons.1 hp with rfl | hp
      · exact List.mem_cons_self
      · exact List.mem_cons_of_mem request (hmore p hp)

/-- The uncovered requests are requests of the hooks. -/
theorem uncovered_mem (settings : RuleSettings) (classifier : Classifier)
    (lookup : Option (Lookup m)) (u : SourceUnit) (hooks : List Place) :
    Ensures (fun found => ∀ p ∈ found, ∃ hook ∈ hooks, p ∈ classifier.requests hook)
      (uncovered settings classifier lookup u hooks) := by
  induction hooks with
  | nil => exact Ensures.pure (by simp)
  | cons hook rest ih =>
    unfold uncovered
    refine (uncoveredOf_mem settings lookup u hook _).bind fun here hhere => ?_
    refine ih.bind fun more hmore => Ensures.pure ?_
    intro p hp
    rcases List.mem_append.1 hp with hp | hp
    · exact ⟨hook, List.mem_cons_self, hhere p hp⟩
    · obtain ⟨hook', hmem, hreq⟩ := hmore p hp
      exact ⟨hook', List.mem_cons_of_mem hook hmem, hreq⟩

/-- What holds of every report on a request in a callback of page entry holds of all that the rule
finds. -/
theorem evaluate_ensures {P : Violation → Prop} {settings : RuleSettings} {classifier : Classifier}
    {file : String} {u : SourceUnit} (lookup : Option (Lookup m)) (diff : Text)
    (hP : ∀ root hook p requests, u.root? = some root → hook ∈ lifecycleCallbacks root →
      p ∈ classifier.requests hook → P (report settings file u p requests)) :
    Ensures (AllFound P) (evaluate settings classifier lookup file u diff) := by
  unfold evaluate
  split
  · exact Ensures.pure (allFound_none P)
  · cases hroot : u.root? with
    | none => exact Ensures.pure (allFound_none P)
    | some root =>
      refine (Ensures.true _).bind fun d _ => ?_
      split
      · exact Ensures.pure (allFound_none P)
      · refine (uncovered_mem settings classifier lookup u _).bind fun found hfound => ?_
        cases found with
        | nil => exact Ensures.pure (allFound_some (by simp))
        | cons p rest =>
          obtain ⟨hook, hhook, hmem⟩ := hfound _ (leftmost_mem _ p rest)
          refine Ensures.pure (allFound_some fun v hv => ?_)
          rw [List.mem_singleton] at hv
          exact hv ▸ hP root hook _ _ hroot (List.mem_filter.1 hhook).1 hmem

end Monadic

end InitialLoading

/-! ## Rules 3 to 5 -/

/-- What comes of reading a difference satisfies what every reading does. -/
theorem of_map_read {P : Findings → Prop} {diff : Text} {f : Diff → Findings} {found : Findings}
    (h : (Diff.read diff).map f = .ok found) (hf : ∀ d, P (f d)) : P found := by
  cases hd : Diff.read diff with
  | error fault => rw [hd] at h; cases h
  | ok d => rw [hd] at h; cases h; exact hf d

section Pure

variable {P : Violation → Prop} {settings : RuleSettings} {file : String} {u : SourceUnit}
  {diff : Text} {found : Findings}

/-- What holds of the reports on requests with a verb holds of all that the third rule finds. -/
theorem SuccessToast.evaluate_ensures {classifier : Classifier}
    (hP : ∀ root p verb, u.root? = some root → p ∈ classifier.requests root →
      classifier.mutationVerb? p.node = some verb → P (report settings file u p.node verb))
    (h : evaluate settings classifier file u diff = .ok found) : AllFound P found := by
  unfold evaluate at h
  split at h
  · cases h
    exact allFound_none P
  · cases hroot : u.root? with
    | none =>
      rw [hroot] at h
      cases h
      exact allFound_none P
    | some root =>
      rw [hroot] at h
      refine of_map_read h fun d => allFound_some fun v hv => ?_
      obtain ⟨p, hp, hcheck⟩ := List.mem_filterMap.1 hv
      unfold check? at hcheck
      split at hcheck
      · cases hcheck
      · next verb hverb =>
        split_ifs at hcheck
        cases hcheck
        exact hP root p verb hroot hp hverb

/-- What holds of the reports on renderings of lists holds of all that the fourth rule finds. -/
theorem EmptyState.evaluate_ensures
    (hP : ∀ e, rendering? u = some e → P (report settings file e))
    (h : evaluate settings file u diff = .ok found) : AllFound P found := by
  unfold evaluate at h
  split_ifs at h
  · cases h; exact allFound_none P
  · cases h; exact allFound_none P
  · cases h; exact allFound_none P
  · cases h; exact allFound_none P
  · split at h
    · cases h
      exact allFound_some (by simp)
    · next e he =>
      refine of_map_read h fun d => ?_
      unfold judge
      split_ifs
      · exact allFound_none P
      · exact allFound_some (by simp)
      · refine allFound_some fun v hv => ?_
        rw [List.mem_singleton] at hv
        exact hv ▸ hP e he

/-- What holds of the reports on inputs holds of all that the fifth rule finds. -/
theorem InputPlaceholder.evaluate_ensures
    (hP : ∀ e ∈ u.elements, isInput settings e.name = true → P (report file e))
    (h : evaluate settings file u diff = .ok found) : AllFound P found := by
  unfold evaluate at h
  split_ifs at h
  · cases h; exact allFound_none P
  · cases h; exact allFound_none P
  · refine of_map_read h fun d => ?_
    unfold judge
    split_ifs
    · exact allFound_none P
    · refine allFound_some fun v hv => ?_
      obtain ⟨e, he, rfl⟩ := List.mem_map.1 hv
      obtain ⟨hmem, hbad⟩ := List.mem_filter.1 he
      simp only [isBad, Bool.and_eq_true] at hbad
      exact hP e hmem hbad.1.1.1.1.1

end Pure

/-! ## All rules -/

section All

variable {m : Type → Type} [Monad m] [LawfulMonad m] {s : Settings} {lookup : Option (Lookup m)}
  {e : Evaluator m}

/-- Whatever a rule finds, with whatever lookup, is reported on something of the unit. -/
theorem found_reported (he : e ∈ Evaluator.all s lookup) (file : String) (u : SourceUnit)
    (diff : Text) : Ensures (AllReported s file u) (e.evaluate file u diff) := by
  simp only [Evaluator.all, List.mem_cons, List.not_mem_nil, or_false] at he
  rcases he with rfl | rfl | rfl | rfl | rfl
  · exact DoubleSubmit.evaluate_ensures _ _ lookup diff
      fun h function elements verdict hh => .handler function elements verdict hh.1 hh.2
  · exact InitialLoading.evaluate_ensures lookup diff
      fun root hook p requests hroot hhook hp => .entry requests hroot hhook hp
  · exact Ensures.ofExcept fun _ => SuccessToast.evaluate_ensures
      fun root p verb hroot hp hverb => .mutation hroot hp hverb
  · exact Ensures.ofExcept fun _ => EmptyState.evaluate_ensures fun e he => .list he
  · exact Ensures.ofExcept fun _ => InputPlaceholder.evaluate_ensures fun e he hinput => .input he hinput

/-- The reports of the first rule bear its number. -/
theorem DoubleSubmit.rule_report (file : String) (function : Node) (elements : List Element)
    (first : Handler) (verdict : ActionVerdict) :
    (report file function elements first verdict).rule = 1 := by
  unfold report
  split
  · rfl
  · split <;> rfl

/-- Whatever a rule finds, it finds under its own number. -/
theorem found_rule (he : e ∈ Evaluator.all s lookup) (file : String) (u : SourceUnit)
    (diff : Text) : Ensures (AllFound fun v => v.rule = e.rule) (e.evaluate file u diff) := by
  simp only [Evaluator.all, List.mem_cons, List.not_mem_nil, or_false] at he
  rcases he with rfl | rfl | rfl | rfl | rfl
  · exact DoubleSubmit.evaluate_ensures _ _ lookup diff
      fun h function elements verdict _ => DoubleSubmit.rule_report file function elements h verdict
  · exact InitialLoading.evaluate_ensures lookup diff fun _ _ _ _ _ _ _ => rfl
  · exact Ensures.ofExcept fun _ => SuccessToast.evaluate_ensures fun _ _ _ _ _ _ => rfl
  · exact Ensures.ofExcept fun _ => EmptyState.evaluate_ensures fun _ _ => rfl
  · exact Ensures.ofExcept fun _ => InputPlaceholder.evaluate_ensures fun _ _ _ => rfl

end All

/-- A reported violation names the file that was asked about. -/
theorem Reported.file_eq {s : Settings} {file : String} {u : SourceUnit} {v : Violation}
    (h : Reported s file u v) : v.file = file := by
  cases h with
  | handler function elements verdict _ _ =>
    unfold DoubleSubmit.report
    split
    · rfl
    · split <;> rfl
  | _ => rfl

/-- A reported violation is one of a rule. -/
theorem Reported.rule_pos {s : Settings} {file : String} {u : SourceUnit} {v : Violation}
    (h : Reported s file u v) : 0 < v.rule := by
  cases h with
  | handler function elements verdict _ _ =>
    rw [DoubleSubmit.rule_report]
    exact Int.one_pos
  | entry => exact Int.natCast_pos.2 (Nat.succ_pos 1)
  | mutation => exact Int.natCast_pos.2 (Nat.succ_pos 2)
  | list => exact Int.natCast_pos.2 (Nat.succ_pos 3)
  | input => exact Int.natCast_pos.2 (Nat.succ_pos 4)

end UxLint
