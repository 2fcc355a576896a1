import UxLint.Check
import Mathlib.Data.List.Forall2

/-!
# Rules do not see how a lookup remembers

A rule asks a lookup and goes on with the answer. If every question has a fixed answer as long as an
invariant of the remembered state holds, and no question breaks the invariant, then a rule finds what
it finds with the lookup that gives these answers without remembering anything. The proofs follow the
recursion of the rules, and `all_agree` is the top.
-/

set_option autoImplicit false

namespace UxLint

variable {σ : Type}

/-- From every state with the invariant, a computation gives the value `a` and ends in such a state. -/
def Yields {α : Type} (I : σ → Prop) (x : StateM σ α) (a : α) : Prop :=
  ∀ s, I s → (x.run s).1 = a ∧ I (x.run s).2

/-- From every state with the invariant, a computation ends like one without a state. -/
def Agrees {α : Type} (I : σ → Prop) (x : ExceptT Fault (StateM σ) α) (y : ExceptT Fault Id α) :
    Prop :=
  Yields I x.run y.run

section Computations

variable {α β : Type} {I : σ → Prop}

/-- A value yields itself. -/
theorem Yields.pure (a : α) : Yields I (pure a) a := fun _ hs => ⟨rfl, hs⟩

/-- What goes on from a value that is yielded yields what it goes on to. -/
theorem Yields.bind {x : StateM σ α} {a : α} {f : α → StateM σ β} {b : β} (hx : Yields I x a)
    (hf : Yields I (f a) b) : Yields I (x >>= f) b := by
  intro s hs
  obtain ⟨hval, hinv⟩ := hx s hs
  rw [StateT.run_bind]
  change ((f (x.run s).1).run (x.run s).2).1 = b ∧ I ((f (x.run s).1).run (x.run s).2).2
  rw [hval]
  exact hf _ hinv

/-- A value agrees with itself. -/
theorem Agrees.pure (a : α) : Agrees I (pure a) (pure a) := Yields.pure _

/-- A fault or a value agrees with itself. -/
theorem Agrees.ofExcept (e : Except Fault α) :
    Agrees I (MonadExcept.ofExcept e) (MonadExcept.ofExcept e) := by
  cases e <;> exact Yields.pure _

/-- What goes on from computations that agree agrees. -/
theorem Agrees.bind {x : ExceptT Fault (StateM σ) α} {y : ExceptT Fault Id α}
    {f : α → ExceptT Fault (StateM σ) β} {g : α → ExceptT Fault Id β} (hx : Agrees I x y)
    (hf : ∀ a, Agrees I (f a) (g a)) : Agrees I (x >>= f) (y >>= g) := by
  unfold Agrees at *
  rw [ExceptT.run_bind, ExceptT.run_bind]
  generalize y.run = outcome at hx ⊢
  refine hx.bind ?_
  cases outcome with
  | error e => exact Yields.pure _
  | ok a => exact hf a

/-- The first evidence agrees if all finders do. -/
theorem Agrees.first {fs : List (Finder (ExceptT Fault (StateM σ)))}
    {gs : List (Finder (ExceptT Fault Id))}
    (h : List.Forall₂ (fun f g => Agrees I (f ()) (g ())) fs gs) :
    Agrees I (Evidence.first fs) (Evidence.first gs) := by
  induction h with
  | nil => exact Agrees.pure _
  | cons hfg _ ih =>
    unfold Evidence.first
    refine hfg.bind fun found => ?_
    cases found with
    | none => exact ih
    | some e => exact Agrees.pure _

end Computations

/-- Two lookups answer alike for a unit, the first one as long as the invariant holds. -/
def LookupsAgree (I : σ → Prop) (u : SourceUnit) (l : Option (Lookup (StateM σ)))
    (l' : Option (Lookup Id)) : Prop :=
  Option.Rel (fun a b => ∀ strict action, Agrees I (a strict action u) (b strict action u)) l l'

section Rules

variable {I : σ → Prop} {u : SourceUnit} {lookup : Option (Lookup (StateM σ))}
  {lookup' : Option (Lookup Id)}

/-- Lookups that agree are asked in two steps with one answer. -/
theorem ask_agrees {l : Lookup (StateM σ)} {l' : Lookup Id}
    (h : ∀ strict action, Agrees I (l strict action u) (l' strict action u)) (action : String) :
    Agrees I (l.ask action u) (l'.ask action u) := by
  refine (h true action).bind fun found => ?_
  cases found with
  | some b => exact Agrees.pure _
  | none => exact h false action

/-- Lookups that agree find the same flag. -/
theorem flag?_agrees {l : Lookup (StateM σ)} {l' : Lookup Id}
    (h : ∀ strict action, Agrees I (l strict action u) (l' strict action u)) (action : String) :
    Agrees I (l.flag? action u) (l'.flag? action u) := by
  refine (ask_agrees h action).bind fun found => ?_
  cases found <;> exact Agrees.pure _

namespace DoubleSubmit

/-- A request is judged alike with lookups that agree. -/
theorem judgeRequest_agrees (h : LookupsAgree I u lookup lookup') (elements : List Element)
    (request : Node) :
    Agrees I (judgeRequest lookup u elements request) (judgeRequest lookup' u elements request) := by
  unfold judgeRequest
  cases h with
  | none => exact Agrees.pure _
  | some h =>
    cases Request.actionName? request with
    | none => exact Agrees.pure _
    | some action =>
      refine (flag?_agrees h action).bind fun flag => ?_
      cases flag <;> exact Agrees.pure _

/-- Requests are judged alike with lookups that agree. -/
theorem judgeRequests_agrees (h : LookupsAgree I u lookup lookup') (elements : List Element)
    (requests : List Place) (found : ActionVerdict) :
    Agrees I (judgeRequests lookup u elements found requests)
      (judgeRequests lookup' u elements found requests) := by
  induction requests generalizing found with
  | nil => exact Agrees.pure _
  | cons request rest ih =>
    unfold judgeRequests
    refine (judgeRequest_agrees h elements request.node).bind fun verdict => ?_
    cases verdict with
    | unknown => exact ih found
    | bound => exact Agrees.pure _
    | wrong a f e =>
      cases found with
      | unknown => exact ih _
      | bound => exact ih _
      | wrong _ _ _ => exact ih _

/-- A group is checked alike with lookups that agree. -/
theorem checkGroup_agrees (h : LookupsAgree I u lookup lookup') (classifier : Classifier)
    (path : String) (elements : List Element) (g : Group) :
    Agrees I (checkGroup classifier lookup path u elements g)
      (checkGroup classifier lookup' path u elements g) := by
  unfold checkGroup
  dsimp only
  split
  · split
    · exact Agrees.pure _
    · refine (judgeRequests_agrees h _ _ _).bind fun verdict => ?_
      cases verdict <;> exact Agrees.pure _
  · exact Agrees.pure _

/-- Groups are checked alike with lookups that agree. -/
theorem checkGroups_agrees (h : LookupsAgree I u lookup lookup') (classifier : Classifier)
    (path : String) (elements : List Element) (groups : List Group) :
    Agrees I (checkGroups classifier lookup path u elements groups)
      (checkGroups classifier lookup' path u elements groups) := by
  induction groups with
  | nil => exact Agrees.pure _
  | cons g rest ih =>
    unfold checkGroups
    refine (checkGroup_agrees h classifier path elements g).bind fun found => ?_
    exact ih.bind fun more => Agrees.pure _

/-- The first rule finds the same with lookups that agree. -/
theorem evaluate_agrees (h : LookupsAgree I u lookup lookup') (settings : RuleSettings)
    (classifier : Classifier) (path : String) (diff : Text) :
    Agrees I (evaluate settings classifier lookup path u diff)
      (evaluate settings classifier lookup' path u diff) := by
  unfold evaluate
  split
  · exact Agrees.pure _
  · cases u.root? with
    | none => exact Agrees.pure _
    | some root =>
      refine (Agrees.ofExcept _).bind fun d => ?_
      split
      · exact Agrees.pure _
      · refine (Agrees.ofExcept _).bind fun handlers => ?_
        exact (checkGroups_agrees h _ _ _ _).bind fun found => Agrees.pure _

end DoubleSubmit

namespace InitialLoading

/-- The evidence of an action is the same with lookups that agree. -/
theorem actionEvidence_agrees (h : LookupsAgree I u lookup lookup') (request : Node) :
    Agrees I (actionEvidence lookup u request) (actionEvidence lookup' u request) := by
  unfold actionEvidence
  cases h with
  | none => exact Agrees.pure _
  | some h =>
    cases Request.actionName? request with
    | none => exact Agrees.pure _
    | some action =>
      refine (flag?_agrees h action).bind fun flag => ?_
      cases flag <;> exact Agrees.pure _

/-- The evidence of a request is the same with lookups that agree. -/
theorem evidence_agrees (h : LookupsAgree I u lookup lookup') (settings : RuleSettings)
    (hook request : Place) :
    Agrees I (evidence settings lookup u hook request)
      (evidence settings lookup' u hook request) := by
  unfold evidence
  -- Only the last finder asks the lookup; the others are the same on both sides.
  refine Agrees.first (.cons (Agrees.pure _) (.cons (Agrees.pure _) (.cons (Agrees.pure _) ?_)))
  exact .cons (actionEvidence_agrees h request.node) .nil

/-- The same requests of a hook are uncovered with lookups that agree. -/
theorem uncoveredOf_agrees (h : LookupsAgree I u lookup lookup') (settings : RuleSettings)
    (hook : Place) (requests : List Place) :
    Agrees I (uncoveredOf settings lookup u hook requests)
      (uncoveredOf settings lookup' u hook requests) := by
  induction requests with
  | nil => exact Agrees.pure _
  | cons request rest ih =>
    unfold uncoveredOf
    refine (evidence_agrees h settings hook request).bind fun found => ?_
    exact ih.bind fun more => Agrees.pure _

/-- The same requests of all hooks are uncovered with lookups that agree. -/
theorem uncovered_agrees (h : LookupsAgree I u lookup lookup') (settings : RuleSettings)
    (classifier : Classifier) (hooks : List Place) :
    Agrees I (uncovered settings classifier lookup u hooks)
      (uncovered settings classifier lookup' u hooks) := by
  induction hooks with
  | nil => exact Agrees.pure _
  | cons hook rest ih =>
    unfold uncovered
    refine (uncoveredOf_agrees h settings hook _).bind fun here => ?_
    exact ih.bind fun more => Agrees.pure _

/-- The second rule finds the same with lookups that agree. -/
theorem evaluate_agrees (h : LookupsAgree I u lookup lookup') (settings : RuleSettings)
    (classifier : Classifier) (path : String) (diff : Text) :
    Agrees I (evaluate settings classifier lookup path u diff)
      (evaluate settings classifier lookup' path u diff) := by
  unfold evaluate
  split
  · exact Agrees.pure _
  · cases u.root? with
    | none => exact Agrees.pure _
    | some root =>
      refine (Agrees.ofExcept _).bind fun d => ?_
      split
      · exact Agrees.pure _
      · refine (uncovered_agrees h _ _ _).bind fun found => ?_
        cases found <;> exact Agrees.pure _

end InitialLoading

/-- The five rules find alike with lookups that answer alike. -/
theorem all_agree (h : LookupsAgree I u lookup lookup') (s : Settings) :
    List.Forall₂
      (fun e e' => e.rule = e'.rule ∧
        ∀ path diff, Agrees I (e.evaluate path u diff) (e'.evaluate path u diff))
      (Evaluator.all s lookup) (Evaluator.all s lookup') := by
  refine .cons ⟨rfl, ?_⟩ (.cons ⟨rfl, ?_⟩ (.cons ⟨rfl, ?_⟩ (.cons ⟨rfl, ?_⟩ (.cons ⟨rfl, ?_⟩ .nil))))
  · exact fun path diff => DoubleSubmit.evaluate_agrees h _ _ path diff
  · exact fun path diff => InitialLoading.evaluate_agrees h _ _ path diff
  all_goals exact fun path diff => Agrees.ofExcept _

end Rules

end UxLint
