import UxLint.Rule.All
import Mathlib.Tactic.Choose

/-!
# Rules that ask a lookup

A computation is calm if it raises no fault, in whatever monad it runs: it is lifted from one that cannot.
Where a rule meets a fault of its own is told apart from the faults of the lookup by this: once a lookup is
calm, so is all that the first two rules do with it (`checkGroups_calm`, `uncovered_calm`).
-/

set_option autoImplicit false

namespace UxLint

variable {m : Type → Type} [Monad m] {α β : Type}

/-- A computation that raises no fault. -/
def Calm (x : ExceptT Fault m α) : Prop := ∃ y : m α, x = ExceptT.lift y

/-- A lookup that answers every question about a unit without raising a fault. -/
def Lookup.IsCalm (l : Lookup m) (u : SourceUnit) : Prop := ∀ strict action, Calm (l strict action u)

namespace Calm

/-- What yields a value under all circumstances is calm. -/
theorem of_run [LawfulMonad m] {x : ExceptT Fault m α} {y : m α} (h : x.run = Except.ok <$> y) :
    Calm x :=
  ⟨y, ExceptT.ext h⟩

/-- A value is calm. -/
theorem pure [LawfulMonad m] (a : α) : Calm (pure a : ExceptT Fault m α) := by
  apply of_run (y := Pure.pure a)
  rw [ExceptT.run_pure, map_pure]

/-- What goes on calmly from something calm is calm. -/
theorem bind [LawfulMonad m] {x : ExceptT Fault m α} {f : α → ExceptT Fault m β} (hx : Calm x)
    (hf : ∀ a, Calm (f a)) : Calm (x >>= f) := by
  obtain ⟨y, rfl⟩ := hx
  choose g hg using hf
  apply of_run (y := y >>= g)
  rw [ExceptT.run_bind, ExceptT.run_lift, bind_map_left, map_bind]
  congr 1
  funext a
  change (f a).run = _
  rw [hg a, ExceptT.run_lift]

/-- From every state, a calm computation comes to a result. -/
theorem exists_ok {σ : Type} {x : ExceptT Fault (StateM σ) α} (h : Calm x) (s : σ) :
    ∃ a, (x.run.run s).1 = .ok a := by
  obtain ⟨y, rfl⟩ := h
  exact ⟨(y.run s).1, rfl⟩

/-- A computation with a state is calm if it comes to a result from every state. -/
theorem of_state {σ : Type} {x : ExceptT Fault (StateM σ) α}
    (h : ∀ s, ∃ a, (x.run.run s).1 = .ok a) : Calm x := by
  choose f hf using h
  apply of_run (y := fun s => (f s, (x.run.run s).2))
  funext s
  exact Prod.ext (hf s) rfl

end Calm

/-- Without a state, a computation is calm if it comes to a result. -/
theorem calm_iff {x : ExceptT Fault Id α} : Calm x ↔ ∃ a, x.run = .ok a := by
  constructor
  · rintro ⟨y, rfl⟩
    exact ⟨y, rfl⟩
  · rintro ⟨a, ha⟩
    exact .of_run (y := a) ha

variable [LawfulMonad m] {lookup : Option (Lookup m)} {u : SourceUnit}

/-- To look for a flag is calm with a calm lookup. -/
theorem flag?_calm {l : Lookup m} (h : l.IsCalm u) (action : String) : Calm (l.flag? action u) := by
  have hask : Calm (l.ask action u) := by
    refine (h true action).bind fun found => ?_
    cases found with
    | some b => exact .pure _
    | none => exact h false action
  refine hask.bind fun found => ?_
  cases found <;> exact .pure _

namespace DoubleSubmit

/-- To judge a request is calm with a calm lookup. -/
theorem judgeRequest_calm (h : ∀ l ∈ lookup, l.IsCalm u) (elements : List Element) (request : Node) :
    Calm (judgeRequest lookup u elements request) := by
  unfold judgeRequest
  cases lookup with
  | none => exact .pure _
  | some l =>
    cases Request.actionName? request with
    | none => exact .pure _
    | some action =>
      refine (flag?_calm (h l rfl) action).bind fun flag => ?_
      cases flag <;> exact .pure _

/-- To judge requests is calm with a calm lookup. -/
theorem judgeRequests_calm (h : ∀ l ∈ lookup, l.IsCalm u) (elements : List Element)
    (requests : List Place) (found : ActionVerdict) :
    Calm (judgeRequests lookup u elements found requests) := by
  induction requests generalizing found with
  | nil => exact .pure _
  | cons request rest ih =>
    refine (judgeRequest_calm h elements request.node).bind fun verdict => ?_
    cases verdict with
    | bound => exact .pure _
    | unknown => exact ih _
    | wrong a f e =>
      cases found with
      | unknown => exact ih _
      | bound => exact ih _
      | wrong a' f' e' => exact ih _

variable (classifier : Classifier) (path : String) (elements : List Element)

/-- To check a group is calm with a calm lookup. -/
theorem checkGroup_calm (h : ∀ l ∈ lookup, l.IsCalm u) (g : Group) :
    Calm (checkGroup classifier lookup path u elements g) := by
  unfold checkGroup
  dsimp only
  split
  · split
    · exact .pure _
    · refine (judgeRequests_calm h _ _ _).bind fun verdict => ?_
      cases verdict <;> exact .pure _
  · exact .pure _

/-- To check groups is calm with a calm lookup. -/
theorem checkGroups_calm (h : ∀ l ∈ lookup, l.IsCalm u) (groups : List Group) :
    Calm (checkGroups classifier lookup path u elements groups) := by
  induction groups with
  | nil => exact .pure _
  | cons g rest ih =>
    refine (checkGroup_calm classifier path elements h g).bind fun found => ?_
    exact ih.bind fun more => .pure _

end DoubleSubmit

namespace InitialLoading

/-- Asking finders one after the other is calm if each of them is. -/
theorem first_calm {finders : List (Finder (ExceptT Fault m))} (h : ∀ f ∈ finders, Calm (f ())) :
    Calm (Evidence.first finders) := by
  induction finders with
  | nil => exact .pure _
  | cons f fs ih =>
    refine (h f List.mem_cons_self).bind fun found => ?_
    cases found with
    | some e => exact .pure _
    | none => exact ih fun g hg => h g (List.mem_cons_of_mem f hg)

/-- The evidence of an action is calm with a calm lookup. -/
theorem actionEvidence_calm (h : ∀ l ∈ lookup, l.IsCalm u) (request : Node) :
    Calm (actionEvidence lookup u request) := by
  unfold actionEvidence
  cases lookup with
  | none => exact .pure _
  | some l =>
    cases Request.actionName? request with
    | none => exact .pure _
    | some action =>
      refine (flag?_calm (h l rfl) action).bind fun flag => ?_
      cases flag <;> exact .pure _

variable (settings : RuleSettings)

/-- The evidence of a request is calm with a calm lookup. -/
theorem evidence_calm (h : ∀ l ∈ lookup, l.IsCalm u) (hook request : Place) :
    Calm (evidence settings lookup u hook request) := by
  apply first_calm
  simp only [List.forall_mem_cons, List.not_mem_nil, false_implies, implies_true, and_true]
  exact ⟨.pure _, .pure _, .pure _, actionEvidence_calm h request.node⟩

/-- To look for uncovered requests of a hook is calm with a calm lookup. -/
theorem uncoveredOf_calm (h : ∀ l ∈ lookup, l.IsCalm u) (hook : Place) (requests : List Place) :
    Calm (uncoveredOf settings lookup u hook requests) := by
  induction requests with
  | nil => exact .pure _
  | cons request rest ih =>
    refine (evidence_calm settings h hook request).bind fun found => ?_
    exact ih.bind fun more => .pure _

/-- To look for uncovered requests of all hooks is calm with a calm lookup. -/
theorem uncovered_calm (classifier : Classifier) (h : ∀ l ∈ lookup, l.IsCalm u) (hooks : List Place) :
    Calm (uncovered settings classifier lookup u hooks) := by
  induction hooks with
  | nil => exact .pure _
  | cons hook rest ih =>
    refine (uncoveredOf_calm settings h hook _).bind fun here => ?_
    exact ih.bind fun more => .pure _

end InitialLoading

end UxLint
