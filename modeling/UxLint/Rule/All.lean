import UxLint.Rule.DoubleSubmit
import UxLint.Rule.EmptyState
import UxLint.Rule.InitialLoading
import UxLint.Rule.InputPlaceholder
import UxLint.Rule.SuccessToast

/-!
# The rules

The five rules in their order. The first three share one classifier of requests.
-/

set_option autoImplicit false

namespace UxLint

/-- A rule that can be evaluated for a file. -/
structure Evaluator (m : Type → Type) where
  rule : Int
  /-- What the rule says about a file, given its path and its difference. -/
  evaluate : String → SourceUnit → Text → ExceptT Fault m Findings

namespace Evaluator

open MonadExcept (ofExcept)

variable {m : Type → Type} [Monad m]

/-- The words of the names of requests: those of the first rule, else those of the second. -/
def requestWords (s : Settings) : List String :=
  match (s.rule 1).keywords "requestMethods" with
  | [] => (s.rule 2).keywords "requestMethods"
  | words => words

/-- The classifier of requests that the rules share. -/
def classifier (s : Settings) : Classifier := .ofWords (requestWords s)

/-- The five rules under the given settings. -/
def all (s : Settings) (lookup : Option (Lookup m)) : List (Evaluator m) :=
  [⟨1, fun path u diff => DoubleSubmit.evaluate (s.rule 1) (classifier s) lookup path u diff⟩,
    ⟨2, fun path u diff => InitialLoading.evaluate (s.rule 2) (classifier s) lookup path u diff⟩,
    ⟨3, fun path u diff => ofExcept (SuccessToast.evaluate (s.rule 3) (classifier s) path u diff)⟩,
    ⟨4, fun path u diff => ofExcept (EmptyState.evaluate (s.rule 4) path u diff)⟩,
    ⟨5, fun path u diff => ofExcept (InputPlaceholder.evaluate (s.rule 5) path u diff)⟩]

end Evaluator

end UxLint
