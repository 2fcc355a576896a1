import UxLint.Fault
import UxLint.Source.Unit

/-!
# Loading flags of actions

An action is declared with the name of the flag that is on while it runs. Whoever wants to know the
flag asks for the action as seen from a file, strictly or not; a strict answer accepts the usual flag
only.
-/

set_option autoImplicit false

namespace UxLint

/-- The flag with which an action is declared. -/
structure Binding where
  action : String
  flag : String
  /-- The file that declares the action. -/
  source : String
  deriving DecidableEq, Repr

/-- A way to ask for the flag of an action: strictly or not, for a name, as seen from a file. What
an answer costs or remembers is up to `m`; a question may raise a fault instead of being answered. -/
abbrev Lookup (m : Type → Type) := Bool → String → SourceUnit → ExceptT Fault m (Option Binding)

/-- The answer to the strict question, and else the answer to the other one. -/
def Lookup.ask {m : Type → Type} [Monad m] (lookup : Lookup m) (action : String)
    (u : SourceUnit) : ExceptT Fault m (Option Binding) := do
  match ← lookup true action u with
  | some b => pure (some b)
  | none => lookup false action u

/-- The flag that an action is declared with, if it is not empty. -/
def Lookup.flag? {m : Type → Type} [Monad m] (lookup : Lookup m) (action : String)
    (u : SourceUnit) : ExceptT Fault m (Option String) := do
  match ← lookup.ask action u with
  | some b => pure (if b.flag == "" then none else some b.flag)
  | none => pure none

end UxLint
