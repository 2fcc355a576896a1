import UxLint.Fault
import UxLint.Source.Unit

/-!
# Violations

A rule answers for a file with its violations, or says that it does not apply. The fault of a rule that
breaks down may be reported as a violation of rule zero.
-/

set_option autoImplicit false

namespace UxLint

/-- A place where a rule is not kept. -/
structure Violation where
  rule : Int
  /-- The name of the kind of violation. -/
  symbol : String
  file : String
  line : Int
  /-- What is wrong. -/
  message : String
  /-- What to do about it. -/
  suggestion : String
  deriving DecidableEq, Repr

/-- The file and the line of a violation. -/
def Violation.location (v : Violation) : String := v.file ++ ":" ++ toString v.line

/-- The violation that reports a fault of a rule. -/
def Violation.ofFault (file : String) (rule : Int) (fault : Fault) : Violation where
  rule := 0
  symbol := "evaluator-crashed"
  file := file
  line := 0
  message := "rule " ++ toString rule ++ " crashed: " ++ fault.kind ++ ": " ++ fault.message
  suggestion := "Re-run with --verbose and report the traceback."

/-- What a rule says about a file: nothing if it does not apply, and its violations otherwise. -/
abbrev Findings := Option (List Violation)

end UxLint
