import UxLint.Rule.All

/-!
# A run over staged files

Every accepted file is read once and handed to each rule. A file that cannot be read is skipped. A
rule that breaks down on a file spoils nothing but its own answer for that file.
-/

set_option autoImplicit false

namespace UxLint

/-- A file that is handed to a run. -/
structure StagedFile where
  path : String
  text : Text
  diff : Text

/-- What a run found. Its numbers may also be handed in from outside, and be anything then. -/
structure CheckResult where
  /-- The violations in the order in which they were found. -/
  violations : List Violation
  /-- The number of files that were checked. -/
  filesChecked : Int
  /-- The number of files that could not be read. -/
  filesSkipped : Int
  /-- The number of times that a rule broke down. -/
  crashedPairs : Int
  /-- The files that were checked, in their order. -/
  checked : List String

namespace CheckResult

/-- The result of no file. -/
def empty : CheckResult := ⟨[], 0, 0, 0, []⟩

/-- The result of two runs, one after the other. -/
def append (a b : CheckResult) : CheckResult where
  violations := a.violations ++ b.violations
  filesChecked := a.filesChecked + b.filesChecked
  filesSkipped := a.filesSkipped + b.filesSkipped
  crashedPairs := a.crashedPairs + b.crashedPairs
  checked := a.checked ++ b.checked

instance : Append CheckResult := ⟨append⟩

/-- Whether a run found a violation. -/
def hasViolations (r : CheckResult) : Bool := !r.violations.isEmpty

/-- The result of a file that could not be read. -/
def skipped : CheckResult := { empty with filesSkipped := 1 }

/-- The result of a file whose rules are still to be evaluated. -/
def opened (path : String) : CheckResult := { empty with filesChecked := 1, checked := [path] }

/-- The result of one rule on one file. -/
def ofFindings (failOnError : Bool) (path : String) (rule : Int) :
    Except Fault Findings → CheckResult
  | .ok findings => { empty with violations := findings.getD [] }
  | .error fault =>
    { empty with
      violations := if failOnError then [Violation.ofFault path rule fault] else []
      crashedPairs := 1 }

end CheckResult

/-- How a run reads a file: it may fail, or find that the file cannot be read. -/
abbrev SourceReader := String → Text → Except Fault (Option SourceUnit)

/-- What a run works with. -/
structure Checker (m : Type → Type) where
  settings : Settings
  reader : SourceReader
  evaluators : List (Evaluator m)

namespace Checker

variable {m : Type → Type} [Monad m]

/-- The unit of a staged file; `none` if the reader fails or cannot read it. -/
def unit? (c : Checker m) (f : StagedFile) : Option SourceUnit :=
  match c.reader f.path f.text with
  | .ok u => u
  | .error _ => none

/-- Evaluates some rules for a unit. -/
def evaluateAll (c : Checker m) (f : StagedFile) (u : SourceUnit) :
    List (Evaluator m) → m CheckResult
  | [] => pure .empty
  | e :: rest => do
    let findings ← (e.evaluate f.path u f.diff).run
    let more ← c.evaluateAll f u rest
    return .ofFindings c.settings.failOnError f.path e.rule findings ++ more

/-- Checks one file. -/
def checkFile (c : Checker m) (f : StagedFile) : m CheckResult :=
  if !c.settings.accepts f.path then pure .empty
  else
    match c.unit? f with
    | none => pure .skipped
    | some u => do
      let found ← c.evaluateAll f u c.evaluators
      return .opened f.path ++ found

/-- Checks several files, one after the other. -/
def check (c : Checker m) : List StagedFile → m CheckResult
  | [] => pure .empty
  | f :: rest => do
    let here ← c.checkFile f
    let more ← c.check rest
    return here ++ more

end Checker

end UxLint
