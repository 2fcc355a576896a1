import UxLint.Check
import UxLint.Guidance.Registry
import UxLint.Report.Console
import UxLint.Report.Order

/-!
# The report for a terminal

Each rule with violations gets a table, and a line with the numbers of the run comes last. A run
without violations gets one line only.
-/

set_option autoImplicit false

namespace UxLint.TerminalReport

/-- The name of a rule; without a registry its short description. -/
def label (registry : Option Registry) (rule : Int) : Except GuidanceError String :=
  match registry with
  | none => .ok (ruleLabel rule)
  | some r => r.displayName rule

/-- The columns of every table. -/
def columns : List Column :=
  [⟨"Location", "#00EEFF", true⟩, ⟨"Problem", "", false⟩, ⟨"Suggestion", "dim", false⟩]

/-- The row of a violation. -/
def row (v : Violation) : List String :=
  [Markup.escape v.location, Markup.escape v.message, Markup.escape v.suggestion]

/-- The table of a rule with the given name. -/
def table (name : String) (rule : Int) (vs : List Violation) : Table where
  title := Markup.escape
    ("[规则" ++ toString rule ++ "] " ++ name ++ " (" ++ toString vs.length ++ ")")
  columns := columns
  rows := vs.map row

/-- The line with the numbers of a run. -/
def summary (r : CheckResult) : String :=
  let found := "\n🚫 " ++ toString r.violations.length ++ " violation(s) in " ++
    toString r.filesChecked ++ " checked file(s). " ++
    "Fix them, or adjust the whitelist in your ux-commit-check config."
  if r.crashedPairs == 0 then found
  else found ++ " (" ++ toString r.crashedPairs ++ " rule run(s) crashed; see log.)"

/-- The line for a run without violations. -/
def cleanLine (r : CheckResult) : String :=
  "\n✅ " ++ toString r.filesChecked ++ " file(s) checked, no UI/UX violations found."

/-- What is printed for the groups of violations. -/
def tables (registry : Option Registry) :
    List (Int × List Violation) → Except GuidanceError (List Print)
  | [] => .ok []
  | (rule, vs) :: rest => do
    let name ← label registry rule
    let more ← tables registry rest
    return ⟨.output, .table (table name rule vs), none⟩ :: more

/-- What is printed for the result of a run. -/
def render (registry : Option Registry) (r : CheckResult) : Except GuidanceError (List Print) :=
  if r.violations.isEmpty then .ok [⟨.output, .text (cleanLine r), some "bold green"⟩]
  else do
    let found ← tables registry (Violation.groups r.violations)
    return found ++ [⟨.output, .text (Markup.escape (summary r)), some "bold red"⟩]

end UxLint.TerminalReport
