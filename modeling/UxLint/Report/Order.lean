import UxLint.Rule.Violation

/-!
# The order of a report

A report lists violations by rule, file and line, whatever the order in which they were found. Two
violations that agree in these keep the order in which they were found.
-/

set_option autoImplicit false

namespace UxLint.Violation

/-- Whether a violation may be listed before another one in a report by rules. -/
def byPlace (a b : Violation) : Bool :=
  if a.rule != b.rule then decide (a.rule < b.rule)
  else if a.file != b.file then decide (a.file < b.file)
  else decide (a.line ≤ b.line)

/-- Whether a violation may be listed before another one where the symbols count too. -/
def byPlaceAndSymbol (a b : Violation) : Bool :=
  if a.rule != b.rule then decide (a.rule < b.rule)
  else if a.file != b.file then decide (a.file < b.file)
  else if a.line != b.line then decide (a.line < b.line)
  else decide (a.symbol ≤ b.symbol)

/-- The violations of each rule, the rules in increasing order. -/
def groups (vs : List Violation) : List (Int × List Violation) :=
  let sorted := vs.mergeSort byPlace
  ((sorted.map (·.rule)).eraseDups).map fun rule => (rule, sorted.filter fun v => v.rule == rule)

end UxLint.Violation
