import UxLint.Check
import UxLint.Report.Order
import UxLint.Text.Digit

/-!
# The report for machines

The report is a JSON list with one object for each violation, indented by two blanks a level. Only
quotes, backslashes and controls are escaped.
-/

set_option autoImplicit false

namespace UxLint.JsonReport

/-- A character inside a JSON string. -/
def escapeChar (c : Char) : Text :=
  if c == '\x22' || c == '\\' then ['\\', c]
  else if c == '\n' then ['\\', 'n']
  else if c == '\r' then ['\\', 'r']
  else if c == '\t' then ['\\', 't']
  else if c == '\x08' then ['\\', 'b']
  else if c == '\x0c' then ['\\', 'f']
  else if c.toNat < 0x20 then '\\' :: 'u' :: Text.hexDigits 4 c.toNat
  else [c]

/-- A JSON string. -/
def quote (s : String) : String :=
  "\"" ++ String.ofList (s.toList.flatMap escapeChar) ++ "\""

/-- The members of the object for a violation. -/
def members (v : Violation) : List (String × String) :=
  [("rule", toString v.rule), ("symbol", quote v.symbol), ("file", quote v.file),
    ("line", toString v.line), ("message", quote v.message), ("suggestion", quote v.suggestion)]

/-- The object for a violation. -/
def object (v : Violation) : String :=
  let lines := (members v).map fun m => "    " ++ quote m.1 ++ ": " ++ m.2
  "  \x7b\n" ++ joinStrings ",\n" lines ++ "\n  \x7d"

/-- The report on some violations. -/
def render (vs : List Violation) : String :=
  if vs.isEmpty then "[]"
  else
    "[\n" ++ joinStrings ",\n" ((vs.mergeSort Violation.byPlaceAndSymbol).map object) ++ "\n]"

end UxLint.JsonReport
