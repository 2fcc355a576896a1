import UxLint.Config.Value
import UxLint.Text.Quoted

/-!
# Values in running text

A string stands in running text as it is. Any other value is written out, and the strings inside it
are quoted.
-/

set_option autoImplicit false

namespace UxLint.Value

/-- A truth value in words. -/
def truthWord (b : Bool) : String := if b then "True" else "False"

mutual

/-- A value written out. -/
def writtenOut : Value → String
  | null => "None"
  | bool b => truthWord b
  | whole n => toString n
  | decimal w => w
  | string s => quoted s
  | list items => "[" ++ joinStrings ", " (itemsWrittenOut items) ++ "]"
  | mapping entries => "\x7b" ++ joinStrings ", " (entriesWrittenOut entries) ++ "\x7d"

/-- The items of a list written out. -/
def itemsWrittenOut : List Value → List String
  | [] => []
  | v :: rest => writtenOut v :: itemsWrittenOut rest

/-- The entries of a mapping written out. -/
def entriesWrittenOut : List (String × Value) → List String
  | [] => []
  | (key, v) :: rest => (quoted key ++ ": " ++ writtenOut v) :: entriesWrittenOut rest

end

/-- A value in running text. -/
def display : Value → String
  | string s => s
  | v => writtenOut v

end UxLint.Value
