import UxLint.Config.Settings
import UxLint.Diff
import UxLint.Rule.Violation
import UxLint.Syntax.Function

/-!
# Rule 5: a placeholder

A form input that a change adds must show what to enter.
-/

set_option autoImplicit false

namespace UxLint.InputPlaceholder

/-- The components that look like inputs by their names and hold other components. -/
def containers : List String :=
  ["Select.Option", "Select.OptGroup", "AutoComplete.Option", "Form.Item", "Form.List",
    "Input.Group", "Radio.Group", "Checkbox.Group", "TreeSelect.TreeNode", "el-option",
    "el-option-group", "el-form-item", "option", "optgroup"]

/-- The types of plain inputs that have nothing to enter. -/
def exemptTypes : List String :=
  ["hidden", "checkbox", "radio", "submit", "button", "file", "reset", "image", "range", "color"]

/-- Whether a name is that of a configured component, or of a part of one without a dot. -/
def namesComponent (name component : String) : Bool :=
  if component.toList.contains '.' then name == component
  else name == component || startsWith name (component ++ ".")

/-- Whether a name is that of an input. -/
def isInput (settings : RuleSettings) (name : String) : Bool :=
  !containers.contains name &&
    (settings.keywords "inputComponents").any (namesComponent name)

/-- Whether an element has a placeholder. -/
def hasPlaceholder (settings : RuleSettings) (e : Element) : Bool :=
  (settings.keywords "placeholderAttributes").any fun name => (e.attribute? name).isSome

/-- Whether an element is a plain input with nothing to enter. -/
def isExemptInput (e : Element) : Bool :=
  e.name == "input" &&
    let type := Node.firstNonempty ((e.valueOf? "type").getD "") "text"
    exemptTypes.contains (String.ofList (Text.lower (Text.trim type.toList)))

/-- Whether an element is exempt by its name or by the value of an attribute. -/
def isExempt (settings : RuleSettings) (e : Element) : Bool :=
  settings.exempts e.name ||
    e.attributes.any fun a => a.value.any fun v => v != "" && !a.dynamic && settings.exempts v

/-- The violation of an input without a placeholder. -/
def report (path : String) (e : Element) : Violation where
  rule := 5
  symbol := "missing-placeholder"
  file := path
  line := e.line
  message := "New input component <" ++ e.name ++ "> has no placeholder."
  suggestion := "Add a hint, e.g. <" ++ e.name ++ " placeholder=\"请输入...\" />."

/-- Whether an element breaks the rule. -/
def isBad (settings : RuleSettings) (d : Diff) (e : Element) : Bool :=
  isInput settings e.name && !e.hasSpread && !isExemptInput e && d.touches e.line e.endLine &&
    !isExempt settings e && !hasPlaceholder settings e

/-- What the rule says about a file with the given difference. -/
def judge (settings : RuleSettings) (path : String) (u : SourceUnit) (d : Diff) : Findings :=
  if !d.isNew && !d.mentionsAny ["<"] then none
  else some ((u.elements.filter (isBad settings d)).map (report path))

/-- Evaluates the rule for a file. -/
def evaluate (settings : RuleSettings) (path : String) (u : SourceUnit) (diff : Text) :
    Except Fault Findings :=
  if !settings.enabled || settings.isPathWhitelisted path then .ok none
  else if u.tree.isNone && u.markup.isNone then .ok none
  else (Diff.read diff).map (judge settings path u)

end UxLint.InputPlaceholder
