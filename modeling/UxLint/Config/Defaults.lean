import UxLint.Config.Value

/-!
# Packaged settings

The settings that hold where a project says nothing, as a document and as the text of the file that
a project starts from. The two agree.
-/

set_option autoImplicit false

namespace UxLint.Defaults

/-- A list of strings as a value. -/
def strings (ss : List String) : Value := .list (ss.map .string)

/-- The section of a rule that is on, with its exempting words and one word list or more. -/
def ruleSection (exempt : List String) (lists : List (String × List String)) : Value :=
  .mapping [("enabled", .bool true),
    ("whitelist", .mapping [("keywords", strings exempt), ("paths", strings [])]),
    ("customKeywords", .mapping (lists.map fun l => (l.1, strings l.2)))]

/-- The words that exempt handlers which only show or close something. -/
def viewingWords : List String :=
  ["查看", "查看详情", "取消", "返回", "关闭", "详情", "view", "cancel", "close", "detail"]

/-- The words of the names of requests. -/
def requestWords : List String :=
  ["fetch", "axios", "request", "http", "api", "action", "dispatch", "xhr", "ajax", "fetchdataapi"]

/-- The methods that show a loading state. -/
def loadingMethods : List String := ["showLoading", "hideLoading", "loading", "setLoading"]

/-- The methods that show a success message. -/
def successMethods : List String :=
  ["message.success", "$message.success", "showSuccessTip", "ElMessage.success", "Message.success"]

/-- The components that show an empty state. -/
def emptyComponents : List String := ["Empty", "NoData", "EmptyTip"]

/-- The components for input. -/
def inputComponents : List String :=
  ["Input", "Input.TextArea", "Input.Password", "Input.Search", "Select", "DatePicker",
    "RangePicker", "TimePicker", "InputNumber", "AutoComplete", "Cascader", "TreeSelect",
    "el-input", "el-select", "el-date-picker", "el-time-picker", "el-input-number",
    "el-autocomplete", "el-cascader", "el-tree-select", "input", "select", "textarea"]

/-- The packaged document. -/
def entries : List (String × Value) :=
  [("rule1", ruleSection viewingWords [("requestMethods", requestWords)]),
    ("rule2", ruleSection [] [("loadingMethods", loadingMethods)]),
    ("rule3", ruleSection ["batch", "批量"] [("successMethods", successMethods)]),
    ("rule4", ruleSection [] [("emptyComponents", emptyComponents)]),
    ("rule5", ruleSection [] [("inputComponents", inputComponents),
      ("placeholderAttributes", ["placeholder", "placeholderText"])]),
    ("global", .mapping
      [("fileExtensions", strings [".html", ".js", ".ts", ".vue", ".jsx", ".tsx"]),
        ("ignore", strings ["node_modules/**", "dist/**", "build/**", "*.min.js"]),
        ("declareRequestFunction", .string "declareRequest"), ("failOnError", .bool false)])]

/-- The lines of the file that a project starts from. -/
def fileLines : List String := [
  "# ux-commit-check configuration.",
  "#",
  "# enabled:        turn a rule on or off",
  "# whitelist:      keywords / paths that skip the rule",
  "# customKeywords: project-specific method and component names",
  "",
  "rule1:",
  "  # Buttons and forms that call an API must guard against double submission.",
  "  enabled: true",
  "  whitelist:",
  "    keywords: [\"查看\", \"查看详情\", \"取消\", \"返回\", \"关闭\", \"详情\", \"view\", \"cancel\", \"close\", \"detail\"]",
  "    paths: []",
  "  customKeywords:",
  "    requestMethods: [\"fetch\", \"axios\", \"request\", \"http\", \"api\", \"action\", \"dispatch\", \"xhr\", \"ajax\", \"fetchdataapi\"]",
  "",
  "rule2:",
  "  # List and detail pages must show a loading state on first entry.",
  "  enabled: true",
  "  whitelist:",
  "    keywords: []",
  "    paths: []",
  "  customKeywords:",
  "    loadingMethods: [\"showLoading\", \"hideLoading\", \"loading\", \"setLoading\"]",
  "",
  "rule3:",
  "  # Mutating requests must show a success toast.",
  "  enabled: true",
  "  whitelist:",
  "    keywords: [\"batch\", \"批量\"]",
  "    paths: []",
  "  customKeywords:",
  "    successMethods: [\"message.success\", \"$message.success\", \"showSuccessTip\", \"ElMessage.success\", \"Message.success\"]",
  "",
  "rule4:",
  "  # Lists rendered without a Table need a custom empty state.",
  "  enabled: true",
  "  whitelist:",
  "    keywords: []",
  "    paths: []",
  "  customKeywords:",
  "    emptyComponents: [\"Empty\", \"NoData\", \"EmptyTip\"]",
  "",
  "rule5:",
  "  # New form inputs need placeholder text.",
  "  enabled: true",
  "  whitelist:",
  "    keywords: []",
  "    paths: []",
  "  customKeywords:",
  "    inputComponents:",
  "      - Input",
  "      - Input.TextArea",
  "      - Input.Password",
  "      - Input.Search",
  "      - Select",
  "      - DatePicker",
  "      - RangePicker",
  "      - TimePicker",
  "      - InputNumber",
  "      - AutoComplete",
  "      - Cascader",
  "      - TreeSelect",
  "      - el-input",
  "      - el-select",
  "      - el-date-picker",
  "      - el-time-picker",
  "      - el-input-number",
  "      - el-autocomplete",
  "      - el-cascader",
  "      - el-tree-select",
  "      - input",
  "      - select",
  "      - textarea",
  "    placeholderAttributes: [\"placeholder\", \"placeholderText\"]",
  "",
  "global:",
  "  fileExtensions: [\".html\", \".js\", \".ts\", \".vue\", \".jsx\", \".tsx\"]",
  "  ignore: [\"node_modules/**\", \"dist/**\", \"build/**\", \"*.min.js\"]",
  "  declareRequestFunction: declareRequest",
  "  failOnError: false"]

/-- The text of the file that a project starts from. -/
def fileText : String := String.join (fileLines.map fun line => line ++ "\n")

end UxLint.Defaults
