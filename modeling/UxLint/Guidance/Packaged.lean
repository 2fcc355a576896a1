import UxLint.Guidance.Registry

/-!
# The packaged registry

The entries of the five rules as they are delivered with the program.
-/

set_option autoImplicit false

namespace UxLint.Registry

/-- The entry of a rule: its name, its symbol, a sentence about it, the lines of its instructions and
where to read on. -/
def ruleEntry (name symbol sentence : String) (lines references : List String) : Value :=
  .mapping [("display_name", .string name), ("symbol", .string symbol),
    ("short_description", .string sentence),
    ("manual_instructions", .string (String.join (lines.map fun line => line ++ "\n"))),
    ("references", .list (references.map .string))]

/-- How double submission is mended. -/
def doubleSubmitLines : List String := [
  "Protect the handler in one of these ways:",
  "  1. Keep a loading flag: set it to true before the request, reset it in",
  "     .finally (or a finally block) and bind it to the trigger, e.g.",
  "     <Button loading=\x7bloading\x7d onClick=\x7bhandleSubmit\x7d>.",
  "     For modals use confirmLoading, for plain buttons :disabled / :loading.",
  "  2. Return early while a request is pending: if (loading) return;",
  "  3. Wrap the handler with debounce/throttle using a delay of at least 500ms.",
  "  4. For declareRequest actions, bind the declared loading flag",
  "     (e.g. props.global.loading) to the trigger element."]

/-- How a missing loading state is mended. -/
def initialLoadingLines : List String := [
  "Requests fired from useEffect / onMounted / componentDidMount / created need",
  "visible loading feedback:",
  "  - const [loading, setLoading] = useState(false); setLoading(true) before",
  "    the request, setLoading(false) in .finally, and",
  "    <Spin spinning=\x7bloading\x7d> or <Table loading=\x7bloading\x7d>;",
  "  - Vue: v-loading=\"loading\" on the container;",
  "  - or call one of the configured loading methods (showLoading/hideLoading)."]

/-- How a missing success message is mended. -/
def successToastLines : List String := [
  "Call a success toast on the success path of the request:",
  "  axios.post(url, data).then(() => message.success('保存成功'))",
  "or after the await:",
  "  await saveUser(data); message.success('保存成功');",
  "Batch operations can be whitelisted with rule3.whitelist.keywords."]

/-- How a missing empty state is mended. -/
def emptyStateLines : List String := [
  "Render an empty state when the list has no items:",
  "  \x7blist.length === 0 && <Empty description=\"暂无数据\" />\x7d",
  "Vue: <el-empty v-if=\"!list.length\" />",
  "Table components ship their own empty state and are not checked."]

/-- How a missing placeholder is mended. -/
def placeholderLines : List String := [
  "Give every new input a hint of what to enter:",
  "  <Input placeholder=\"请输入用户名\" />",
  "  <el-select v-model=\"value\" placeholder=\"请选择\" />",
  "Sub-components such as Select.Option and Form.Item are not checked."]

/-- The packaged registry. -/
def packaged : Registry where
  entries := [
    ("rule1", ruleEntry "防重复提交缺失" "missing-double-submit-guard"
      "Buttons, modals and forms that call an API must block double submission."
      doubleSubmitLines ["https://ant.design/components/button#api",
        "https://element-plus.org/en-US/component/button.html"]),
    ("rule2", ruleEntry "首次进入页面缺失 loading 状态" "missing-initial-loading"
      "List and detail pages must show a loading state while the first request runs."
      initialLoadingLines ["https://ant.design/components/spin"]),
    ("rule3", ruleEntry "接口操作成功后缺失轻提示" "missing-success-toast"
      "POST/PUT/DELETE/PATCH requests must tell the user when they succeed."
      successToastLines ["https://ant.design/components/message"]),
    ("rule4", ruleEntry "非 Table 列表缺失自定义空状态" "missing-empty-state"
      "Lists rendered without a Table component need an empty state."
      emptyStateLines ["https://ant.design/components/empty"]),
    ("rule5", ruleEntry "表单输入项缺失 placeholder 提示" "missing-placeholder"
      "Newly added form inputs must show placeholder text."
      placeholderLines [])]

end UxLint.Registry
