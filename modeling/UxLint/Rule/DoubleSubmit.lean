import UxLint.Action.Binding
import UxLint.Diff
import UxLint.Loading.Flow
import UxLint.Request.Chain
import UxLint.Request.Mutation
import UxLint.Rule.Handler
import UxLint.Text.DecimalNumber

/-!
# Rule 1: no double submit

A handler that sends a request must be protected against a second click while the request is
pending: by an early return, by a rate limiter, by a busy flag that is bound to the element, or by an
action whose declared flag is bound to it.
-/

set_option autoImplicit false

namespace UxLint.DoubleSubmit

open MonadExcept (ofExcept)

/-- The words of a difference that concern the rule. -/
def diffTokens : List String :=
  ["button", "Button", "@click", "onClick", "onOk", "onConfirm", "onFinish", "htmlType", "Modal",
    "Drawer", "Popconfirm", "Form"]

/-- The attributes that show that an element is busy. -/
def busyAttributes : List String := ["loading", "confirmLoading", "disabled"]

/-- The attributes by which a form is submitted. -/
def formAttributes : List String := ["onFinish", "onSubmit"]

/-- Functions by their names. -/
abbrev Functions := List (String × List Place)

/-- The first function under a name. -/
def functionAt? (functions : Functions) (name : String) : Option Place :=
  (functions.find? fun e => e.1 == name).bind fun e => e.2.head?

/-- The names of the functions in increasing order. -/
def sortedNames (functions : Functions) : List String :=
  (functions.map (·.1)).mergeSort fun a b => !decide (b < a)

/-- Whether two names are long enough to be compared by their parts and one holds the other. -/
def similar (name candidate : String) : Bool :=
  4 ≤ name.length && 4 ≤ candidate.length && (occursIn candidate name || occursIn name candidate)

/-- The function that a handler's name means: one of exactly this name, else one whose name differs
in case only, else one with a similar name. -/
def matchFunction? (functions : Functions) (name : String) : Option Place :=
  match functionAt? functions name with
  | some p => some p
  | none =>
    let names := sortedNames functions
    match names.find? fun c => lowercase c == lowercase name with
    | some c => functionAt? functions c
    | none => (names.find? (similar name)).bind (functionAt? functions)

/-- A function and the handlers that mean it. -/
structure Group where
  function : Place
  /-- The handlers, in the order of their elements. -/
  handlers : List Handler

/-- Adds a handler to the group of a function. Functions that cover the same octets are one. -/
def addHandler (f : Place) (h : Handler) : List Group → List Group
  | [] => [⟨f, [h]⟩]
  | g :: rest =>
    if g.function.node.start == f.node.start && g.function.node.stop == f.node.stop then
      { g with handlers := g.handlers ++ [h] } :: rest
    else g :: addHandler f h rest

/-- The groups of the handlers that mean some function, in the order in which they are met. -/
def groupHandlers (functions : Functions) (handlers : List Handler) : List Group :=
  handlers.foldl
    (fun groups h =>
      match matchFunction? functions h.name with
      | none => groups
      | some f => addHandler f h groups)
    []

/-- Whether a difference touches the function of a group or one of its elements. -/
def touched (u : SourceUnit) (d : Diff) (g : Group) : Bool :=
  d.touches (u.lineOf g.function.node) (u.endLineOf g.function.node) ||
    g.handlers.any fun h => d.touches h.element.line h.element.endLine

/-! ## Protections -/

/-- The kinds of the nodes that are names in a condition. -/
def conditionNameKinds : List String :=
  ["identifier", "property_identifier", "shorthand_property_identifier"]

/-- Whether a statement returns early while a busy flag is on. -/
def isGuard (statement : Node) : Bool :=
  statement.kind == "if_statement" &&
    match statement.field? "condition", statement.field? "consequence" with
    | some condition, some consequence =>
      (condition.walk.any fun n => conditionNameKinds.contains n.kind && Loading.isBusyName n.text) &&
        consequence.walk.any fun n => n.kind == "return_statement"
    | _, _ => false

/-- Whether a guard comes before the first request. -/
def hasLeadingGuard (function : Node) (request : Place) : Bool :=
  (request.statementsBefore function).any isGuard

/-- Whether a number is no number literal of the decimal system, or at least the least delay. -/
def numberSuffices (n : Node) : Bool :=
  match DecimalNumber.read? n.text.toList with
  | none => true
  | some d => d.roundsToAtLeast Handler.leastDelay

/-- Whether the second argument of a limiter is long enough; what is no number counts as long
enough. -/
def waitSuffices (argument : Node) : Bool :=
  match argument.unwrap? with
  | none => true
  | some delay =>
    if delay.kind == "object" then
      match Node.unwrapped (Node.valueAt? delay.objectKeys "wait") with
      | none => true
      | some wait => if wait.kind == "number" then numberSuffices wait else true
    else if delay.kind == "number" then numberSuffices delay
    else true

/-- Whether a node above a function calls a rate limiter, and if so, whether it is slow enough. -/
def limiterVerdict? (n : Node) : Option Bool :=
  if n.kind != "call_expression" then none
  else if !Handler.rateLimiters.any fun r => occursIn r (lowercase (lastSegment n.targetName)) then
    none
  else
    match n.arguments with
    | _ :: delay :: _ => some (waitSuffices delay)
    | _ => some true

/-- Whether a function is wrapped by a rate limiter that is slow enough; the nearest one counts. -/
def isRateLimited (function : Place) : Bool := (function.above.findSome? limiterVerdict?).getD false

/-- The elements on which a busy flag protects a group: those with the callbacks, and the submit
buttons inside the forms among them. -/
def targets (elements : List Element) (handlers : List Handler) : List Element :=
  handlers.flatMap fun h =>
    h.element ::
      if formAttributes.contains h.callback then
        elements.filter fun e => h.element.contains e && e.isSubmitButton
      else []

/-- Whether one of the elements is bound to a flag. -/
def isBound (elements : List Element) (flag : String) : Bool :=
  elements.any fun e => e.bindsFlag flag busyAttributes

/-- Whether an element can be disabled by an expression, or by the name of the handler. -/
def isDisabling (handlerName : String) (e : Element) : Bool :=
  match e.attribute? "disabled" with
  | none => false
  | some a =>
    (a.dynamic && a.value.any fun v =>
        v != "" && Text.trim v.toList != "false".toList && Text.trim v.toList != ['0']) ||
      refersToOf a.value handlerName

/-- What is known about the declared flags of the actions that a handler calls. -/
inductive ActionVerdict where
  | unknown
  /-- The declared flag of some action is bound. -/
  | bound
  /-- The first action with a declared flag is bound to another expression. -/
  | wrong (action flag expression : String)

/-- What the declared flag of an action says, given the elements. -/
def judgeFlag (elements : List Element) (action flag : String) : ActionVerdict :=
  if isBound elements flag then .bound
  else
    match elements.flatMap fun e => e.boundValues busyAttributes with
    | [] => .unknown
    | v :: _ => .wrong action flag v

section Lookups

variable {m : Type → Type} [Monad m]

/-- What the declared flag of the action that a request calls says. -/
def judgeRequest (lookup : Option (Lookup m)) (u : SourceUnit) (elements : List Element)
    (request : Node) : ExceptT Fault m ActionVerdict :=
  match lookup, Request.actionName? request with
  | some lookup, some action => do
    match ← lookup.flag? action u with
    | some flag => pure (judgeFlag elements action flag)
    | none => pure .unknown
  | _, _ => pure .unknown

/-- The verdict on several requests: the first bound flag settles it, and else the first wrong
binding counts. -/
def judgeRequests (lookup : Option (Lookup m)) (u : SourceUnit) (elements : List Element)
    (found : ActionVerdict) : List Place → ExceptT Fault m ActionVerdict
  | [] => pure found
  | request :: rest => do
    match ← judgeRequest lookup u elements request.node, found with
    | .bound, _ => pure .bound
    | .wrong a f e, .unknown => judgeRequests lookup u elements (.wrong a f e) rest
    | _, _ => judgeRequests lookup u elements found rest

end Lookups

/-! ## Reports -/

/-- How to bind a flag to the element of a handler. -/
def bindingHint (h : Handler) (flag : String) : String :=
  if h.callback == "onOk" then
    "Add confirmLoading=\x7b" ++ flag ++ "\x7d (or okButtonProps=\x7b\x7b loading: " ++ flag ++
      " \x7d\x7d) to <" ++ h.element.name ++ ">."
  else if h.element.origin == .text then
    "Add :loading=\"" ++ flag ++ "\" to <" ++ h.element.name ++ ">."
  else if formAttributes.contains h.callback then
    "Add loading=\x7b" ++ flag ++ "\x7d to the submit button (htmlType=\"submit\") of <" ++
      h.element.name ++ ">."
  else "Add loading=\x7b" ++ flag ++ "\x7d to <" ++ h.element.name ++ ">."

/-- The violation of a handler that sets a flag which the element does not show. -/
def unboundFlag (path : String) (h : Handler) (flag : String) : Violation where
  rule := 1
  symbol := "loading-flag-not-bound"
  file := path
  line := h.line
  message := "Handler '" ++ h.name ++ "' sets loading flag '" ++ flag ++ "' but <" ++
    h.element.name ++
    "> never binds it, so the element stays clickable while the request is pending."
  suggestion := bindingHint h flag

/-- The violation of an element that shows another flag than the action declares. -/
def wrongFlag (path : String) (h : Handler) (action flag expression : String) : Violation where
  rule := 1
  symbol := "wrong-loading-flag"
  file := path
  line := h.line
  message := "<" ++ h.element.name ++ "> is bound to '" ++ expression ++ "' but action '" ++ action ++
    "' declares loading flag '" ++ flag ++ "'."
  suggestion := "Bind '" ++ flag ++ "' instead of '" ++ expression ++ "'. " ++ bindingHint h flag

/-- The violation of a handler without any protection. -/
def unprotected (path : String) (h : Handler) : Violation where
  rule := 1
  symbol := "missing-double-submit-guard"
  file := path
  line := h.line
  message := "Handler '" ++ h.name ++ "' on <" ++ h.element.name ++
    "> sends a request without double-submit protection."
  suggestion := "Set a loading flag before the request, reset it in finally and bind it " ++
    "to the element (loading / confirmLoading / disabled), or debounce the " ++
    "handler with a delay of at least " ++ toString Handler.leastDelay ++ "ms."

/-- The violation of a group that nothing protects; `first` is its first handler. -/
def report (path : String) (function : Node) (elements : List Element) (first : Handler)
    (verdict : ActionVerdict) : Violation :=
  match (Loading.definedFlags function).filter fun f => !isBound elements f with
  | flag :: _ => unboundFlag path first flag
  | [] =>
    match verdict with
    | .wrong action flag expression => wrongFlag path first action flag expression
    | _ => unprotected path first

/-- Whether a group is protected by what its function and its elements say, actions left aside. -/
def isProtected (elements : List Element) (g : Group) (first : Handler) (requests : List Place) :
    Bool :=
  g.handlers.any (·.rateLimited) ||
    requests.head?.any (hasLeadingGuard g.function.node) ||
    isRateLimited g.function ||
    (targets elements g.handlers).any (isDisabling first.name) ||
    (requests.flatMap fun r => Loading.protectedFlags r g.function.node).any
      (isBound (targets elements g.handlers))

section Evaluation

variable {m : Type → Type} [Monad m]

/-- The violation of a group, if it has one. -/
def checkGroup (classifier : Classifier) (lookup : Option (Lookup m)) (path : String)
    (u : SourceUnit) (elements : List Element) (g : Group) : ExceptT Fault m (Option Violation) :=
  let requests := classifier.requests g.function
  match g.handlers, requests with
  | first :: _, _ :: _ => do
    if isProtected elements g first requests then return none
    let bound := targets elements g.handlers
    match ← judgeRequests lookup u bound .unknown requests with
    | .bound => return none
    | verdict => return some (report path g.function.node bound first verdict)
  | _, _ => pure none

/-- The violations of several groups, in their order. -/
def checkGroups (classifier : Classifier) (lookup : Option (Lookup m)) (path : String)
    (u : SourceUnit) (elements : List Element) : List Group → ExceptT Fault m (List Violation)
  | [] => pure []
  | g :: rest => do
    let found ← checkGroup classifier lookup path u elements g
    let more ← checkGroups classifier lookup path u elements rest
    return found.toList ++ more

/-- The groups of a file that a difference concerns. -/
def groupsOf (settings : RuleSettings) (u : SourceUnit) (root : Place) (d : Diff)
    (handlers : List Handler) : List Group :=
  (groupHandlers root.functionIndex (handlers.filter fun h => !h.isWhitelisted settings)).filter
    fun g => d.isNew || touched u d g

/-- Evaluates the rule for a file. -/
def evaluate (settings : RuleSettings) (classifier : Classifier) (lookup : Option (Lookup m))
    (path : String) (u : SourceUnit) (diff : Text) : ExceptT Fault m Findings :=
  if !settings.enabled || settings.isPathWhitelisted path then pure none
  else
    match u.root? with
    | none => pure none
    | some root => do
      let d ← ofExcept (Diff.read diff)
      if !d.isNew && !d.mentionsAny diffTokens then return none
      let elements := u.elements
      let handlers ← ofExcept (Handler.discover elements)
      let found ← checkGroups classifier lookup path u elements
        (groupsOf settings u root d handlers)
      return some (found.mergeSort fun a b => a.line ≤ b.line)

end Evaluation

end UxLint.DoubleSubmit
