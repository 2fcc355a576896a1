import UxLint.Action.Binding
import UxLint.Config.Settings
import UxLint.Diff
import UxLint.Evidence
import UxLint.Loading.Flow
import UxLint.Markup.Binding
import UxLint.Request.Chain
import UxLint.Request.Mutation
import UxLint.Rule.Violation

/-!
# Rule 2: a loading state on entry

A list or detail page that sends requests when it is entered must show that it is loading: a loading
method is called around the request, a busy flag is bound to an element, or the flag with which the
action is declared is.
-/

set_option autoImplicit false

namespace UxLint.InitialLoading

open MonadExcept (ofExcept)

/-- The words of a difference that concern the rule. -/
def diffTokens : List String :=
  ["created", "mounted", "useEffect", "useLayoutEffect", "componentDidMount", "onMounted"]

/-- The functions whose callback runs when a page is entered. -/
def effectHooks : List String := ["useEffect", "useLayoutEffect", "onMounted"]

/-- The methods that run when a page is entered. -/
def lifecycleMethods : List String := ["componentDidMount", "created", "mounted"]

/-- The signs of list pages and of detail pages. -/
def pageTokens : List String :=
  ["el-table", "<Table", ".map(", "v-for", "getDetail", "fetchDetail", "queryDetail", "详情"]

/-- The attributes that show that something is loading. -/
def spinnerAttributes : List String := ["spinning", "loading", "v-loading"]

/-- Whether an element is a table. -/
def isTable (e : Element) : Bool := Element.isNamedLike "table" e.name

/-- Whether a file looks like a list page or a detail page. -/
def looksLikePage (u : SourceUnit) : Bool :=
  (pageTokens.any fun token => Text.holds token.toList u.visibleText) || u.elements.any isTable

/-- The callback that a call hands to a hook of page entry. -/
def hookCallback? (call : Place) : Option Place :=
  if effectHooks.contains (lastSegment call.node.targetName) then
    (call.arguments.head?).filter fun a => a.node.isFunction
  else none

/-- The functions that run when the page is entered, in the order of their starts. -/
def lifecycleCallbacks (root : Place) : List Place :=
  let methods := root.functionIndex.filter fun e => lifecycleMethods.contains e.1
  (root.calls.filterMap hookCallback? ++ methods.flatMap (·.2)).mergeSort
    fun a b => a.node.start ≤ b.node.start

/-- The name of the function around a callback; empty if there is none. -/
def ownerName (hook : Place) : String :=
  match hook.enclosingFunction? with
  | none => ""
  | some f => f.functionName

/-- Whether the function around a callback is exempt. -/
def isExempt (settings : RuleSettings) (hook : Place) : Bool :=
  ownerName hook != "" && settings.exempts (ownerName hook)

/-! ## Evidence -/

/-- The first call of a loading method in some nodes. -/
def loadingCall? (methods : List String) (nodes : List Node) : Option Node :=
  nodes.findSome? fun n => n.calls.find? (Loading.isLoadingCall methods)

/-- A loading method that is called before a request. -/
def calledBefore? (methods : List String) (request : Place) (stop : Node) : Option Evidence :=
  (loadingCall? methods (request.statementsBefore stop)).map fun c =>
    ⟨"loading-method", c.dottedName, 0, .tree⟩

/-- A loading method that is called once a request has settled. -/
def calledAfter? (methods : List String) (request : Place) : Option Evidence :=
  (loadingCall? methods ((request.promiseCallbacks Place.promiseMethods).map (·.2))).map fun c =>
    ⟨"loading-method-callback", c.dottedName, 0, .tree⟩

/-- Whether one of the elements shows a flag. -/
def isShown (elements : List Element) (flag : String) : Bool :=
  elements.any fun e => e.bindsFlag flag spinnerAttributes

/-- A busy flag around a request that an element shows. -/
def shownFlag? (elements : List Element) (request : Place) (stop : Node) : Option Evidence :=
  ((Loading.protectedFlags request stop).find? (isShown elements)).map fun flag =>
    ⟨"bound-flag", flag, 0, .tree⟩

/-- Whether an element shows a flag of the component's properties. -/
def isShownByProps (elements : List Element) (flag : String) : Bool :=
  elements.any fun e => e.attributes.any fun a =>
    a.dynamic && spinnerAttributes.contains a.name &&
      Request.propsSources.any fun source => refersToOf a.value (source ++ "." ++ flag)

/-- Whether a declaration takes a flag out of the component's properties. -/
def takesFromProps (flag : String) (declarator : Node) : Bool :=
  match declarator.field? "name", declarator.field? "value" with
  | some pattern, some value =>
    pattern.kind == "object_pattern" &&
      Request.isUnderProps (String.ofList (Text.without ' ' value.text.toList)) &&
      pattern.walk.any fun n =>
        (n.kind == "shorthand_property_identifier_pattern" || n.kind == "identifier") &&
          n.text == flag
  | _, _ => false

/-- A declaration in the tree that takes a flag out of the properties. -/
def takenInTree? (u : SourceUnit) (flag : String) : Option Evidence :=
  u.tree.bind fun root =>
    ((root.findAll fun n => n.kind == "variable_declarator").find? (takesFromProps flag)).map
      fun d => ⟨"destructured", flag, u.lineOf d, .tree⟩

/-- The text of a declaration that takes a flag out of the properties. -/
def takingPattern (flag : String) : Pattern :=
  let others := Pattern.star (.noneOf "\x7d")
  .inOrder [.firstOf [.literal "const", .literal "let", .literal "var"], .blanks, .char '\x7b',
    others, identifierPattern flag, others, .char '\x7d', .blanks, .char '=', .blanks,
    .optional (.literal "this."), .literal "props", .wordEdge]

/-- The text of a declaration in the code that takes a flag out of the properties. -/
def takenInText? (u : SourceUnit) (flag : String) : Option Evidence :=
  ((takingPattern flag).search? u.codeView).map fun m =>
    ⟨"destructured", flag, Text.lineFeeds (u.codeView.take m.start) + 1, .tree⟩

/-- An element that shows a flag of the properties, itself or by a variable of its name. -/
def propsEvidence? (u : SourceUnit) (flag : String) : Option Evidence :=
  if isShownByProps u.elements flag then some ⟨"props-flag", flag, 0, .tree⟩
  else
    let taken : Option Evidence := Id.run (Evidence.inTiers
      (some fun _ => pure (takenInTree? u flag)) (some fun _ => pure (takenInText? u flag)))
    taken.filter fun _ => isShown u.elements flag

section Evaluation

variable {m : Type → Type} [Monad m]

/-- An element that shows the flag with which the called action is declared. -/
def actionEvidence (lookup : Option (Lookup m)) (u : SourceUnit) (request : Node) :
    ExceptT Fault m (Option Evidence) :=
  match lookup, Request.actionName? request with
  | some lookup, some action => do
    match ← lookup.flag? action u with
    | some flag => pure (propsEvidence? u flag)
    | none => pure none
  | _, _ => pure none

/-- Evidence that the page shows a loading state around a request. -/
def evidence (settings : RuleSettings) (lookup : Option (Lookup m)) (u : SourceUnit)
    (hook request : Place) : ExceptT Fault m (Option Evidence) :=
  let stop := ((request.enclosingFunction?).getD hook).node
  let methods := settings.keywords "loadingMethods"
  Evidence.first
    [fun _ => pure (calledBefore? methods request stop),
      fun _ => pure (calledAfter? methods request),
      fun _ => pure (shownFlag? u.elements request stop),
      fun _ => actionEvidence lookup u request.node]

/-- The requests without evidence among those of one callback. -/
def uncoveredOf (settings : RuleSettings) (lookup : Option (Lookup m)) (u : SourceUnit)
    (hook : Place) : List Place → ExceptT Fault m (List Place)
  | [] => pure []
  | request :: rest => do
    let found ← evidence settings lookup u hook request
    let more ← uncoveredOf settings lookup u hook rest
    return if found.isSome then more else request :: more

/-- The requests without evidence in several callbacks. -/
def uncovered (settings : RuleSettings) (classifier : Classifier) (lookup : Option (Lookup m))
    (u : SourceUnit) : List Place → ExceptT Fault m (List Place)
  | [] => pure []
  | hook :: rest => do
    let here ← uncoveredOf settings lookup u hook (classifier.requests hook)
    let more ← uncovered settings classifier lookup u rest
    return here ++ more

end Evaluation

/-! ## Reports -/

/-- The name of a request as a report gives it. -/
def requestName (request : Node) : String :=
  Node.firstNonempty request.dottedName (Node.textOf request.callTarget?)

/-- The violation of a page whose requests lack evidence. -/
def report (settings : RuleSettings) (path : String) (u : SourceUnit) (first : Place)
    (requests : Nat) : Violation where
  rule := 2
  symbol := "missing-initial-loading"
  file := path
  line := u.lineOf first.node
  message := "Initial request '" ++ requestName first.node ++
    "' runs on page entry without a loading indicator (" ++ toString requests ++
    " unprotected request(s) in lifecycle hooks)."
  suggestion := "Set a loading flag before the request, reset it in finally and bind it to " ++
    "<Spin spinning=\x7bloading\x7d>, <Table loading=\x7bloading\x7d> or v-loading, or call " ++
    "one of: " ++ Node.firstNonempty (joinStrings ", " (settings.keywords "loadingMethods"))
      "showLoading" ++ "."

/-- Whether a change of the file concerns the rule. -/
def concerns (u : SourceUnit) (d : Diff) : Bool :=
  d.isNew || d.mentionsAny diffTokens ||
    effectHooks.any fun hook => Text.holds hook.toList u.codeView

/-- Evaluates the rule for a file. -/
def evaluate {m : Type → Type} [Monad m] (settings : RuleSettings) (classifier : Classifier)
    (lookup : Option (Lookup m)) (path : String) (u : SourceUnit) (diff : Text) :
    ExceptT Fault m Findings :=
  if !settings.enabled || settings.isPathWhitelisted path then pure none
  else
    match u.root? with
    | none => pure none
    | some root => do
      let d ← ofExcept (Diff.read diff)
      if !concerns u d || !looksLikePage u then return none
      let hooks := (lifecycleCallbacks root).filter fun h => !isExempt settings h
      match ← uncovered settings classifier lookup u hooks with
      | [] => return some []
      | p :: rest => return some [report settings path u (leftmost (·.node.start) p rest) (rest.length + 1)]

end UxLint.InitialLoading
