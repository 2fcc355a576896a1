import UxLint.Config.Settings
import UxLint.Diff
import UxLint.Loading.Flow
import UxLint.Request.Chain
import UxLint.Request.Mutation
import UxLint.Rule.Violation

/-!
# Rule 3: a success message

A request that changes data must tell the user when it succeeds: a success method is called in a
callback of success or after the request was awaited.
-/

set_option autoImplicit false

namespace UxLint.SuccessToast

/-- The keys under which an object holds a callback of success. -/
def successKeys : List String := ["onSuccess", "success", "callback"]

/-- Whether a node calls a success method. -/
def callsSuccess (methods : List String) (region : Node) : Bool :=
  region.calls.any fun c =>
    c.dottedName != "" && methods.any fun m => m != "" && occursIn m c.dottedName

/-- The functions that an argument hands over as callbacks of success. -/
def successFunctions (argument : Node) : List Node :=
  (if argument.isFunction then [argument] else []) ++
    successKeys.filterMap fun key =>
      (Node.valueAt? argument.objectKeys key).filter Node.isFunction

/-- The nodes that run once a request has succeeded; `function` is the one around it. -/
def successRegions (request : Place) (function : Option Place) : List Node :=
  ((request.promiseCallbacks Place.promiseMethods).filter fun c => c.1 == "then").map (·.2) ++
    request.node.arguments.flatMap successFunctions ++
    match function with
    | none => []
    | some f => if request.isAwaited then request.statementsAfter f.node else []

/-- Whether a request reaches a success message. -/
def reachesToast (settings : RuleSettings) (request : Place) (function : Option Place) : Bool :=
  (successRegions request function).any (callsSuccess (settings.keywords "successMethods"))

/-- The name of the function around a request; empty if there is none. -/
def ownerOf (function : Option Place) : String :=
  match function with
  | none => ""
  | some f => f.functionName

/-- Whether a request is exempt by the function around it or by its own name. -/
def isExempt (settings : RuleSettings) (request : Place) : Bool :=
  [ownerOf request.enclosingFunction?, Request.methodName request.node].any fun name =>
    name != "" && settings.exempts name

/-- The violation of a request that gives no feedback. -/
def report (settings : RuleSettings) (path : String) (u : SourceUnit) (request : Node)
    (verb : MutationVerb) : Violation where
  rule := 3
  symbol := "missing-success-toast"
  file := path
  line := u.lineOf request
  message := verb.name ++ " request '" ++ Request.methodName request ++
    "' gives no success feedback when it completes."
  suggestion := "Call one of " ++
    Node.firstNonempty (joinStrings ", " (settings.keywords "successMethods")) "message.success" ++
    " in the .then callback or after the await."

/-- The violation of a request, if it has one. -/
def check? (settings : RuleSettings) (classifier : Classifier) (path : String) (u : SourceUnit)
    (d : Diff) (request : Place) : Option Violation :=
  match classifier.mutationVerb? request.node with
  | none => none
  | some verb =>
    if !d.touches (u.lineOf request.node) (u.endLineOf request.node) then none
    else if isExempt settings request then none
    else if reachesToast settings request request.enclosingFunction? then none
    else some (report settings path u request.node verb)

/-- Evaluates the rule for a file. -/
def evaluate (settings : RuleSettings) (classifier : Classifier) (path : String) (u : SourceUnit)
    (diff : Text) : Except Fault Findings :=
  if !settings.enabled || settings.isPathWhitelisted path then .ok none
  else
    match u.root? with
    | none => .ok none
    | some root =>
      (Diff.read diff).map fun d =>
        some ((classifier.requests root).filterMap (check? settings classifier path u d))

end UxLint.SuccessToast
