import UxLint.Syntax.Callee

/-!
# Request calls

A call is a request if it has one of the known shapes. The shapes are tried in a fixed order, and the
first that fits is the shape of the call; words that a project adds are tried last.
-/

set_option autoImplicit false

namespace UxLint

/-- A recognised way to write a request, in the order of trial. -/
inductive RequestShape where
  /-- The name of the call holds a verb of the transfer protocol. -/
  | verbName
  /-- An action is called that was handed in as a property. -/
  | propsAction
  /-- A capitalised verb of the client object is called. -/
  | httpClient
  /-- A verb of the client of a component is called. -/
  | vueHttp
  /-- An object for asynchronous requests is called. -/
  | ajax
  /-- The client function is called by its bare name. -/
  | axios
  /-- The built-in function is called by its bare name. -/
  | fetch
  /-- The data function is called by its bare name. -/
  | fetchDataApi
  /-- An action object is dispatched. -/
  | propsDispatch
  /-- A request object is made or used. -/
  | xhr
  /-- The name of the call holds a configured word. -/
  | customKeyword
  deriving DecidableEq, Repr

namespace Request

/-- The verbs of the transfer protocol. -/
def httpVerbs : List String := ["post", "get", "put", "delete", "patch", "request"]

/-- The capitalised verbs. -/
def capitalizedVerbs : List String := ["Post", "Get", "Put", "Delete", "Patch"]

/-- The words of names that only write a log. -/
def logWords : List String := ["console", "log", "warn", "error", "debug", "info"]

/-- The words of names that only convert data. -/
def conversionWords : List String := ["parse", "stringify"]

/-- The methods of a request object that count as a request. -/
def requestObjectMethods : List String := ["open", "send", "setRequestHeader"]

/-- The ending of the names of actions. -/
def actionEnding : String := "Action"

/-- The names under which a component's properties are reached. -/
def propsSources : List String := ["props", "this.props"]

/-- Whether one of the words occurs in a name. -/
def holdsAny (words : List String) (name : String) : Bool := words.any fun w => occursIn w name

/-- Whether a name is one of the sources, or a member of one. -/
def isUnderProps (name : String) : Bool :=
  propsSources.any fun source => name == source || startsWith name (source ++ ".")

/-- The dotted name of the object of a member selection. -/
def ownerName (target : Node) : String := Node.dottedNameOf (target.field? "object")

/-- The name of the selected member. -/
def propertyName (target : Node) : String := target.fieldText "property"

/-- Whether a target selects an action of the properties. -/
def isPropsAction (target : Node) : Bool :=
  target.isMember && endsWith (propertyName target) actionEnding && isUnderProps (ownerName target)

/-- Whether a target selects a capitalised verb of the client object. -/
def isHttpClient (target : Node) : Bool :=
  target.isMember &&
    ((Node.unwrapped (target.field? "object")).any fun o => o.kind == "identifier" && o.text == "http") &&
    capitalizedVerbs.contains (propertyName target)

/-- Whether a target selects a verb of a component's client. -/
def isVueHttp (target : Node) : Bool :=
  target.isMember && endsWith (ownerName target) "$http" && httpVerbs.contains (propertyName target)

/-- Whether a target selects an asynchronous request. -/
def isAjax (target : Node) : Bool :=
  target.isMember &&
    (((ownerName target == "$" || ownerName target == "jQuery") && propertyName target == "ajax") ||
      (ownerName target == "ajax" && httpVerbs.contains (lowercase (propertyName target))))

/-- Whether a target is a bare name. -/
def isBare (target : Node) (name : String) : Bool := target.kind == "identifier" && target.text == name

/-- Whether a call with the given target dispatches an action object. -/
def isPropsDispatch (target call : Node) : Bool :=
  (target.dottedName == "props.dispatch" || target.dottedName == "this.props.dispatch") &&
    match call.arguments with
    | [] => false
    | a :: _ => a.objectKeys.any fun e => e.1 == "type"

/-- Whether a target selects a method of a request object. -/
def isRequestObject (target : Node) : Bool :=
  target.isMember && requestObjectMethods.contains (propertyName target) &&
    (occursIn "xhr" (lowercase (ownerName target)) || occursIn "http" (lowercase (ownerName target)))

/-- Whether a lower-case name holds a verb and no word of logging. -/
def hasVerb (lowered : String) : Bool := holdsAny httpVerbs lowered && !holdsAny logWords lowered

/-- Whether a lower-case name holds a configured word and none of logging or conversion. -/
def hasKeyword (keywords : List String) (lowered : String) : Bool :=
  holdsAny keywords lowered && !holdsAny (logWords ++ conversionWords) lowered

/-- The shapes that a plain call has, in the order of trial. -/
def shapes (keywords : List String) (call : Node) : List (RequestShape × Bool) :=
  let target := call.target?
  let lowered := lowercase call.targetName
  [(.verbName, hasVerb lowered),
    (.propsAction, target.any isPropsAction),
    (.httpClient, target.any isHttpClient),
    (.vueHttp, target.any isVueHttp),
    (.ajax, target.any isAjax),
    (.axios, target.any (isBare · "axios")),
    (.fetch, target.any (isBare · "fetch")),
    (.fetchDataApi, target.any (isBare · "fetchDataApi")),
    (.propsDispatch, target.any (isPropsDispatch · call)),
    (.xhr, target.any isRequestObject),
    (.customKeyword, hasKeyword keywords lowered)]

end Request

/-- What decides which calls are requests: the words that a project adds, in lower case. -/
structure Classifier where
  /-- The words, none of them empty. -/
  keywords : List String

namespace Classifier

open Request

/-- The classifier for the words of a project. -/
def ofWords (words : List String) : Classifier := ⟨(words.filter (· != "")).map lowercase⟩

/-- The shape of a request call; `none` if the node is no request. -/
def classify (r : Classifier) (call : Node) : Option RequestShape :=
  if call.kind == "new_expression" then
    if Node.textOf call.callTarget? == "XMLHttpRequest" then some .xhr else none
  else if call.kind != "call_expression" then none
  else ((shapes r.keywords call).find? (·.2)).map (·.1)

/-- Whether a node is a request. -/
def isRequest (r : Classifier) (call : Node) : Bool := (r.classify call).isSome

end Classifier

end UxLint
