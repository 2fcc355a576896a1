import UxLint.Config.Settings
import UxLint.Markup.Binding
import UxLint.Rule.Violation
import UxLint.Text.Numeral

/-!
# Handlers

A handler is what the callback attribute of an interactive element refers to. The callback may name
it, call it, bind it or wrap it by a rate limiter.
-/

set_option autoImplicit false

namespace UxLint

/-- A handler that a callback attribute refers to. -/
structure Handler where
  name : String
  line : Int
  element : Element
  callback : String
  /-- Whether the callback limits how often the handler runs. -/
  rateLimited : Bool

namespace Handler

open Pattern

/-- The least delay of a rate limiter, in milliseconds. -/
def leastDelay : Nat := 500

/-- The functions that limit how often a function runs. -/
def rateLimiters : List String := ["debounce", "throttle"]

/-- The methods that are called on the way to a handler. -/
def ignoredCallees : List String := ["bind", "preventDefault", "stopPropagation", "function"]

/-- Whether a name is that of a dialog. -/
def isDialog (name : String) : Bool :=
  ["modal", "drawer", "dialog"].any fun w => occursIn w (lowercase name)

/-- Whether a name is that of a question that pops up. -/
def isPopconfirm (name : String) : Bool := occursIn "popconfirm" (lowercase name)

/-- Whether a name is that of a form. -/
def isForm (name : String) : Bool := Element.isNamedLike "form" name

/-- The callback attributes and the names of the elements on which each of them counts. -/
def callbackAttributes : List (String × (String → Bool)) :=
  [("onClick", Element.isButton), ("onOk", isDialog), ("onConfirm", isPopconfirm),
    ("onFinish", isForm), ("onSubmit", isForm)]

/-- A letter or a sign that can start an identifier. -/
def identifierHead : Pattern := one fun c => c.isAlpha || c == '_' || c == '$'

/-- A dotted name. -/
def dotted : Pattern :=
  both identifierHead (star (one fun c => Text.isIdentifier c || c == '.'))

/-- A whole text that is a dotted name. -/
def plainReference : Pattern := inOrder [textStart, dotted, textEnd]

/-- The call of a dotted name, which is remembered. -/
def callPattern : Pattern := inOrder [capture 1 dotted, blanks, char '(']

/-- The call of a rate limiter. -/
def limiterPattern : Pattern :=
  inOrder [wordEdge, firstOf [literal "debounce", literal "throttle"], blanks, char '(']

/-- A number as the last argument of a call at the end of a text; the number is remembered. -/
def delayPattern : Pattern :=
  inOrder [char ',', blanks, capture 1 (plus (one Text.isDecimal)), blanks, char ')', blanks,
    textEnd]

/-- What a callback expression refers to. -/
structure Reference where
  name : String
  /-- Whether the expression limits how often the handler runs. -/
  rateLimited : Bool
  deriving DecidableEq, Repr

/-- Whether the delay at the end of a limited expression is long enough; an expression that ends
otherwise counts as long enough. -/
def delaySuffices (expression : Text) : Except Fault Bool :=
  match delayPattern.search? expression with
  | none => .ok true
  | some m =>
    match Text.wholeNumber (m.group 1) with
    | .error e => .error (.numeral e)
    | .ok delay => .ok (leastDelay ≤ delay)

/-- Whether an expression limits how often the handler runs, given the call of a limiter in it. -/
def isLimiting (expression : Text) (limiter : Option Match) : Except Fault Bool :=
  match limiter with
  | none => .ok false
  | some _ => delaySuffices expression

/-- The owner of a bound method, which is the last segment but one of its name. -/
def boundOwner? (name : Text) : Option Text :=
  match (Text.pieces '.' name).reverse with
  | _ :: owner :: _ => some owner
  | _ => none

/-- The last segment of a dotted name. -/
def lastName (name : Text) : String := String.ofList (Text.lastPiece '.' name)

/-- The name of the handler that the first telling call refers to; `calls` are the called names. -/
def calledHandler? : List Text → Except Fault (Option String)
  | [] => .ok none
  | name :: rest =>
    if lastName name == "bind" then
      match boundOwner? name with
      | some owner => .ok (some (String.ofList owner))
      | none => .error .missingOwner
    else if ignoredCallees.contains (lastName name) || rateLimiters.contains (lastName name) then
      calledHandler? rest
    else .ok (some (lastName name))

/-- The first argument of a limiter, if it is a dotted name; `m` is the call of the limiter. -/
def limitedHandler? (m : Match) : Option String :=
  let argument := Text.trim (Text.firstPiece ',' m.stop.rest)
  if (plainReference.match? argument).isSome then some (lastName argument) else none

/-- What a callback expression refers to. -/
def reference? (expression : String) : Except Fault (Option Reference) := do
  let t := Text.trim expression.toList
  let limiter := limiterPattern.search? t
  let rateLimited ← isLimiting t limiter
  if (plainReference.match? t).isSome then return some ⟨lastName t, rateLimited⟩
  match ← calledHandler? ((callPattern.all t).map fun m => m.group 1) with
  | some name => return some ⟨name, rateLimited⟩
  | none => return (limiter.bind limitedHandler?).map fun name => ⟨name, rateLimited⟩

/-- The handler of a callback attribute of an element. -/
def ofAttribute? (e : Element) (name : String) (accepts : String → Bool) :
    Except Fault (Option Handler) :=
  match e.attribute? name with
  | none => .ok none
  | some a =>
    match a.value with
    | none => .ok none
    | some value =>
      if value == "" || a.name != name || !accepts e.name then .ok none
      else do
        let reference ← reference? value
        return reference.map fun r => ⟨r.name, e.line, e, name, r.rateLimited⟩

/-- The handlers of an element. -/
def ofElement (e : Element) : Except Fault (List Handler) := do
  let handlers ← callbackAttributes.mapM fun c => ofAttribute? e c.1 c.2
  return handlers.filterMap id

/-- The handlers of several elements, in their order. -/
def discover (elements : List Element) : Except Fault (List Handler) := do
  let handlers ← elements.mapM ofElement
  return handlers.flatten

/-- Whether a handler is exempt by its name or by what its element says. -/
def isWhitelisted (s : RuleSettings) (h : Handler) : Bool :=
  s.exempts h.name || s.exempts h.element.innerText

end Handler

end UxLint
