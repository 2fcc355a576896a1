import UxLint.Pattern.Search
import UxLint.Request.Shape

/-!
# Requests that change data

A request changes data if its name ends in a changing verb, if it dispatches or calls an action whose
name holds a word of change, or if its options name a changing verb.
-/

set_option autoImplicit false

namespace UxLint

/-- A verb of the transfer protocol that changes data. -/
inductive MutationVerb where
  /-- Something is added. -/
  | post
  /-- Something is replaced. -/
  | put
  /-- Something is removed. -/
  | delete
  /-- Something is changed in part. -/
  | patch
  deriving DecidableEq, Repr

namespace MutationVerb

/-- The name of a verb. -/
def name : MutationVerb → String
  | post => "POST"
  | put => "PUT"
  | delete => "DELETE"
  | patch => "PATCH"

/-- All verbs. -/
def all : List MutationVerb := [post, put, delete, patch]

/-- The verb of a name in upper case. -/
def ofName? (s : String) : Option MutationVerb := all.find? fun v => v.name == s

end MutationVerb

namespace Request

/-- A lower-case letter in either case; the long form of the letter s counts as one. -/
def letter (x : Char) : Pattern := .one fun c => c.toLower == x || (x == 's' && c == 'ſ')

/-- A word in any case. -/
def wordOf (s : String) : Pattern := .inOrder (s.toList.map letter)

/-- The changing verb at the end of a dotted name. -/
def verbEnding : Pattern :=
  .inOrder [.char '.',
    .capture 1 (.firstOf [wordOf "post", wordOf "put", wordOf "delete", wordOf "patch"]),
    .textEnd]

/-- The words of change in the type of a dispatched action. -/
def dispatchWords : List String :=
  ["add", "create", "update", "edit", "delete", "remove", "submit", "save"]

/-- The words of change in the name of an action. -/
def actionWords : List String := dispatchWords ++ ["copy", "post", "put"]

/-- The names of methods that never send anything. -/
def excludedMethods : List String := ["toString", "includes", "input", "output"]

/-- What the first word of change in a lower-case name says. -/
def verbOfWords (words : List String) (lowered : String) : Option MutationVerb :=
  (words.find? fun w => occursIn w lowered).map fun w =>
    if w == "delete" || w == "remove" then .delete else .post

/-- The verb at the end of a dotted name. -/
def verbOfEnding (name : String) : Option MutationVerb :=
  (verbEnding.search? name.toList).bind fun m =>
    MutationVerb.ofName? (uppercase (String.ofList (m.group 1)))

/-- The verb that the type of a dispatched action tells. -/
def dispatchVerb (call : Node) : Option MutationVerb :=
  match call.arguments with
  | [] => none
  | a :: _ =>
    (Node.stringValueOf? (Node.valueAt? a.objectKeys "type")).bind fun type =>
      if type == "" then none else verbOfWords dispatchWords (lowercase type)

/-- The verb that a field of an options object names. -/
def verbOfField (keys : List (String × Option Node)) (field : String) : Option MutationVerb :=
  (Node.stringValueOf? (Node.valueAt? keys field)).bind fun value =>
    MutationVerb.ofName? (uppercase value)

/-- The verb that the first argument with a verb names among its options. -/
def optionsVerb (call : Node) : Option MutationVerb :=
  call.arguments.findSome? fun a =>
    ["method", "type"].findSome? fun field => verbOfField a.objectKeys field

/-- The name of the action that a call calls: its target ends as the names of actions do. -/
def actionName? (call : Node) : Option String :=
  match call.target? with
  | none => none
  | some target =>
    if target.isMember then (some (propertyName target)).filter (endsWith · actionEnding)
    else if target.kind == "identifier" then (some target.text).filter (endsWith · actionEnding)
    else none

/-- The name of a call; empty for any other node. -/
def methodName (call : Node) : String := if call.isCall then call.dottedName else ""

end Request

namespace Classifier

open Request

/-- The verb with which a request changes data; `none` if it does not, or is no request. -/
def mutationVerb? (r : Classifier) (call : Node) : Option MutationVerb :=
  if call.kind != "call_expression" || !r.isRequest call then none
  else
    let name := methodName call
    if excludedMethods.contains (lastSegment name) then none
    else
      match verbOfEnding name with
      | some verb => some verb
      | none =>
        let dispatched := if occursIn "dispatch" (lowercase name) then dispatchVerb call else none
        match dispatched with
        | some verb => some verb
        | none =>
          match (actionName? call).bind fun a => verbOfWords actionWords (lowercase a) with
          | some verb => some verb
          | none => optionsVerb call

end Classifier

end UxLint
