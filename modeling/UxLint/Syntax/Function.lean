import UxLint.Syntax.Callee
import UxLint.Syntax.Place

/-!
# Functions and their names

A function without a name of its own is named by what it is assigned to, and one that is handed to a
hook that returns it is named by what the result of the hook is assigned to.
-/

set_option autoImplicit false

namespace UxLint

namespace Node

/-- The statements of a function's body; an expression stands for itself. -/
def bodyStatements (f : Node) : List Node :=
  match f.field? "body" with
  | none => []
  | some body => if body.kind == "statement_block" then body.items else [body]

/-- The hooks that return the function they are given. -/
def wrapperHooks : List String :=
  ["useCallback", "useMemo", "useMemoizedFn", "useLockFn", "useDebounceFn", "useThrottleFn",
    "debounce", "throttle"]

/-- Whether a call is one of a hook that returns the function it is given. -/
def isWrapperHook (call : Node) : Bool := wrapperHooks.contains (lastSegment call.targetName)

/-- The first of two strings that is not empty. -/
def firstNonempty (a b : String) : String := if a == "" then b else a

/-- The name under which a declaring node declares its value. -/
def declaredHere (n : Node) : String :=
  if n.kind == "variable_declarator" then n.fieldText "name"
  else if n.kind == "pair" then
    firstNonempty ((stringValueOf? (n.field? "key")).getD "") (n.fieldText "key")
  else if n.kind == "assignment_expression" then
    firstNonempty (memberPropertyOf (n.field? "left")) (n.fieldText "left")
  else if n.kind == "field_definition" || n.kind == "public_field_definition" then
    match n.field? "property" with
    | some key => key.text
    | none => n.fieldText "name"
  else ""

/-- The name declared by the first of the nodes above that is no wrapper. -/
def declaredAbove : List Node → String
  | [] => ""
  | n :: rest => if n.isWrapper then declaredAbove rest else n.declaredHere

end Node

namespace Place

/-- The name of a function that has none of its own. -/
def givenName (p : Place) : String :=
  let declared := Node.declaredAbove p.above
  if declared != "" then declared
  else
    match p.above with
    | args :: call :: rest =>
      if args.kind == "arguments" && call.kind == "call_expression" && call.isWrapperHook then
        Node.declaredAbove rest
      else ""
    | _ => ""

/-- The name of a function: its own, or that of what it is assigned to. -/
def functionName (p : Place) : String :=
  match p.node.field? "name" with
  | some name => if p.node.kind == "arrow_function" then p.givenName else name.text
  | none => p.givenName

/-- Adds a place under a name. -/
def addUnder (name : String) (p : Place) : List (String × List Place) → List (String × List Place)
  | [] => [(name, [p])]
  | e :: rest => if e.1 == name then (e.1, e.2 ++ [p]) :: rest else e :: addUnder name p rest

/-- The functions of the walk by their names, in the order in which the names are met. -/
def functionIndex (root : Place) : List (String × List Place) :=
  (root.findAll Node.isFunction).foldl
    (fun index p => if p.functionName == "" then index else addUnder p.functionName p index) []

end Place

end UxLint
