import UxLint.Syntax.Callee
import UxLint.Syntax.Function

/-!
# Declarations in a tree

An action is declared by a value under its name: the result of the declaring function, called with
the name of the loading flag. A constant of a namespace holds the name of a directory.
-/

set_option autoImplicit false

namespace UxLint.Action

/-- The first argument of a call of the given function, if it is a string. -/
def firstStringOf? (function : String) (call : Node) : Option String :=
  if call.kind == "call_expression" && Node.textOf call.callTarget? == function then
    Node.stringValueOf? call.arguments.head?
  else none

/-- The name that a node declares and the node of its value; `none` if it declares nothing. -/
def declared? (n : Node) : Option (String × Option Node) :=
  if n.kind == "variable_declarator" then
    let name := (n.field? "name").filter fun m => m.kind == "identifier"
    some (Node.textOf name, n.field? "value")
  else if n.kind == "assignment_expression" then
    some (Node.memberPropertyOf (n.field? "left"), n.field? "right")
  else if n.kind == "pair" then
    some (Node.firstNonempty ((Node.stringValueOf? (n.field? "key")).getD "") (n.fieldText "key"),
      n.field? "value")
  else none

/-- The flag with which a node declares an action. -/
def flagAt? (function action : String) (n : Node) : Option String :=
  match declared? n with
  | none => none
  | some (name, value) =>
    if name == action then (Node.unwrapped value).bind (firstStringOf? function) else none

/-- The flag of the first declaration of an action in a tree. -/
def declaration? (function action : String) (root : Node) : Option String :=
  root.walk.findSome? (flagAt? function action)

/-- The function that defines a namespace. -/
def namespaceFunction : String := "defineNamespace"

/-- The start of the names of namespace constants. -/
def namespaceStart : String := "NS_"

/-- The value of a namespace constant: a string, or what it is defined by. -/
def namespaceValue? (value : Node) : Option String :=
  match value.stringValue? with
  | some s => some s
  | none => (value.unwrap?).bind (firstStringOf? namespaceFunction)

/-- The namespace constant that a node declares. -/
def namespaceConstant? (n : Node) : Option (String × String) :=
  match n.field? "name", n.field? "value" with
  | some name, some value =>
    if name.kind == "identifier" && startsWith name.text namespaceStart then
      (namespaceValue? value).map fun s => (name.text, s)
    else none
  | _, _ => none

/-- The namespace constants of a tree with their values. -/
def namespaceConstants (root : Node) : List (String × String) :=
  ((root.findAll fun n => n.kind == "variable_declarator").filterMap namespaceConstant?).foldl
    (fun constants c => Node.putKey c.1 c.2 constants) []

/-- The words of the paths from which namespaces are imported. -/
def namespaceWords : List String := ["namespace", "enumerate"]

/-- The path from which a statement imports namespaces. -/
def namespaceImport? (statement : Node) : Option String :=
  (Node.stringValueOf? (statement.field? "source")).filter fun source =>
    source != "" && (namespaceWords.any fun w => occursIn w source) &&
      statement.walk.any fun n => n.kind == "import_specifier"

/-- The paths from which a tree imports namespaces. -/
def namespaceImports (root : Node) : List String :=
  (root.findAll fun n => n.kind == "import_statement").filterMap namespaceImport?

end UxLint.Action
