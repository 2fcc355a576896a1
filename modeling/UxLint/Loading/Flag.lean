import UxLint.Pattern.Search
import UxLint.Syntax.Callee

/-!
# Busy flags

A busy flag is switched by an assignment of a truth literal: to a variable, to a member, through a
setter of state, or through an object of new state.
-/

set_option autoImplicit false

namespace UxLint

/-- An assignment of a truth value to a flag. -/
structure FlagAssignment where
  flag : String
  value : Bool
  node : Node

namespace Loading

/-- The words of the names of busy flags. -/
def busyWords : List String := ["loading", "submitting"]

/-- Whether a name is that of a busy flag. -/
def isBusyName (name : String) : Bool := busyWords.any fun w => occursIn w (lowercase name)

/-- Whether two names are those of one flag. -/
def sameFlag (a b : String) : Bool := a == b || lowercase a == lowercase b

/-- The name of a setter of state. -/
def setterName : Pattern :=
  .inOrder [.literal "set", .one Char.isUpper, .star (.one Text.isIdentifier), .textEnd]

/-- Whether a name is that of a setter of state. -/
def isSetterName (name : String) : Bool := (setterName.match? name.toList).isSome

/-- The flag that a setter of state sets. -/
def setterFlag (name : String) : String :=
  match name.toList.drop 3 with
  | [] => ""
  | c :: t => String.ofList (Text.lower [c] ++ t)

/-- The name of the flag on the left of an assignment; empty if the left side is neither a variable
nor a member. -/
def assignedName (left : Node) : String :=
  let property := left.memberProperty
  if property != "" then property
  else if left.kind == "identifier" then left.text
  else ""

/-- The flag that an assignment switches. -/
def assignedFlag? (n : Node) : Option FlagAssignment :=
  match Node.booleanValueOf? (n.field? "right"), Node.unwrapped (n.field? "left") with
  | some value, some left =>
    if assignedName left == "" then none else some ⟨assignedName left, value, n⟩
  | _, _ => none

/-- The flags that a call switches through an object of new state, its first argument. -/
def stateFlags (call state : Node) : List FlagAssignment :=
  state.objectKeys.filterMap fun e =>
    (Node.booleanValueOf? e.2).map fun value => ⟨e.1, value, call⟩

/-- The flags that a call switches. -/
def calledFlags (call : Node) : List FlagAssignment :=
  match call.arguments with
  | [] => []
  | a :: _ =>
    let name := lastSegment call.targetName
    if name == "setState" then stateFlags call a
    else if isSetterName name then
      match a.booleanValue? with
      | some value => [⟨setterFlag name, value, call⟩]
      | none => []
    else []

/-- The flags that a node switches by itself. -/
def flagsAt (n : Node) : List FlagAssignment :=
  if n.kind == "assignment_expression" then (assignedFlag? n).toList
  else if n.kind == "call_expression" then calledFlags n
  else []

/-- The flags that a node and the named nodes below it switch, nested functions included. -/
def assignments (n : Node) : List FlagAssignment := n.walk.flatMap flagsAt

/-- Whether a node calls a setter of state with a truth literal. -/
def isSetterCall (call : Node) : Bool :=
  call.kind == "call_expression" && isSetterName (lastSegment call.dottedName) &&
    match call.arguments with
    | [] => false
    | a :: _ => a.booleanValue?.isSome

/-- Whether a node calls one of the configured loading methods; calls of a setter of state with a
truth literal do not count. -/
def isLoadingCall (methods : List String) (call : Node) : Bool :=
  call.kind == "call_expression" && !isSetterCall call && call.dottedName != "" &&
    methods.any fun m => m != "" && occursIn m call.dottedName

end Loading

end UxLint
