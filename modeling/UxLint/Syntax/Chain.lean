import UxLint.Syntax.Place
import UxLint.Syntax.Callee

/-!
# Chains of calls

A call may start a chain: a method is called on its result, another one on the result of that, and
so on. The functions handed to the methods of a promise chain run once the call has settled.
-/

set_option autoImplicit false

namespace UxLint

namespace Node

/-- The kinds of the nodes of which a chain consists. -/
def chainKinds : List String :=
  ["parenthesized_expression", "member_expression", "call_expression", "non_null_expression"]

/-- Whether the first node above that belongs to no chain is an await. -/
def awaitedBelow : List Node → Bool
  | [] => false
  | n :: rest =>
    if n.kind == "await_expression" then true
    else if chainKinds.contains n.kind then awaitedBelow rest
    else false

/-- The functions among the arguments of a call, each with the name of a method. -/
def callbacksOf (method : String) (call : Node) : List (String × Node) :=
  (call.arguments.filter isFunction).map fun f => (method, f)

/-- The callbacks of the chain that goes on from `current` through the nodes above it, as long as
its methods are among `methods`. -/
def chainCallbacks (methods : List String) (current : Node) : List Node → List (String × Node)
  | [] => []
  | n :: rest =>
    if n.kind == "parenthesized_expression" || n.kind == "non_null_expression" then
      chainCallbacks methods n rest
    else if n.isMember && (n.field? "object").any (·.sameSpot current) then
      match rest with
      | [] => []
      | outer :: rest' =>
        let method := n.fieldText "property"
        if methods.contains method && outer.kind == "call_expression" then
          callbacksOf method outer ++ chainCallbacks methods outer rest'
        else []
    else []

/-- The outermost call of the chain that goes on from `current` through the nodes above it. -/
def chainTop (current : Node) : List Node → Node
  | n :: outer :: rest =>
    if n.isMember && outer.kind == "call_expression" then chainTop outer rest else current
  | _ => current

end Node

namespace Place

/-- The methods whose callbacks run once a promise has settled. -/
def promiseMethods : List String := ["then", "catch", "finally"]

/-- Whether the place, or the chain that it starts, is awaited. -/
def isAwaited (p : Place) : Bool := Node.awaitedBelow p.above

/-- The functions handed to the promise chain of a call, each with the name of its method. -/
def promiseCallbacks (p : Place) (methods : List String) : List (String × Node) :=
  Node.chainCallbacks methods p.node p.above

/-- The outermost call of the chain that the call starts. -/
def chainTop (p : Place) : Node := Node.chainTop p.node p.above

end Place

end UxLint
