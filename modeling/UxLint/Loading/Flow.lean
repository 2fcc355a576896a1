import UxLint.Loading.Flag
import UxLint.Syntax.Chain
import UxLint.Syntax.Statement

/-!
# Flags around a request

A request is protected by a busy flag that is switched on before the request and off once it has
settled.
-/

set_option autoImplicit false

namespace UxLint.Loading

/-- The strings of a list, each at its first place only. -/
def distinct (seen : List String) : List String → List String
  | [] => []
  | s :: rest => if seen.contains s then distinct seen rest else s :: distinct (s :: seen) rest

/-- The flags switched on before a place within `stop`; only busy flags unless `all`. -/
def flagsSetBefore (p : Place) (stop : Node) (all : Bool) : List String :=
  distinct []
    ((((p.statementsBefore stop).flatMap assignments).filter fun a =>
      a.value && (all || isBusyName a.flag)).map (·.flag))

/-- The functions that a call is handed, as arguments or as values of an object. -/
def handedFunctions (call : Node) : List Node :=
  call.arguments.filter Node.isFunction ++
    call.arguments.flatMap fun a =>
      a.objectKeys.filterMap fun e => e.2.filter Node.isFunction

/-- The nodes that run once a call has settled. -/
def settledRegions (p : Place) (stop : Node) : List Node :=
  (p.promiseCallbacks Place.promiseMethods).map (·.2) ++ handedFunctions p.node ++
    (if p.isAwaited then p.statementsAfter stop else []) ++ p.finalBodies stop

/-- Whether a node switches a flag off. -/
def switchesOff (flag : String) (region : Node) : Bool :=
  (assignments region).any fun a => !a.value && sameFlag a.flag flag

/-- Whether a flag is switched off once a call has settled. -/
def resetsAfter (p : Place) (stop : Node) (flag : String) : Bool :=
  (settledRegions p stop).any (switchesOff flag)

/-- The busy flags that are switched on before a call and off once it has settled. -/
def protectedFlags (p : Place) (stop : Node) : List String :=
  (flagsSetBefore p stop false).filter (resetsAfter p stop)

/-- The busy flags that a node switches at all. -/
def definedFlags (n : Node) : List String :=
  distinct [] (((assignments n).filter fun a => isBusyName a.flag).map (·.flag))

end UxLint.Loading
