import UxLint.Syntax.Function

/-!
# Statements around a place

The statements that come before and after a place are those of the blocks around it, up to the
function or block that bounds the search. The innermost block comes first.
-/

set_option autoImplicit false

namespace UxLint

namespace Node

/-- The statement of a block that covers a node. -/
def statementAround? (block n : Node) : Option Node := block.items.find? fun s => s.covers n

end Node

namespace Place

/-- The blocks among the nodes above, each with its child on the way to the place, up to `stop`. -/
def blocksFrom (stop child : Node) : List Node → List (Node × Node)
  | [] => []
  | n :: rest =>
    let here := if n.kind == "statement_block" then [(n, child)] else []
    if n.sameSpot stop then here else here ++ blocksFrom stop n rest

/-- The blocks around the place, each with its statement that holds the place, up to `stop`. -/
def blocks (p : Place) (stop : Node) : List (Node × Node) := blocksFrom stop p.node p.above

/-- The statements of a block before one of them. -/
def itemsBefore (block statement : Node) : List Node :=
  block.items.takeWhile fun s => !s.sameSpot statement

/-- The statements of a block after one of them. -/
def itemsAfter (block statement : Node) : List Node :=
  (block.items.dropWhile fun s => !s.sameSpot statement).drop 1

/-- The statements before the place within `stop`. -/
def statementsBefore (p : Place) (stop : Node) : List Node :=
  (p.blocks stop).flatMap fun b => itemsBefore b.1 b.2

/-- The statements after the place within `stop`. -/
def statementsAfter (p : Place) (stop : Node) : List Node :=
  (p.blocks stop).flatMap fun b => itemsAfter b.1 b.2

/-- The body of the final part of a try statement, if the part does not cover `n`. -/
def finalBody (statement n : Node) : List Node :=
  if statement.kind == "try_statement" then
    match statement.field? "finalizer" with
    | none => []
    | some final => if final.covers n then [] else [(final.field? "body").getD final]
  else []

/-- The final bodies of the try statements among the nodes above, below `stop`. -/
def finalBodiesFrom (stop n : Node) : List Node → List Node
  | [] => []
  | m :: rest => if m.sameSpot stop then [] else finalBody m n ++ finalBodiesFrom stop n rest

/-- The final bodies of the try statements around the place within `stop`. -/
def finalBodies (p : Place) (stop : Node) : List Node := finalBodiesFrom stop p.node p.above

end Place

end UxLint
