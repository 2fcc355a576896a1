import UxLint.Syntax.Node

/-!
# Places in a syntax tree

A place is a node together with the nodes above it, the nearest first. The walk from a place keeps
the places that are still to be visited on a stack.
-/

set_option autoImplicit false

namespace UxLint

/-- A node and the nodes above it, the nearest first. -/
structure Place where
  node : Node
  above : List Node
  deriving Inhabited

namespace Place

/-- The place of the root of a tree. -/
def root (n : Node) : Place := ⟨n, []⟩

/-- The places of the named children. -/
def namedChildren (p : Place) : List Place :=
  p.node.namedChildren.map fun c => ⟨c, p.node :: p.above⟩

/-- The place of the child that fills a field. -/
def field? (p : Place) (name : String) : Option Place :=
  (p.node.field? name).map fun c => ⟨c, p.node :: p.above⟩

/-- The places of the named children that are no comments. -/
def items (p : Place) : List Place :=
  p.node.items.map fun c => ⟨c, p.node :: p.above⟩

/-- The places of the arguments of a call, without comments. -/
def arguments (p : Place) : List Place :=
  match p.field? "arguments" with
  | none => []
  | some args => args.items

/-- The walk over the places on the stack: a place is visited before what is below it. -/
def walkStack : List Place → List Place
  | [] => []
  | p :: stack => p :: walkStack (p.namedChildren ++ stack)
termination_by stack => Node.countAll (stack.map (·.node))
decreasing_by
  simp only [List.map_append, List.map_cons, Node.countAll_append, Node.countAll, namedChildren,
    List.map_map]
  have h := Node.countAll_namedChildren_lt p.node
  have e : List.map ((·.node) ∘ fun c => (⟨c, p.node :: p.above⟩ : Place)) p.node.namedChildren =
      p.node.namedChildren := by
    simp [Function.comp_def]
  rw [e]
  omega

/-- The place and the named places below it, a place before what is below it. -/
def walk (p : Place) : List Place := walkStack [p]

/-- The places of the walk with a property. -/
def findAll (p : Place) (q : Node → Bool) : List Place := p.walk.filter fun x => q x.node

/-- The calls of the walk. -/
def calls (p : Place) : List Place := p.findAll Node.isCall

/-- The nearest function in a list of nodes, each of which stands above the one before. -/
def nearestFunction? : List Node → Option Place
  | [] => none
  | n :: rest => if n.isFunction then some ⟨n, rest⟩ else nearestFunction? rest

/-- The nearest function above the place. -/
def enclosingFunction? (p : Place) : Option Place := nearestFunction? p.above

end Place

end UxLint
