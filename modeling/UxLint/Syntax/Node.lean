import UxLint.Text.Search

/-!
# Syntax trees

A node of a syntax tree carries its kind, the field of its parent that it fills, the octets that it
covers, the rows of its ends and its text. Only named nodes take part in a walk; the others are
single marks that a few questions ask for.
-/

set_option autoImplicit false

namespace UxLint

/-- What a node of a syntax tree says about itself. -/
structure Label where
  /-- The grammar's name for the node. -/
  kind : String
  /-- The field of the parent that the node fills; empty if it fills none. -/
  field : String
  /-- Whether the grammar names the node. -/
  named : Bool
  /-- The octets before the node. -/
  start : Nat
  /-- The octets before the end of the node. -/
  stop : Nat
  /-- The line feeds before the node. -/
  row : Nat
  /-- The line feeds before the end of the node. -/
  stopRow : Nat
  text : String
  deriving Repr, Inhabited

/-- A node of a syntax tree. -/
inductive Node where
  /-- A node over its children, in the order of the source. -/
  | node (label : Label) (children : List Node)
  deriving Repr, Inhabited

namespace Node

/-- What the node says about itself. -/
def label : Node → Label
  | node l _ => l

/-- The children of the node. -/
def children : Node → List Node
  | node _ cs => cs

/-- The kind of the node. -/
def kind (n : Node) : String := n.label.kind

/-- The text of the node. -/
def text (n : Node) : String := n.label.text

/-- The octets before the node. -/
def start (n : Node) : Nat := n.label.start

/-- The octets before the end of the node. -/
def stop (n : Node) : Nat := n.label.stop

/-- Whether the grammar names the node. -/
def isNamed (n : Node) : Bool := n.label.named

/-- The named children of the node. -/
def namedChildren (n : Node) : List Node := n.children.filter isNamed

/-- The child that fills a field. -/
def field? (n : Node) (name : String) : Option Node :=
  n.children.find? fun c => c.label.field == name

/-- The text of a node, nothing if there is no node. -/
def textOf (n : Option Node) : String :=
  match n with
  | none => ""
  | some m => m.text

/-- The text of the child that fills a field. -/
def fieldText (n : Node) (name : String) : String := textOf (n.field? name)

/-- Whether two nodes have one kind and cover the same octets. -/
def sameSpot (a b : Node) : Bool := a.start == b.start && a.stop == b.stop && a.kind == b.kind

/-- Whether a node covers the octets of another. -/
def covers (outer inner : Node) : Bool := outer.start ≤ inner.start && inner.stop ≤ outer.stop

mutual

/-- The number of nodes of the tree. -/
def count : Node → Nat
  | node _ cs => countAll cs + 1

/-- The number of nodes of several trees. -/
def countAll : List Node → Nat
  | [] => 0
  | c :: cs => count c + countAll cs

end

mutual

/-- The node and the named nodes below it, a node before what is below it. -/
def walk : Node → List Node
  | node l cs => node l cs :: walkAll cs

/-- The walks of the named nodes among several. -/
def walkAll : List Node → List Node
  | [] => []
  | c :: cs => if c.isNamed then walk c ++ walkAll cs else walkAll cs

end

/-- The nodes of the walk with a property. -/
def findAll (n : Node) (p : Node → Bool) : List Node := n.walk.filter p

/-- The kinds of calls. -/
def callKinds : List String := ["call_expression", "new_expression"]

/-- Whether the node is a call. -/
def isCall (n : Node) : Bool := callKinds.contains n.kind

/-- The calls of the walk. -/
def calls (n : Node) : List Node := n.findAll isCall

/-- The kinds of functions. -/
def functionKinds : List String :=
  ["function_declaration", "function_expression", "function", "arrow_function",
    "method_definition", "generator_function", "generator_function_declaration"]

/-- Whether the node is a function. Some marks share the name of a function's kind, but the grammar
does not name them. -/
def isFunction (n : Node) : Bool := n.isNamed && functionKinds.contains n.kind

/-- Whether a member of an object is selected. -/
def isMember (n : Node) : Bool := n.kind == "member_expression"

/-- Whether the node is a comment. -/
def isComment (n : Node) : Bool := n.kind == "comment"

/-- The named children that are no comments. -/
def items (n : Node) : List Node := n.namedChildren.filter fun c => !c.isComment

/-- Whether the function is marked to run asynchronously. -/
def isAsync (n : Node) : Bool := n.children.any fun c => c.kind == "async"

/-- The nodes of two rows are counted row by row. -/
theorem countAll_append (a b : List Node) : countAll (a ++ b) = countAll a + countAll b := by
  induction a with
  | nil => simp [countAll]
  | cons c cs ih => simp only [List.cons_append, countAll, ih]; omega

/-- A filter leaves no more nodes than there were. -/
theorem countAll_filter_le (p : Node → Bool) (cs : List Node) :
    countAll (cs.filter p) ≤ countAll cs := by
  induction cs with
  | nil => simp [countAll]
  | cons c cs ih =>
    simp only [List.filter_cons]
    split <;> simp only [countAll] <;> omega

/-- The named children have fewer nodes than what holds them. -/
theorem countAll_namedChildren_lt (n : Node) : countAll n.namedChildren < n.count := by
  cases n with
  | node l cs =>
    have := countAll_filter_le isNamed cs
    simp only [namedChildren, children, count]
    omega

end Node

/-- The one of several that starts first, the first such one. -/
def leftmost {α : Type} (start : α → Nat) (first : α) (rest : List α) : α :=
  (first :: rest).minOn start (List.cons_ne_nil first rest)

section Leftmost

variable {α : Type} (start : α → Nat) (first : α) (rest : List α)

/-- The one that starts first is one of them. -/
theorem leftmost_mem : leftmost start first rest ∈ first :: rest := List.minOn_mem

/-- None of them starts in front of the one that starts first. -/
theorem leftmost_start_le : ∀ x ∈ first :: rest, start (leftmost start first rest) ≤ start x :=
  fun _ hx => List.apply_minOn_le_of_mem hx

end Leftmost

end UxLint
