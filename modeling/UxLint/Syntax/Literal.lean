import UxLint.Syntax.Node

/-!
# Literal values

Parentheses, awaiting and two kinds of type annotation do not change what an expression is, so they
are taken off before a literal is read.
-/

set_option autoImplicit false

namespace UxLint.Node

/-- The kinds of the wrappers that do not change what an expression is. -/
def wrapperKinds : List String :=
  ["parenthesized_expression", "await_expression", "non_null_expression", "as_expression"]

/-- Whether the node is a wrapper that does not change what an expression is. -/
def isWrapper (n : Node) : Bool := wrapperKinds.contains n.kind

mutual

/-- The node inside all wrappers around it; `none` if a wrapper is empty. -/
def unwrap? : Node → Option Node
  | node l cs => if wrapperKinds.contains l.kind then unwrapFirst? cs else some (node l cs)

/-- The unwrapped first named node among several. -/
def unwrapFirst? : List Node → Option Node
  | [] => none
  | c :: cs => if c.isNamed then unwrap? c else unwrapFirst? cs

end

/-- The node inside all wrappers around what may be missing. -/
def unwrapped (n : Option Node) : Option Node := n.bind unwrap?

/-- A text without its first and its last character. -/
def inside (s : String) : String := String.ofList (s.toList.drop 1).dropLast

/-- The value of a string literal, or of a template without substitutions. -/
def stringValue? (n : Node) : Option String :=
  match n.unwrap? with
  | none => none
  | some m =>
    if m.kind == "string" then some (inside m.text)
    else if m.kind == "template_string" then
      if m.namedChildren.any fun c => c.kind == "template_substitution" then none
      else some (inside m.text)
    else none

/-- The value of a string literal that may be missing. -/
def stringValueOf? (n : Option Node) : Option String := n.bind stringValue?

/-- Whether a number is written as a plain zero; `none` if the node is no number. -/
def isZero? (n : Node) : Option Bool :=
  match n.unwrap? with
  | none => none
  | some m => if m.kind == "number" then some (m.text == "0") else none

mutual

/-- The value of a truth literal, of its negations, and of a negated number. -/
def booleanValue? : Node → Option Bool
  | node l cs =>
    if wrapperKinds.contains l.kind then booleanFirst? cs
    else if l.kind == "true" then some true
    else if l.kind == "false" then some false
    else if l.kind == "unary_expression" && fieldText (node l cs) "operator" == "!" then
      negated? cs
    else none

/-- The truth value of the first named node among several. -/
def booleanFirst? : List Node → Option Bool
  | [] => none
  | c :: cs => if c.isNamed then booleanValue? c else booleanFirst? cs

/-- The negated truth value of the operand among several nodes; a number negates to whether it is
zero. -/
def negated? : List Node → Option Bool
  | [] => none
  | c :: cs =>
    if c.label.field == "argument" then
      match isZero? c with
      | some zero => some zero
      | none => (booleanValue? c).map (!·)
    else negated? cs

end

/-- The truth value of what may be missing. -/
def booleanValueOf? (n : Option Node) : Option Bool := n.bind booleanValue?

/-- The entries with a value under a key: in its old place, or last if the key is new. -/
def putKey {α : Type} (key : String) (value : α) : List (String × α) → List (String × α)
  | [] => [(key, value)]
  | e :: rest => if e.1 == key then (key, value) :: rest else e :: putKey key value rest

/-- The key of a pair of an object literal. -/
def pairKey (pair : Node) : String :=
  (stringValueOf? (pair.field? "key")).getD (pair.fieldText "key")

/-- The keys of an object literal with the nodes of their values; a shorthand key is its own value,
and a key written twice keeps its first place and its last value. -/
def objectKeys (n : Node) : List (String × Option Node) :=
  match n.unwrap? with
  | none => []
  | some m =>
    if m.kind == "object" then
      m.namedChildren.foldl
        (fun keys c =>
          if c.kind == "pair" then putKey c.pairKey (c.field? "value") keys
          else if c.kind == "shorthand_property_identifier" then putKey c.text (some c) keys
          else keys)
        []
    else []

/-- The value node under a key of an object literal. -/
def valueAt? (keys : List (String × Option Node)) (key : String) : Option Node :=
  (keys.find? fun e => e.1 == key).bind (·.2)

end UxLint.Node
