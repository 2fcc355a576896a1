import UxLint.Markup.Element
import UxLint.Syntax.Literal
import UxLint.Syntax.Place

/-!
# Elements of a script's tree

The tags of a script are nodes of its tree. A tag with a body spans the node that holds the tag, the
body and the closing tag.
-/

set_option autoImplicit false

namespace UxLint.Markup

/-- The kinds of tags that open an element. -/
def tagKinds : List String := ["jsx_opening_element", "jsx_self_closing_element"]

/-- Whether a child of a tag spreads an object into it. -/
def isSpread (n : Node) : Bool :=
  n.kind == "jsx_expression" && n.namedChildren.any fun c => c.kind == "spread_element"

/-- The attribute with the given name and the node of its value. -/
def attributeWith (name : String) (value : Node) : Attribute :=
  if value.kind == "jsx_expression" then
    ⟨name, some (String.ofList (Text.trim (Node.inside value.text).toList)), true, name⟩
  else
    match value.stringValue? with
    | none => ⟨name, some value.text, true, name⟩
    | some s => ⟨name, some s, false, name⟩

/-- The attribute that a child of a tag is, if it is one. -/
def attributeAt? (n : Node) : Option Attribute :=
  if n.kind != "jsx_attribute" then none
  else
    match n.namedChildren with
    | [] => none
    | [name] => some ⟨name.text, none, false, name.text⟩
    | name :: v :: rest => some (attributeWith name.text (((v :: rest).getLast?).getD v))

/-- The node that an element spans: what holds the tag if the tag has a body. -/
def container (p : Place) : Node :=
  if p.node.kind == "jsx_opening_element" then (p.above.head?).getD p.node else p.node

/-- The text directly inside the element of a tag. -/
def bodyText (p : Place) : Text :=
  if p.node.kind == "jsx_opening_element" then
    match p.above with
    | [] => []
    | holder :: _ =>
      Text.squeeze (Text.join [' ']
        ((holder.namedChildren.filter fun c => c.kind == "jsx_text").map fun c => c.text.toList))
  else []

/-- The element of a tag; `lineOffset` lines of the file come before the script. -/
def elementAt? (lineOffset : Nat) (p : Place) : Option Element :=
  if !tagKinds.contains p.node.kind then none
  else
    (p.node.field? "name").map fun name =>
      { name := name.text
        attributes := p.node.namedChildren.filterMap attributeAt?
        line := p.node.label.row + 1 + lineOffset
        endLine := p.node.label.stopRow + 1 + lineOffset
        start := (container p).start
        stop := (container p).stop
        origin := .tree
        hasSpread := p.node.namedChildren.any isSpread
        innerText := String.ofList (bodyText p) }

/-- The elements of a tree in the order of their tags. -/
def scanTree (root : Place) (lineOffset : Nat) : List Element :=
  root.walk.filterMap (elementAt? lineOffset)

end UxLint.Markup
