import UxLint.Syntax.Literal

/-!
# What a call calls

The name of a call is the dotted name of its target: an identifier, or a chain of members; the name
of a call that is called again is that of the inner call.
-/

set_option autoImplicit false

namespace UxLint.Node

/-- The field in which a call holds its target. -/
def targetField (kind : String) : String :=
  if kind == "new_expression" then "constructor" else "function"

/-- The target of a call. -/
def callTarget? (call : Node) : Option Node := call.field? (targetField call.kind)

/-- The unwrapped target of a call. -/
def target? (call : Node) : Option Node := unwrapped call.callTarget?

/-- The arguments of a call, without comments. -/
def arguments (call : Node) : List Node :=
  match call.field? "arguments" with
  | none => []
  | some args => args.items

/-- The kinds of the nodes that are names. -/
def nameKinds : List String :=
  ["identifier", "property_identifier", "private_property_identifier"]

mutual

/-- The dotted name of an expression; empty if it has none. -/
def dottedName : Node → String
  | node l cs =>
    if wrapperKinds.contains l.kind then dottedNameFirst cs
    else if callKinds.contains l.kind then dottedNameField (targetField l.kind) cs
    else if nameKinds.contains l.kind then l.text
    else if l.kind == "this" then "this"
    else if l.kind == "member_expression" then
      let owner := dottedNameField "object" cs
      let property := fieldText (node l cs) "property"
      if owner == "" then property else owner ++ "." ++ property
    else ""

/-- The dotted name of the first named node among several. -/
def dottedNameFirst : List Node → String
  | [] => ""
  | c :: cs => if c.isNamed then dottedName c else dottedNameFirst cs

/-- The dotted name of the node among several that fills a field. -/
def dottedNameField (field : String) : List Node → String
  | [] => ""
  | c :: cs => if c.label.field == field then dottedName c else dottedNameField field cs

end

/-- The dotted name of what may be missing. -/
def dottedNameOf (n : Option Node) : String :=
  match n with
  | none => ""
  | some m => m.dottedName

/-- The dotted name of the target of a call. -/
def targetName (call : Node) : String := dottedNameOf call.callTarget?

/-- The name of the member that an expression selects; empty if it selects none. -/
def memberProperty (n : Node) : String :=
  match n.unwrap? with
  | none => ""
  | some m => if m.isMember then m.fieldText "property" else ""

/-- The name of the member that is selected by what may be missing. -/
def memberPropertyOf (n : Option Node) : String :=
  match n with
  | none => ""
  | some m => m.memberProperty

end UxLint.Node
