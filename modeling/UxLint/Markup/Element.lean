import UxLint.Text.Search
import UxLint.Text.Blank

/-!
# Markup elements

An element is an opening or self-closing tag with its attributes. Tags of a script's tree and tags
found in markup text are described alike, and the binding marks of templates are turned into the
attribute names that scripts use.
-/

set_option autoImplicit false

namespace UxLint

/-- An attribute of a tag. -/
structure Attribute where
  /-- The name after normalisation. -/
  name : String
  /-- The value; `none` if the attribute stands alone. -/
  value : Option String
  /-- Whether the value is an expression. -/
  dynamic : Bool
  /-- The name as written. -/
  rawName : String
  deriving DecidableEq, Repr

/-- Where an element was found. -/
inductive Origin where
  | tree
  | text
  deriving DecidableEq, Repr

/-- An opening or self-closing tag. -/
structure Element where
  name : String
  attributes : List Attribute
  /-- The line on which the tag starts. -/
  line : Int
  /-- The line on which the tag ends. -/
  endLine : Int
  /-- The offset of the element's start. -/
  start : Nat
  /-- The offset of the element's end, its closing tag included. -/
  stop : Nat
  origin : Origin
  /-- Whether attributes are spread into the tag. -/
  hasSpread : Bool
  /-- The text between the tag and its closing tag. -/
  innerText : String
  deriving DecidableEq, Repr

namespace Element

/-- The attribute of a name; one whose name differs in case only if none has exactly this name. -/
def attribute? (e : Element) (name : String) : Option Attribute :=
  match e.attributes.find? fun a => a.name == name with
  | some a => some a
  | none => e.attributes.find? fun a => lowercase a.name == lowercase name

/-- The value of the attribute of a name. -/
def valueOf? (e : Element) (name : String) : Option String := (e.attribute? name).bind (·.value)

/-- Whether another element of the same origin lies inside the element. -/
def contains (outer inner : Element) : Bool :=
  if outer.origin != inner.origin || (outer.start == inner.start && outer.stop == inner.stop) then
    false
  else outer.start ≤ inner.start && inner.stop ≤ outer.stop

/-- Whether a name ends in a word, whatever its case and its hyphens. -/
def isNamedLike (word name : String) : Bool := endsWith (plainName name) word

/-- Whether a name is that of a button. -/
def isButton (name : String) : Bool := isNamedLike "button" name

/-- The attributes that tell what a button does. -/
def submitAttributes : List String := ["htmlType", "nativeType", "type"]

/-- A text without quotes and spaces at its ends. -/
def unquoted (s : String) : String :=
  String.ofList (Text.trimWhile (fun c => c == '\'' || c == '"' || c == ' ') s.toList)

/-- Whether the element is a button that submits its form. -/
def isSubmitButton (e : Element) : Bool :=
  isButton e.name &&
    submitAttributes.any fun name => unquoted ((e.valueOf? name).getD "") == "submit"

end Element

end UxLint
