import UxLint.Markup.Element
import UxLint.Pattern.Search

/-!
# Bindings

An expression refers to a name that occurs in it as a whole identifier. A flag is bound to an element
by an expression under one of the given attributes, or by the entry `loading` of an object under any
attribute.
-/

set_option autoImplicit false

namespace UxLint

/-- A name as a whole identifier. -/
def identifierPattern (name : String) : Pattern :=
  .inOrder [.identifierStart, .literal name, .identifierEnd]

/-- Whether a name occurs in an expression as a whole identifier. -/
def refersTo (expression name : String) : Bool :=
  expression != "" && name != "" && (identifierPattern name).occurs expression.toList

/-- Whether a name occurs in the expression that may be missing. -/
def refersToOf (expression : Option String) (name : String) : Bool :=
  expression.any fun e => refersTo e name

/-- The entry `loading` of an object up to its colon. -/
def loadingEntry : Pattern :=
  .inOrder [.wordEdge, .literal "loading", .blanks, .char ':', .blanks]

/-- The entry `loading` of an object whose value holds a flag as a whole identifier. -/
def loadingEntryWith (flag : String) : Pattern :=
  .inOrder [loadingEntry, .star (.noneOf ",\x7d"), identifierPattern flag]

/-- The entry `loading` of an object with its value, which is remembered as the first piece. -/
def loadingEntryValue : Pattern :=
  .inOrder [loadingEntry, .capture 1 (.plus (.noneOf ",\x7d"))]

namespace Element

/-- Whether an attribute binds a flag. -/
def attributeBinds (a : Attribute) (flag : String) (names : List String) : Bool :=
  a.dynamic &&
    ((names.contains a.name && refersToOf a.value flag) ||
      a.value.any fun v => v != "" && (loadingEntryWith flag).occurs v.toList)

/-- Whether one of the element's attributes binds a flag. -/
def bindsFlag (e : Element) (flag : String) (names : List String) : Bool :=
  e.attributes.any fun a => attributeBinds a flag names

/-- The expressions that an attribute binds. -/
def attributeValues (a : Attribute) (names : List String) : List String :=
  match a.value with
  | none => []
  | some v =>
    if !a.dynamic || v == "" then []
    else if names.contains a.name then [v]
    else (loadingEntryValue.all v.toList).map fun m => String.ofList (Text.trim (m.group 1))

/-- The expressions that are bound to the element by its attributes. -/
def boundValues (e : Element) (names : List String) : List String :=
  e.attributes.flatMap fun a => attributeValues a names

end Element

end UxLint
