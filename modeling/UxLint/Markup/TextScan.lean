import UxLint.Markup.Element
import UxLint.Pattern.Search

/-!
# Elements of markup text

Templates and plain markup have no tree, so their tags are found by a scan. A tag with a body ends
where its closing tag ends, tags of the same name in between counted; one whose closing tag cannot
be found ends where it opens.
-/

set_option autoImplicit false

namespace UxLint.Markup

open Pattern

/-- A value in braces that hold braces up to two deep. -/
def bracedValue : Pattern :=
  let plain := noneOf "\x7b\x7d"
  let innermost := inOrder [char '\x7b', star plain, char '\x7d', star plain]
  let inner := inOrder [char '\x7b', star plain, star innermost, char '\x7d', star plain]
  inOrder [char '\x7b', star plain, star inner, char '\x7d']

/-- A character that can stand in a value without quotes. -/
def bareCharacter : Pattern := one fun c => !(Text.isBlank c || c == '>' || c == '"' || c == '\'')

/-- The value of an attribute. -/
def attributeValue : Pattern :=
  firstOf [inOrder [char '"', star (noneOf "\""), char '"'],
    inOrder [char '\'', star (noneOf "'"), char '\''], bracedValue, plus bareCharacter]

/-- The name of an attribute. -/
def attributeName : Pattern :=
  plus (one fun c =>
    !(Text.isBlank c || c == '=' || c == '/' || c == '>' || c == '"' || c == '\''))

/-- The sign between the name of an attribute and its value. -/
def equalsSign : Pattern := inOrder [blanks, char '=', blanks]

/-- A tag; its name, its attributes and the slash that closes it are remembered. -/
def tag : Pattern :=
  inOrder [char '<',
    capture 1 (inOrder [one Char.isAlpha,
      star (one fun c => Text.isWord c || c == '.' || c == ':' || c == '-')]),
    capture 2 (star (inOrder [plus blank, attributeName,
      optional (inOrder [equalsSign, attributeValue])])),
    blanks, capture 3 (optional (char '/')), char '>']

/-- An attribute; its name and its value are remembered. -/
def attributeText : Pattern :=
  inOrder [capture 1 attributeName, optional (inOrder [equalsSign, capture 2 attributeValue])]

/-- An opening or closing tag of the given name; the slashes at its ends are remembered. -/
def tagOf (name : Text) : Pattern :=
  inOrder [char '<', capture 1 (optional (char '/')), inOrder (name.map char),
    look fun _ rest => rest.head?.any fun c => Text.isBlank c || c == '/' || c == '>',
    reluctant (noneOf ">"), capture 2 (optional (char '/')), char '>']

/-- Any tag. -/
def anyTag : Pattern := inOrder [char '<', star (noneOf ">"), char '>']

/-- A name without hyphens, each letter behind one in upper case. -/
def camelCase (name : Text) : Text :=
  match Text.pieces '-' name with
  | [] => []
  | head :: rest => head ++ rest.flatMap Text.capitalize

/-- The name of the callback of an event, its modifiers left out. -/
def callbackName (event : Text) : Text :=
  ['o', 'n'] ++ Text.capitalize (camelCase (Text.firstPiece '.' event))

/-- The normalised name of an attribute and whether its value is an expression. -/
def normalize (raw : Text) : Text × Bool :=
  if "v-bind:".toList.isPrefixOf raw then
    (camelCase (Text.firstPiece '.' (raw.drop 7)), true)
  else if [':'].isPrefixOf raw then (camelCase (Text.firstPiece '.' (raw.drop 1)), true)
  else if "v-on:".toList.isPrefixOf raw then (callbackName (raw.drop 5), true)
  else if ['@'].isPrefixOf raw then (callbackName (raw.drop 1), true)
  else if ['v', '-'].isPrefixOf raw then (raw, true)
  else if 2 < raw.length && ['o', 'n'].isPrefixOf raw && Text.isAllLower raw then
    (['o', 'n'] ++ Text.capitalize (raw.drop 2), true)
  else (camelCase raw, false)

/-- The value that an attribute writes, and whether it is an expression by its braces. -/
def readValue (raw : Text) : Text × Bool :=
  match raw with
  | '"' :: t => (t.dropLast, false)
  | '\'' :: t => (t.dropLast, false)
  | '\x7b' :: t => (Text.trim t.dropLast, true)
  | t => (t, false)

/-- The attribute that a match of `attributeText` found. -/
def attributeOf (m : Match) : Attribute :=
  let raw := m.group 1
  let name := normalize raw
  match m.capture? 2 with
  | none => ⟨String.ofList name.1, none, name.2, String.ofList raw⟩
  | some c =>
    let value := readValue c.text
    ⟨String.ofList name.1, some (String.ofList value.1), name.2 || value.2, String.ofList raw⟩

/-- The attributes written in the middle of a tag. -/
def attributesOf (raw : Text) : List Attribute := (attributeText.all raw).map attributeOf

/-- The number of open tags behind a tag that was found with `depth` tags open. -/
def depthBehind (depth : Nat) (m : Match) : Nat :=
  if m.group 1 != [] then depth - 1 else if m.group 2 != [] then depth else depth + 1

/-- The place behind the closing tag that closes the last of `depth` open tags of a name; none if
it does not follow the cursor. -/
def closingPlace? (name : Text) (depth : Nat) (c : Cursor) : Option Cursor :=
  match (tagOf name).searchFrom? c with
  | none => none
  | some m =>
    if depthBehind depth m == 0 then some m.stop
    else if m.stop.left < c.left then closingPlace? name (depthBehind depth m) m.stop
    else none
termination_by c.left

/-- The visible text between two places. -/
def innerText (start stop : Cursor) : Text :=
  if stop.offset ≤ start.offset then []
  else Text.squeeze (anyTag.replace (fun _ => [' ']) (start.piece (stop.offset - start.offset)))

/-- The attributes that spread an object into a tag. -/
def spreadNames : List String := ["v-bind", "v-bind.prop"]

/-- The element that a match of `tag` found in `t`; `line` is the number of its line. -/
def elementOf (t : Text) (lineOffset : Int) (m : Match) : Element :=
  let name := m.group 1
  let attributes := attributesOf (m.group 2)
  let close :=
    if m.group 3 != [] then m.stop
    else (closingPlace? name 1 m.stop).getD m.stop
  { name := String.ofList name
    attributes := attributes
    line := lineOffset + Text.lineFeeds (t.take m.start) + 1
    endLine := lineOffset + Text.lineFeeds (t.take m.stop.offset) + 1
    start := m.start
    stop := close.offset
    origin := .text
    hasSpread := attributes.any fun a => spreadNames.contains a.rawName
    innerText := String.ofList (innerText m.stop close) }

/-- The elements of a text in the order of their tags; `lineOffset` lines come before the text. -/
def scanText (t : Text) (lineOffset : Int) : List Element := (tag.all t).map (elementOf t lineOffset)

end UxLint.Markup
