import UxLint.Pattern.Search
import UxLint.Text.Search

/-!
# File formats

The ending of a path tells how a file is read: as a script in one of three grammars, as a component
that holds a script and a template, or as a page of plain markup.
-/

set_option autoImplicit false

namespace UxLint

/-- A grammar for scripts. -/
inductive Grammar where
  | javascript
  | typescript
  /-- Scripts with types and markup. -/
  | tsx
  deriving DecidableEq, Repr

/-- The name of a grammar. -/
def Grammar.name : Grammar → String
  | javascript => "javascript"
  | typescript => "typescript"
  | tsx => "tsx"

/-- How a file is read. -/
inductive Format where
  | script (grammar : Grammar)
  /-- As a component with a script and a template. -/
  | component
  | page
  deriving DecidableEq, Repr

namespace Format

/-- The name of a format. -/
def name : Format → String
  | script g => g.name
  | component => "vue"
  | page => "html"

/-- The last segment of a path; segments that are empty or a single dot do not count. -/
def lastSegmentOf (path : Text) : Text :=
  (((Text.pieces '/' path).filter fun s => s != [] && s != ['.']).getLast?).getD []

/-- The ending of a file's name from its last dot on; nothing if the dot is its first or its last
character. -/
def ending (path : String) : Text :=
  let name := lastSegmentOf (path.toList.map fun c => if c == '\\' then '/' else c)
  if !name.contains '.' then []
  else
    let tail := Text.lastPiece '.' name
    if tail.isEmpty || tail.length + 1 == name.length then [] else '.' :: tail

/-- The formats by the endings of paths. -/
def byEnding : List (String × Format) :=
  [(".js", .script .javascript), (".jsx", .script .javascript), (".mjs", .script .javascript),
    (".cjs", .script .javascript), (".ts", .script .typescript), (".tsx", .script .tsx),
    (".vue", .component), (".html", .page), (".htm", .page)]

/-- The format of a path; `none` if its ending is not known. -/
def ofPath? (path : String) : Option Format :=
  let e := String.ofList (Text.lower (ending path))
  (byEnding.find? fun r => r.1 == e).map (·.2)

end Format

namespace Source

open Pattern

/-- A script block; its attributes and its contents are remembered. -/
def scriptBlock : Pattern :=
  inOrder [literal "<script", capture 1 (star (noneOf ">")), char '>',
    capture 2 (reluctant (one fun _ => true)), literal "</script>"]

/-- The opening tag of a template. -/
def templateOpening : Pattern := inOrder [literal "<template", star (noneOf ">"), char '>']

/-- The language that an opening tag names, which is remembered. -/
def languageAttribute : Pattern :=
  inOrder [wordEdge, literal "lang", blanks, char '=', blanks, optional (anyOf "\"'"),
    capture 1 (plus word)]

/-- The grammar of a script block with the given attributes. -/
def blockGrammar (attributes : Text) : Grammar :=
  match languageAttribute.search? attributes with
  | none => .javascript
  | some m =>
    let language := Text.lower (m.group 1)
    if language == ['t', 's'] then .typescript
    else if language == ['t', 's', 'x'] then .tsx
    else .javascript

end Source

end UxLint
