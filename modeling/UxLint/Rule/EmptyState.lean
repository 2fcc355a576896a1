import UxLint.Config.Settings
import UxLint.Diff
import UxLint.Evidence
import UxLint.Rule.Violation
import UxLint.Syntax.Function
import UxLint.Syntax.Callee

/-!
# Rule 4: an empty state

A list that is rendered without a table must show something when it is empty: an empty component, a
text that says so, or a test of its length.
-/

set_option autoImplicit false

namespace UxLint.EmptyState

open Pattern

/-! ## Lists -/

/-- The directive of a loop in markup. -/
def markupLoop : Pattern := inOrder [wordEdge, literal "v-for", blanks, char '=']

/-- A loop in the text of a script. -/
def codeLoop : Pattern :=
  either
    (inOrder [char '.', firstOf [literal "map", literal "forEach"], blanks, char '('])
    (inOrder [wordEdge, literal "for", blanks, char '('])

/-- The import of a table. -/
def tableImport : Pattern :=
  let names := star (noneOf "\x7d")
  inOrder [wordEdge, literal "import", blanks, optional (inOrder [literal "type", blanks]),
    char '\x7b', names, wordEdge,
    firstOf [literal "Table", literal "ElTable", literal "ProTable"], wordEdge, names, char '\x7d']

/-- The kinds of loop statements. -/
def loopKinds : List String := ["for_statement", "for_in_statement"]

/-- The methods that visit the items of a list. -/
def loopMethods : List String := ["map", "forEach"]

/-- The member that a call selects. -/
def calledMember (call : Node) : String := Node.memberPropertyOf call.callTarget?

/-- Whether a node renders a list. -/
def isLoop (n : Node) : Bool :=
  loopKinds.contains n.kind ||
    (n.kind == "call_expression" && loopMethods.contains (calledMember n))

/-- How a report calls a loop. -/
def loopName (n : Node) : String :=
  if loopKinds.contains n.kind then "a for loop" else "." ++ calledMember n ++ "()"

/-- A loop in the markup. -/
def loopInMarkup? (u : SourceUnit) : Option Evidence :=
  (markupLoop.search? u.markupView).map fun m =>
    ⟨"list-render", "v-for", u.markupOffset + Text.lineFeeds (u.markupView.take m.start) + 1, .text⟩

/-- The first loop of a tree. -/
def loopInTree? (u : SourceUnit) (root : Node) : Option Evidence :=
  match root.findAll isLoop with
  | [] => none
  | n :: rest =>
    let first := leftmost Node.start n rest
    some ⟨"list-render", loopName first, u.lineOf first, .tree⟩

/-- A loop in the text of the script. -/
def loopInCode? (u : SourceUnit) : Option Evidence :=
  (codeLoop.search? u.codeView).map fun m =>
    ⟨"list-render", String.ofList (Text.trimWhile (fun c => c == '(' || c == ' ') m.text),
      u.scriptOffset + Text.lineFeeds (u.codeView.take m.start) + 1, .tree⟩

/-- Where the file renders a list. -/
def rendering? (u : SourceUnit) : Option Evidence :=
  let inScript : Finder Id := fun _ =>
    Evidence.inTiers (u.tree.map fun root _ => pure (loopInTree? u root))
      (some fun _ => pure (loopInCode? u))
  Id.run (Evidence.first [fun _ => pure (loopInMarkup? u), inScript])

/-- Whether the file uses a table. -/
def usesTable (u : SourceUnit) : Bool :=
  (u.elements.any fun e => Element.isNamedLike "table" e.name) || tableImport.occurs u.codeView

/-! ## Empty states -/

/-- The texts that say that a list is empty. -/
def emptyTexts : List String := ["暂无数据", "暂无", "no data", "No Data", "No data"]

/-- The start of a selected length. -/
def lengthMember : Pattern := literal ".length"

/-- Two or three equals signs. -/
def equality : Pattern := inOrder [literal "==", optional (char '=')]

/-- The dotted name of a list. -/
def listName : Pattern := plus (one fun c => Text.isIdentifier c || c == '.' || c == '?')

/-- The tests for an empty list, each with its notation. -/
def lengthTests : List (String × Pattern) :=
  [("\\.length\\s*===?\\s*0\\b",
      inOrder [lengthMember, blanks, equality, blanks, char '0', wordEdge]),
    ("\\b0\\s*===?\\s*[\\w$.?]+\\.length\\b",
      inOrder [wordEdge, char '0', blanks, equality, blanks, listName, lengthMember, wordEdge]),
    ("!\\s*[\\w$.?]+\\.length\\b", inOrder [char '!', blanks, listName, lengthMember, wordEdge]),
    ("\\.length\\s*<\\s*1\\b", inOrder [lengthMember, blanks, char '<', blanks, char '1', wordEdge]),
    ("\\.length\\s*<=\\s*0\\b",
      inOrder [lengthMember, blanks, literal "<=", blanks, char '0', wordEdge]),
    ("\\.length\\s*>\\s*0\\s*\\?",
      inOrder [lengthMember, blanks, char '>', blanks, char '0', blanks, char '?']),
    ("\\.length\\s*\\?", inOrder [lengthMember, blanks, char '?']),
    ("\\bisEmpty\\s*\\(", inOrder [wordEdge, literal "isEmpty", blanks, char '('])]

/-- Whether an element is the empty component of the given name. -/
def isComponent (e : Element) (component : String) : Bool :=
  e.name == component || startsWith e.name (component ++ ".") ||
    endsWith (compactName e.name) (compactName component)

/-- An empty component. -/
def emptyComponent? (components : List String) (u : SourceUnit) : Option Evidence :=
  (u.elements.find? fun e => components.any (isComponent e)).map fun e =>
    ⟨"empty-component", e.name, e.line, .tree⟩

/-- A text that says that a list is empty. -/
def emptyText? (u : SourceUnit) : Option Evidence :=
  (emptyTexts.find? fun t => Text.holds t.toList u.visibleText).map fun t =>
    ⟨"empty-text", t, 0, .text⟩

/-- A test for an empty list, in the code or else in the markup. -/
def lengthTest? (u : SourceUnit) : Option Evidence :=
  ([u.codeView, u.markupView].findSome? fun t =>
    lengthTests.find? fun test => test.2.occurs t).map fun test =>
      ⟨"zero-length-check", test.1, 0, .text⟩

/-- Evidence that the file shows an empty state. -/
def emptyState? (settings : RuleSettings) (u : SourceUnit) : Option Evidence :=
  Id.run (Evidence.first [fun _ => pure (emptyComponent? (settings.keywords "emptyComponents") u),
    fun _ => pure (emptyText? u), fun _ => pure (lengthTest? u)])

/-! ## Reports -/

/-- The words of a difference that concern the rule. -/
def diffTokens : List String := [".map(", ".forEach(", "v-for", "for ("]

/-- The violation of a list without an empty state. -/
def report (settings : RuleSettings) (path : String) (list : Evidence) : Violation where
  rule := 4
  symbol := "missing-empty-state"
  file := path
  line := list.line
  message := "List rendered with " ++ list.detail ++ " has no empty state."
  suggestion := "Render " ++
    Node.firstNonempty
      (joinStrings " / " ((settings.keywords "emptyComponents").map fun c => "<" ++ c ++ ">"))
      "an empty component" ++
    " or an explicit '暂无数据' message when the list is empty " ++
    "(e.g. \x7blist.length === 0 && <Empty />\x7d)."

/-- What the rule says about a list in a file with the given difference. -/
def judge (settings : RuleSettings) (path : String) (u : SourceUnit) (list : Evidence) (d : Diff) :
    Findings :=
  if !d.touches list.line list.line && !d.mentionsAny diffTokens then none
  else if (emptyState? settings u).isSome then some []
  else some [report settings path list]

/-- Evaluates the rule for a file. -/
def evaluate (settings : RuleSettings) (path : String) (u : SourceUnit) (diff : Text) :
    Except Fault Findings :=
  if !settings.enabled || settings.isPathWhitelisted path then .ok none
  else if u.tree.isNone && u.markup.isNone then .ok none
  else if usesTable u then .ok none
  else if (settings.matchingKeyword? u.visibleText).isSome then .ok none
  else
    match rendering? u with
    | none => .ok (some [])
    | some list => (Diff.read diff).map (judge settings path u list)

end UxLint.EmptyState
