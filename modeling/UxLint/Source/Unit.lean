import UxLint.Markup.TextScan
import UxLint.Markup.TreeScan
import UxLint.Source.Blanking
import UxLint.Source.Format
import UxLint.Syntax.Outline

/-!
# Source units

A source unit is one file made ready for the rules: the tree of its script, the texts of its script
and of its markup, and how many lines of the file come before each of them.
-/

set_option autoImplicit false

namespace UxLint

/-- What the grammars answer to a script: its outline, or nothing where the script is malformed. -/
abbrev Grammars := Grammar → Text → Option Outline

/-- The syntax tree of a script. -/
def Grammars.tree? (grammars : Grammars) (grammar : Grammar) (script : Text) : Option Node :=
  (grammars grammar script).map fun o => o.laidOver (Text.encode script)

/-- A file made ready for the rules. -/
structure SourceUnit where
  path : String
  dialect : String
  tree : Option Node
  script : Text
  markup : Option Text
  /-- The lines of the file before the script. -/
  scriptOffset : Nat
  /-- The lines of the file before the markup. -/
  markupOffset : Nat

namespace SourceUnit

/-- The root of the script's tree. -/
def root? (u : SourceUnit) : Option Place := u.tree.map Place.root

/-- The line of the file on which a node of the tree starts. -/
def lineOf (u : SourceUnit) (n : Node) : Nat := n.label.row + 1 + u.scriptOffset

/-- The line of the file on which a node of the tree ends. -/
def endLineOf (u : SourceUnit) (n : Node) : Nat := n.label.stopRow + 1 + u.scriptOffset

/-- The script without comments and without the insides of literals. -/
def codeView (u : SourceUnit) : Text := Source.strip .code u.script

/-- The script without comments. -/
def commentFreeView (u : SourceUnit) : Text := Source.strip .comments u.script

/-- The markup without comments; nothing if there is no markup. -/
def markupView (u : SourceUnit) : Text :=
  match u.markup with
  | none => []
  | some t => Source.strip .markup t

/-- The text of the file that a reader sees: the script without comments, and the markup. -/
def visibleText (u : SourceUnit) : Text := u.commentFreeView ++ '\n' :: u.markupView

/-- The elements of the tree. -/
def treeElements (u : SourceUnit) : List Element :=
  match u.root? with
  | none => []
  | some root => Markup.scanTree root u.scriptOffset

/-- The elements of the markup. -/
def textElements (u : SourceUnit) : List Element :=
  match u.markup with
  | none => []
  | some _ => Markup.scanText u.markupView u.markupOffset

/-- Whether an element comes no later than another: by its line, then by its offset. -/
def comesBefore (a b : Element) : Bool := a.line < b.line || (a.line == b.line && a.start ≤ b.start)

/-- All elements of the file in the order of their lines. -/
def elements (u : SourceUnit) : List Element :=
  (u.treeElements ++ u.textElements).mergeSort comesBefore

/-- Reads a script. -/
def ofScript? (grammars : Grammars) (path : String) (grammar : Grammar) (t : Text) :
    Option SourceUnit :=
  (grammars.tree? grammar t).map fun tree => ⟨path, grammar.name, some tree, t, none, 0, 0⟩

/-- Reads a page of markup. -/
def ofPage (path : String) (t : Text) : SourceUnit :=
  ⟨path, Format.name .page, none, [], some t, 0, 0⟩

/-- The template of a component and the number of lines before it. -/
def template? (t : Text) : Option (Text × Nat) :=
  match Source.templateOpening.search? t, Text.beforeLast? "</template>".toList t with
  | some opening, some before =>
    if opening.stop.offset ≤ before.length then
      some (before.drop opening.stop.offset, Text.lineFeeds (t.take opening.stop.offset))
    else none
  | _, _ => none

/-- A component with the given script, whose block is in `grammar`. -/
def withTemplate (path : String) (t : Text) (grammar : Grammar) (tree : Option Node)
    (script : Text) (scriptOffset : Nat) : SourceUnit where
  path := path
  dialect := Format.name .component ++ ":" ++ grammar.name
  tree := tree
  script := script
  markup := (template? t).map (·.1)
  scriptOffset := scriptOffset
  markupOffset := ((template? t).map (·.2)).getD 0

/-- The grammar and the contents of a script block, and the number of lines before the contents. -/
def blockParts (t : Text) (block : Pattern.Match) : Grammar × Text × Nat :=
  let start := ((block.capture? 2).map (·.start)).getD 0
  (Source.blockGrammar (block.group 1), block.group 2, Text.lineFeeds (t.take start))

/-- Reads a component. -/
def ofComponent? (grammars : Grammars) (path : String) (t : Text) : Option SourceUnit :=
  match Source.scriptBlock.search? t with
  | none => some (withTemplate path t .javascript none [] 0)
  | some block =>
    let (grammar, script, offset) := blockParts t block
    (grammars.tree? grammar script).map fun tree =>
      withTemplate path t grammar (some tree) script offset

/-- Reads a file; `none` if its ending is not known or its script is malformed. -/
def read? (grammars : Grammars) (path : String) (t : Text) : Option SourceUnit :=
  match Format.ofPath? path with
  | none => none
  | some .page => some (ofPage path t)
  | some .component => ofComponent? grammars path t
  | some (.script grammar) => ofScript? grammars path grammar t

/-- The tree of a file's script alone; a component contributes its first script block. -/
def readScript? (grammars : Grammars) (path : String) (t : Text) : Option Node :=
  match Format.ofPath? path with
  | none => none
  | some .page => none
  | some .component =>
    (Source.scriptBlock.search? t).bind fun block =>
      let (grammar, script, _) := blockParts t block
      grammars.tree? grammar script
  | some (.script grammar) => grammars.tree? grammar t

end SourceUnit

end UxLint
