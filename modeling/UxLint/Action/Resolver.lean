import UxLint.Action.Binding
import UxLint.Action.Declaration
import UxLint.Config.Settings
import UxLint.Project.Tree

/-!
# Finding declarations

The file that declares an action is looked for where the imported namespaces lead, or else in a
search of the project. An answer is remembered under the action and the path of the asking file, so
that each question is worked out once.
-/

set_option autoImplicit false

namespace UxLint

/-- What declarations are found with. -/
structure Resolver where
  grammars : Grammars
  project : Project
  /-- The root of the sources. -/
  root : Path
  declareFunction : String

namespace Resolver

/-- The endings of scripts. -/
def scriptEndings : List String := [".js", ".ts", ".jsx", ".tsx"]

/-- The endings of scripts that are imported by a relative path. -/
def plainEndings : List String := [".js", ".ts"]

/-- The directories in which namespaces are looked up, with the endings of their files. -/
def namespaceDirs : List (String × List String) :=
  [("src/api", scriptEndings), ("src/models", plainEndings), ("src/services", plainEndings)]

/-- The words with which the names of declaring files and directories start. -/
def searchWords : List String := ["action", "api", "service"]

/-- The starts of paths that stand for other starts. -/
def aliases : List (String × String) := [("~/", "src/"), ("@/", "src/")]

/-- The path that an imported path stands for. -/
def expandAlias (imported : String) : String :=
  match aliases.find? fun a => startsWith imported a.1 with
  | none => imported
  | some a => a.2 ++ String.ofList (imported.toList.drop a.1.toList.length)

/-- The directory of a file. -/
def directoryOf (r : Resolver) (file : String) : Path := (r.root.under file).parent

/-- The files that an imported path may mean, in the order of trial. -/
def moduleCandidates (r : Resolver) (imported file : String) : List Path :=
  let expanded := expandAlias imported
  let here := r.directoryOf file
  scriptEndings.map (fun e => r.root.under (expanded ++ e)) ++
    scriptEndings.map (fun e => (r.root.under expanded).under ("index" ++ e)) ++
    plainEndings.map (fun e => here.under (imported ++ e)) ++
    plainEndings.map fun e => (here.under imported).under ("index" ++ e)

/-- The first of several paths that leads to a file. -/
def firstFile? (r : Resolver) : List String → Except Fault (Option String)
  | [] => .ok none
  | path :: rest => do
    if ← r.project.isFile path then return some path
    r.firstFile? rest

/-- The file that an imported path means. -/
def module? (r : Resolver) (imported file : String) : Except Fault (Option String) :=
  r.firstFile? ((r.moduleCandidates imported file).map fun p => p.normalize.toString)

/-- The tree of a script file; nothing if the file cannot be read. -/
def treeOf? (r : Resolver) (file : String) : Except Fault (Option Node) :=
  (r.project.readable? file).map fun text => text.bind (SourceUnit.readScript? r.grammars file)

/-- The namespace constants of a file. -/
def namespaces (r : Resolver) (file : String) : Except Fault (List (String × String)) :=
  (r.treeOf? file).map fun tree => (tree.map Action.namespaceConstants).getD []

/-- The files that may be those of a namespace, in the order of trial. -/
def namespaceCandidates (r : Resolver) (value : String) : List String :=
  namespaceDirs.flatMap fun d => d.2.map fun e =>
    (((r.root.under d.1).under value).under ("index" ++ e)).toString

/-- The files to which an imported path of namespaces leads from a file. -/
def filesOfImport (r : Resolver) (file source : String) : Except Fault (List String) := do
  match ← r.module? source file with
  | none => return []
  | some path =>
    let found ← (← r.namespaces path).mapM fun c => r.firstFile? (r.namespaceCandidates c.2)
    return found.filterMap id

/-- The files to which the imported namespaces of a file lead. -/
def namespaceFiles (r : Resolver) (u : SourceUnit) : Except Fault (List String) :=
  match u.tree with
  | none => .ok []
  | some root => ((Action.namespaceImports root).mapM (r.filesOfImport u.path)).map List.flatten

/-- The files that a search of the project finds. -/
def searchedFiles (r : Resolver) (u : SourceUnit) : Except Fault (List String) := do
  let beside ← r.project.search (r.directoryOf u.path).toString scriptEndings []
  let sources ← r.project.search (r.root.under "src").toString scriptEndings []
  let named ← r.project.search r.root.toString scriptEndings searchWords
  return beside ++ sources ++ named

/-- The strings of a list, each at its first place only. -/
def unique (seen : List String) : List String → List String
  | [] => []
  | s :: rest => if seen.contains s then unique seen rest else s :: unique (s :: seen) rest

/-- The files in which the actions of a file may be declared, in the order of trial. -/
def candidates (r : Resolver) (u : SourceUnit) : Except Fault (List String) := do
  let named ← r.namespaceFiles u
  let files ← if named.isEmpty then r.searchedFiles u else pure named
  return unique [] (files.map fun f => (Path.ofString f).normalize.toString)

/-- The declaration of an action in the text of a file. Only a text that mentions both the action and the
declaring function is parsed. -/
def bindingInText? (r : Resolver) (action file : String) (t : Text) : Option Binding :=
  if !Text.holds action.toList t || !Text.holds r.declareFunction.toList t then none
  else
    (SourceUnit.readScript? r.grammars file t).bind fun root =>
      (Action.declaration? r.declareFunction action root).map fun flag => ⟨action, flag, file⟩

/-- The declaration of an action in a file; nothing if the file cannot be read. -/
def bindingIn? (r : Resolver) (action file : String) : Except Fault (Option Binding) :=
  (r.project.readable? file).map fun text => text.bind (r.bindingInText? action file)

/-- The first declaration of an action in several files. -/
def firstBinding? (r : Resolver) (action : String) : List String → Except Fault (Option Binding)
  | [] => .ok none
  | file :: rest => do
    match ← r.bindingIn? action file with
    | some b => return some b
    | none => r.firstBinding? action rest

/-- The declaration of an action as seen from a file. -/
def find? (r : Resolver) (action : String) (u : SourceUnit) : Except Fault (Option Binding) := do
  r.firstBinding? action (← r.candidates u)

/-- The only flag that a strict answer accepts. -/
def usualFlag : String := "loading"

/-- The answer to a question, given what was found. -/
def allowed (strict : Bool) (found : Option Binding) : Option Binding :=
  found.filter fun b => !strict || b.flag == usualFlag

/-- The answer to a question, worked out anew. -/
def answer (r : Resolver) (strict : Bool) (action : String) (u : SourceUnit) :
    Except Fault (Option Binding) :=
  if action == "" then .ok none else (r.find? action u).map (allowed strict)

end Resolver

/-- What was found for actions as seen from paths. -/
abbrev Memo := List ((String × String) × Option Binding)

namespace Resolver

/-- What is remembered for an action as seen from a path. -/
def remembered? (memo : Memo) (action path : String) : Option (Option Binding) :=
  (memo.find? fun e => e.1.1 == action && e.1.2 == path).map (·.2)

/-- The answer to a question, and what is remembered afterwards. A fault is not remembered. -/
def resolve (r : Resolver) (strict : Bool) (action : String) (u : SourceUnit) (memo : Memo) :
    Except Fault (Option Binding) × Memo :=
  if action == "" then (.ok none, memo)
  else
    match remembered? memo action u.path with
    | some found => (.ok (allowed strict found), memo)
    | none =>
      match r.find? action u with
      | .error fault => (.error fault, memo)
      | .ok found => (.ok (allowed strict found), ((action, u.path), found) :: memo)

/-- The resolver as a way to ask that remembers its answers. -/
def asLookup (r : Resolver) : Lookup (StateM Memo) := fun strict action u memo =>
  r.resolve strict action u memo

/-- What a resolver that remembers is told to do. -/
inductive Call where
  /-- To answer a question, strictly or not, for an action as seen from a file. -/
  | resolve (strict : Bool) (action : String) (u : SourceUnit)
  /-- To forget all that it remembers. -/
  | clear

/-- One call: the answer, if the call asks for one, and what is remembered afterwards. -/
def call (r : Resolver) (memo : Memo) :
    Call → Option (Except Fault (Option Binding)) × Memo
  | .resolve strict action u =>
    let (answer, memo') := r.resolve strict action u memo
    (some answer, memo')
  | .clear => (none, [])

/-- The answers to a row of calls, and what is remembered afterwards. -/
def runCalls (r : Resolver) (memo : Memo) :
    List Call → List (Option (Except Fault (Option Binding))) × Memo
  | [] => ([], memo)
  | c :: rest =>
    let (answer, memo') := r.call memo c
    let (answers, memo'') := r.runCalls memo' rest
    (answer :: answers, memo'')

end Resolver

end UxLint
