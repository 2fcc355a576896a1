import UxLint.Check
import UxLint.Project.Tree
import UxLint.Text.Lines

/-!
# The staging area

What is about to be committed is asked of the version control program: first where the working tree
is, then which paths are staged, then for each file that is wanted and readable what has changed in
it. The first command that fails ends the reading.
-/

set_option autoImplicit false

namespace UxLint

/-- What came of a command. -/
inductive CommandOutcome where
  /-- The command succeeded and printed a text. -/
  | printed (text : Text)
  /-- The command ended with a code other than zero and complained. -/
  | exited (code : Int) (complaint : Text)
  | missing
  | timedOut

/-- A way to run commands, each given by its words. -/
abbrev CommandRunner := List String → CommandOutcome

/-- Why the staging area cannot be read. -/
inductive StagingError where
  /-- The program of a command is missing. -/
  | missing (command : List String)
  | timedOut (command : List String)
  /-- A command ended with a code other than zero and complained. -/
  | exited (command : List String) (code : Int) (complaint : Text)
  | fault (fault : Fault)
  deriving BEq

namespace Staging

/-- The program that knows the staging area. -/
def program : String := "git"

/-- How long a command may take, in seconds. -/
def patience : Nat := 30

/-- A command as a user would type it. -/
def typed (command : List String) : String := "'" ++ joinStrings " " command ++ "'"

end Staging

/-- What an error says. -/
def StagingError.message : StagingError → String
  | missing command =>
    Staging.typed command ++ " failed: " ++ FileError.message Staging.program .missing
  | timedOut command =>
    Staging.typed command ++ " failed: Command '" ++ quotedList command ++ "' timed out after " ++
      toString Staging.patience ++ " seconds"
  | exited command code complaint =>
    Staging.typed command ++ " exited " ++ toString code ++ ": " ++
      String.ofList (Text.trim complaint)
  | fault f => f.message

namespace Staging

/-- The command that prints where the working tree is. -/
def topCommand : List String := [program, "rev-parse", "--show-toplevel"]

/-- The command that prints the staged paths of added and modified files. -/
def namesCommand : List String :=
  [program, "-c", "core.quotePath=false", "diff", "--cached", "--name-only", "--diff-filter=AM"]

/-- The command that prints what has changed in a file. -/
def diffCommand (path : String) : List String :=
  [program, "diff", "--cached", "--", ":(top)" ++ path]

/-- What is read, with the commands that were run for it. -/
abbrev Reading := ExceptT StagingError (StateM (List (List String)))

/-- The text that a command prints. -/
def run (runner : CommandRunner) (command : List String) : Reading Text := do
  modify fun commands => commands ++ [command]
  match runner command with
  | .printed text => return text
  | .exited code complaint => throw (.exited command code complaint)
  | .missing => throw (.missing command)
  | .timedOut => throw (.timedOut command)

/-- The paths that a listing names, one a line. -/
def listedPaths (listing : Text) : List String :=
  (((Text.lines listing).map Text.trim).filter fun line => !line.isEmpty).map String.ofList

/-- The staged files among some paths that are wanted and readable. -/
def readFiles (runner : CommandRunner) (p : Project) (top : Path) (wanted : String → Bool) :
    List String → Reading (List StagedFile)
  | [] => return []
  | path :: rest =>
    if !wanted path then readFiles runner p top wanted rest
    else
      match p.readable? (top.under path).toString with
      | .error fault => throw (.fault fault)
      | .ok none => readFiles runner p top wanted rest
      | .ok (some text) => do
        let diff ← run runner (diffCommand path)
        let more ← readFiles runner p top wanted rest
        return ⟨path, text, diff⟩ :: more

/-- The staged files that are wanted and readable. -/
def files (runner : CommandRunner) (p : Project) (wanted : String → Bool) :
    Reading (List StagedFile) := do
  let top ← run runner topCommand
  let listing ← run runner namesCommand
  readFiles runner p (.ofString (String.ofList (Text.trim top))) wanted (listedPaths listing)

/-- The staged files, and the commands that were run in their order. -/
def read (runner : CommandRunner) (p : Project) (wanted : String → Bool) :
    Except StagingError (List StagedFile) × List (List String) :=
  (files runner p wanted).run.run []

end Staging

end UxLint
