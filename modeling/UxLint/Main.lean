import UxLint.CommandLine.Session

/-!
# The program

The paths of the files of a project are read from standard input, one a line. The command line is run
on these files, and what comes of it is put out. No grammars are linked in: scripts are checked by
their text alone, and of the configuration files only the packaged one is known.
-/

set_option autoImplicit false

namespace UxLint.Program

open CommandLine

/-- The lines of a stream that are not empty. -/
partial def readLines (input : IO.FS.Stream) : IO (List String) := do
  let line ← input.getLine
  if line.isEmpty then return []
  let rest ← readLines input
  let name := String.ofList (Text.trim line.toList)
  return if name == "" then rest else name :: rest

/-- What a path leads to. A file that cannot be read is a link that leads nowhere. -/
def readEntry (path : String) : IO Entry := do
  try return .file (← IO.FS.readBinFile path).toList
  catch _ => return .link ""

/-- The names that a path leads along from the top directory of the tree. -/
def namesOf (path : String) : List String :=
  (Project.complete (Path.ofString path).segments).normalize.segments

/-- The tree of the files with the given paths. -/
def readProject (paths : List String) : IO Project :=
  paths.foldlM (fun p path => return p.place (namesOf path) (← readEntry path)) (.empty [])

/-- How the program is used. -/
def usage : String :=
  "Usage: ux-commit-check check|files|rules|explain|init|version [OPTIONS] [ARGUMENTS]"

/-- The lines in which an item is shown. -/
def shown : Item → List String
  | .text s => [Markup.plain s]
  | .table t =>
    Markup.plain t.title :: t.rows.map fun row => joinStrings " | " (row.map Markup.plain)

/-- Puts something out. -/
def put : Output → IO Unit
  | .text s => IO.print s
  | .log _ => pure ()
  | .print p =>
    match p.stream with
    | .output => (shown p.item).forM fun s => IO.println s
    | .messages => (shown p.item).forM fun s => IO.eprintln s

/-- Writes the file that a project starts from, if the run was to write it. -/
def keep (words : List String) (outcome : Outcome) : IO Unit := do
  match Command.read words, outcome.ending with
  | .ok (.start _), .code 0 => IO.FS.writeFile Environment.startName Defaults.fileText
  | _, _ => pure ()

/-- Says how the program is used, if that was asked for or is not clear. -/
def advise (words : List String) : IO Unit :=
  match Command.read words with
  | .error _ => IO.eprintln usage
  | .ok .help => IO.println usage
  | .ok _ => pure ()

/-- The code for the caller. A fault is told on the stream for messages. -/
def codeOf : Ending → IO UInt32
  | .code n => return n.toUInt32
  | .fault fault => do
    IO.eprintln (fault.kind ++ ": " ++ fault.message)
    return 1

/-- Runs the program. -/
def run (words : List String) : IO UInt32 := do
  let project ← readProject (← readLines (← IO.getStdin))
  let documents : DocumentReader := ⟨fun _ => .error "no reader", fun _ => none⟩
  let env : Environment := ⟨fun _ _ => none, documents, fun _ => .missing, .packaged, project⟩
  advise words
  let outcome := env.run words
  outcome.outputs.forM put
  keep words outcome
  codeOf outcome.ending

end UxLint.Program

/-- The entry point. -/
def main (words : List String) : IO UInt32 := UxLint.Program.run words
