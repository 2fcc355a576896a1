import UxLint.Config.Defaults
import UxLint.Config.Merge
import UxLint.Config.Settings
import UxLint.Text.Stream

/-!
# Configuration files

The file with the settings of a project is looked for in the directory at hand and in those above
it. The first directory that holds one of the usual files, or else a project file with a section for
this program, ends the search. What the file says is laid over the packaged settings.
-/

set_option autoImplicit false

namespace UxLint

/-- How the texts of documents are read. -/
structure DocumentReader where
  /-- Reads the text of a configuration file, or says what is wrong with it. -/
  configuration : Text → Except String Value
  /-- Reads the text of a project file. -/
  project : Text → Option Value

/-- Why loading the settings failed. -/
inductive LoadError where
  /-- The configuration cannot be used, which is announced to the user. -/
  | config (error : ConfigError)
  /-- Loading broke down. -/
  | fault (fault : Fault)
  deriving BEq

/-- What an error says. -/
def LoadError.message : LoadError → String
  | .config e => e.message
  | .fault f => f.message

namespace ConfigFile

/-- The usual names of configuration files, in the order of trial. -/
def usualNames : List String :=
  ["ux-commit-check.yaml", "ux-commit-check.yml", ".ux-commit-check.yaml"]

/-- The name of project files. -/
def projectName : String := "pyproject.toml"

/-- The section for this program in the document of a project file. -/
def section? (document : Value) : Except LoadError (Option (List (String × Value))) :=
  match Value.lookup (document.entries?.getD []) "tool" with
  | none => .ok none
  | some (.mapping tools) => .ok ((Value.lookup tools toolName).bind Value.entries?)
  | some tools => if tools.isTruthy then .error (.fault (.noEntries tools)) else .ok none

/-- The section for this program in a project file that was opened. A file that the file system does not
hand out or that is not well-formed holds none. -/
def projectSection? (reader : DocumentReader) (path : String)
    (opened : Except FileError (List UInt8)) : Except LoadError (Option (List (String × Value))) :=
  match opened with
  | .error e => if e.isOfFileSystem then .ok none else .error (.fault (.file path e))
  | .ok octets =>
    match Text.fault? octets with
    | some fault => .error (.fault (.notText fault))
    | none =>
      match reader.project (Text.decode octets) with
      | none => .ok none
      | some document => section? document

/-- The document that the text of a configuration file holds. What the file holds that a project starts
from is known without reading it. -/
def documentOf (reader : DocumentReader) (text : Text) : Except String Value :=
  if text == Defaults.fileText.toList then .ok (.mapping Defaults.entries)
  else reader.configuration text

/-- The entries of a configuration file that was opened; `path` is how messages name the file. -/
def readEntries (reader : DocumentReader) (path : String)
    (opened : Except FileError (List UInt8)) : Except LoadError (List (String × Value)) :=
  match opened with
  | .error e =>
    .error (if e.isOfFileSystem then .config (.unreadable path e) else .fault (.file path e))
  | .ok octets =>
    match Text.streamFault? octets with
    | some fault => .error (.fault (.notText fault))
    | none =>
      match documentOf reader (Text.unifyLineFeeds (Text.decode octets)) with
      | .error reason => .error (.config (.malformed path reason))
      | .ok .null => .ok []
      | .ok (.mapping entries) => .ok entries
      | .ok _ => .error (.config (.fileNotMapping path))

/-- The entries of a file of either kind. -/
def readFile (reader : DocumentReader) (path name : String)
    (opened : Except FileError (List UInt8)) : Except LoadError (List (String × Value)) :=
  if name == projectName then
    match projectSection? reader path opened with
    | .error e => .error e
    | .ok none => .error (.config (.noSection path))
    | .ok (some entries) => .ok entries
  else readEntries reader path opened

/-- Whether a row of names leads from the top directory to a file. -/
def isFileAt (p : Project) (names : List String) : Except LoadError Bool :=
  (p.isFileAt names).mapError .fault

/-- The first of several rows of names that leads to a file. -/
def firstFile? (p : Project) : List (List String) → Except LoadError (Option (List String))
  | [] => .ok none
  | names :: rest => do
    if ← isFileAt p names then return some names
    firstFile? p rest

/-- The file with the settings in one directory. -/
def inDirectory? (reader : DocumentReader) (p : Project) (directory : List String) :
    Except LoadError (Option (List String)) := do
  match ← firstFile? p (usualNames.map fun name => directory ++ [name]) with
  | some names => return some names
  | none =>
    let names := directory ++ [projectName]
    if ← isFileAt p names then
      let found ← projectSection? reader (Project.complete names).toString (p.octetsAt names)
      return found.map fun _ => names
    return none

/-- The file with the settings in the directory that a row of names leads to, the last name first, or
in the nearest one above. -/
def search? (reader : DocumentReader) (p : Project) :
    List String → Except LoadError (Option (List String))
  | [] => inDirectory? reader p []
  | name :: above =>
    match inDirectory? reader p (name :: above).reverse with
    | .ok none => search? reader p above
    | found => found

/-- The file with the settings as seen from a directory. -/
def find? (reader : DocumentReader) (p : Project) (start : String) :
    Except LoadError (Option (List String)) := do
  let names ← (p.resolve start).mapError .fault
  search? reader p names.reverse

/-- The entries of the file that a path leads to. -/
def read (reader : DocumentReader) (p : Project) (path : String) :
    Except LoadError (List (String × Value)) :=
  let written : Path := .ofString path
  readFile reader written.toString written.name (p.octets path)

end ConfigFile

namespace Settings

/-- The settings that entries give when they are laid over the packaged ones. -/
def ofEntries (entries : List (String × Value)) : Except LoadError Settings :=
  (Settings.read (.mapping (Value.merge Defaults.entries entries))).mapError .config

/-- The entries of the file that was asked for or, if none was, of the file that a search finds. -/
def loadEntries (reader : DocumentReader) (p : Project) (path : Option String) (start : String) :
    Except LoadError (List (String × Value)) := do
  match path with
  | some path =>
    if ← (p.isFile path).mapError .fault then ConfigFile.read reader p path
    else throw (.config (.noFile path))
  | none =>
    match ← ConfigFile.find? reader p start with
    | none => throw (.config .noneFound)
    | some names =>
      ConfigFile.readFile reader (Project.complete names).toString (names.getLast?.getD "")
        (p.octetsAt names)

/-- Loads the settings of a run. -/
def load (reader : DocumentReader) (p : Project) (path : Option String) (start : String) :
    Except LoadError Settings := do
  ofEntries (← loadEntries reader p path start)

end Settings

end UxLint
