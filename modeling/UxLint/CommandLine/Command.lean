import UxLint.CommandLine.Options
import UxLint.Project.Path

/-!
# Commands

What a user can ask for, and how the words of a command line say it.
-/

set_option autoImplicit false

namespace UxLint.CommandLine

/-- How files are checked. -/
structure CheckOptions where
  /-- The configuration file that was asked for. -/
  config : Option String
  format : String
  /-- Whether details are logged. -/
  verbose : Bool
  deriving DecidableEq, Repr

/-- What a user asks for. -/
inductive Command where
  /-- Check the staged files. -/
  | check (options : CheckOptions)
  /-- Check files as if they were new. -/
  | files (options : CheckOptions) (paths : List String)
  /-- List the rules. -/
  | rules (config : Option String)
  /-- Explain a rule. -/
  | explain (asked : String)
  /-- Write a configuration file. -/
  | start (force : Bool)
  /-- Tell the version. -/
  | version
  /-- Tell how the program is used. -/
  | help
  deriving DecidableEq, Repr

/-- The option that asks for help, which every command knows. -/
def helpOption : OptionSpec := ⟨"--help", none, false⟩

/-- The option for the configuration file. -/
def configOption : OptionSpec := ⟨"--config", some 'c', true⟩

/-- The option for the format of the report. -/
def formatOption : OptionSpec := ⟨"--format", some 'f', true⟩

/-- The option for logging details. -/
def verboseOption : OptionSpec := ⟨"--verbose", some 'v', false⟩

/-- The option for overwriting a file. -/
def forceOption : OptionSpec := ⟨"--force", none, false⟩

/-- The options of the commands that check files. -/
def checkSpecs : List OptionSpec := [configOption, formatOption, verboseOption, helpOption]

/-- The path of the configuration file that was asked for. -/
def configOf (w : Words) : Option String :=
  (w.value? configOption.name).map fun path => (Path.ofString path).toString

/-- How files are to be checked. -/
def checkOptionsOf (w : Words) : CheckOptions where
  config := configOf w
  format := (w.value? formatOption.name).getD "text"
  verbose := w.has verboseOption.name

/-- Refuses the first of several paths that holds a null character. -/
def checkPaths (paths : List String) : Except UsageError Unit :=
  match paths.find? fun path => path.toList.contains '\x00' with
  | some path => .error (.nullInPath path)
  | none => .ok ()

/-- What a command without arguments asks for. The path of the configuration file is looked at before
the arguments are. -/
def plain (command : Words → Command) (w : Words) : Except UsageError Command := do
  checkPaths (w.value? configOption.name).toList
  match w.arguments with
  | [] => return command w
  | word :: _ => throw (.extraArgument word)

/-- What the command for files asks for. -/
def readFiles (w : Words) : Except UsageError Command := do
  checkPaths ((w.value? configOption.name).toList ++ w.arguments)
  if w.arguments.isEmpty then throw .noArgument
  return .files (checkOptionsOf w) w.arguments

/-- What the command for explanations asks for. -/
def readExplain (w : Words) : Except UsageError Command :=
  match w.arguments with
  | [] => .error .noArgument
  | [asked] => .ok (.explain asked)
  | _ :: word :: _ => .error (.extraArgument word)

/-- The options of a command and what its words ask for. -/
def commandOf? : String → Option (List OptionSpec × (Words → Except UsageError Command))
  | "check" => some (checkSpecs, plain fun w => .check (checkOptionsOf w))
  | "files" => some (checkSpecs, readFiles)
  | "rules" => some ([configOption, helpOption], plain fun w => .rules (configOf w))
  | "explain" => some ([helpOption], readExplain)
  | "init" => some ([forceOption, helpOption], plain fun w => .start (w.has forceOption.name))
  | "version" => some ([helpOption], plain fun _ => .version)
  | _ => none

/-- What the words behind the name of a command ask for. A call for help wins over missing and
superfluous arguments, but not over unknown options. -/
def readNamed (name : String) (words : List String) : Except UsageError Command :=
  match commandOf? name with
  | none => .error (.unknownCommand name)
  | some (specs, read) => do
    let w ← readWords specs true words
    if w.has helpOption.name then return .help
    read w

/-- What the words of a command line ask for. -/
def Command.read (words : List String) : Except UsageError Command := do
  let w ← readWords [helpOption] false words
  if w.has helpOption.name then return .help
  match w.arguments with
  | [] => throw .noCommand
  | name :: rest => readNamed name rest

end UxLint.CommandLine
