import UxLint.Action.Resolver
import UxLint.CommandLine.Command
import UxLint.Config.Load
import UxLint.Guidance.Packaged
import UxLint.Report.Json
import UxLint.Report.Terminal
import UxLint.Services
import UxLint.Staging
import UxLint.Status

/-!
# Runs of the program

A run takes the words of a command line to what is printed, to how it ends and to the file tree
afterwards. It ends with a code for the caller: zero if all is well, one if a rule is violated or the run
fails, and two if the words make no sense. What nobody answers for ends it with a fault.
-/

set_option autoImplicit false

namespace UxLint.CommandLine

/-- What a run works with. -/
structure Environment where
  grammars : Grammars
  documents : DocumentReader
  runner : CommandRunner
  registry : Registry
  project : Project

/-- Something that a run puts out. -/
inductive Output where
  | print (p : Print)
  /-- A plain text on the stream for results. -/
  | text (s : String)
  | log (l : LogLine)

/-- How a run ends. -/
inductive Ending where
  /-- With a code for the caller. -/
  | code (n : Nat)
  | fault (fault : Fault)

/-- What comes of a run. -/
structure Outcome where
  ending : Ending
  /-- What was put out, in its order. -/
  outputs : List Output
  project : Project

/-- The program as it presents itself. -/
def announcer : Announcer := ⟨"UX-CHECK", "cyan", "pre-commit UI/UX checks"⟩

/-- The version of the program. -/
def versionText : String := "1.2.0"

/-- What a status line puts out. -/
def announced (n : Notice) : List Output := (n.print.map Output.print).toList ++ [.log n.log]

/-- A plain line. -/
def plainLine (s : String) : Output := .text (s ++ "\n")

namespace Outcome

/-- The outcome with more put out before it. -/
def after (outputs : List Output) (o : Outcome) : Outcome :=
  { o with outputs := outputs ++ o.outputs }

end Outcome

namespace Environment

/-- A run that leaves the files as they are. -/
def ends (env : Environment) (code : Nat) (outputs : List Output) : Outcome :=
  ⟨.code code, outputs, env.project⟩

/-- A run that ends with an error for the user. -/
def fails (env : Environment) (message : String) : Outcome :=
  env.ends 1 (announced (announcer.error message))

/-- A run that breaks down without a word to the user. -/
def breaksDown (env : Environment) (fault : Fault) : Outcome := ⟨.fault fault, [], env.project⟩

/-- Goes on with the settings of the project. -/
def withSettings (env : Environment) (config : Option String) (goOn : Settings → Outcome) :
    Outcome :=
  match Settings.load env.documents env.project config "." with
  | .ok settings => goOn settings
  | .error (.config e) => env.fails ("Configuration error: " ++ e.message)
  | .error (.fault fault) => env.breaksDown fault

/-- The resolver of a run; its root is the current directory by its complete path. -/
def resolver (env : Environment) (settings : Settings) : Resolver where
  grammars := env.grammars
  project := env.project
  root := Project.complete env.project.current
  declareFunction := settings.declareFunction

/-- What the rules find in some files. -/
def check (env : Environment) (settings : Settings) (files : List StagedFile) : CheckResult :=
  let reader : SourceReader := fun path t => .ok (SourceUnit.read? env.grammars path t)
  let evaluators := Evaluator.all settings (some (env.resolver settings).asLookup)
  ((Checker.mk settings reader evaluators).check files |>.run []).1

/-- What a report puts out. -/
def report (env : Environment) (format : String) (r : CheckResult) :
    Except GuidanceError (List Output) :=
  if Services.reportKey format == Services.machineReport then
    .ok [plainLine (JsonReport.render r.violations)]
  else (TerminalReport.render (some env.registry) r).map fun prints => prints.map .print

/-- Checks files and reports what was found. -/
def checkAndReport (env : Environment) (settings : Settings) (format : String)
    (files : List StagedFile) : Outcome :=
  let result := env.check settings files
  match env.report format result with
  | .error e => env.breaksDown (.guidance e)
  | .ok outputs => env.ends (if result.hasViolations then 1 else 0) outputs

/-- Checks the staged files. -/
def checkStaged (env : Environment) (options : CheckOptions) : Outcome :=
  env.withSettings options.config fun settings =>
    let opening := announced announcer.handshake
    match (Staging.read env.runner env.project settings.accepts).1 with
    | .error (.fault fault) => (env.breaksDown fault).after opening
    | .error e => (env.fails ("Cannot read the staging area: " ++ e.message)).after opening
    | .ok [] =>
      env.ends 0 (opening ++ announced (announcer.step "No staged front-end files to check."))
    | .ok files =>
      let step := announcer.step ("Checking " ++ toString files.length ++ " staged file(s)...")
      (env.checkAndReport settings options.format files).after (opening ++ announced step)

/-- Reads the files that are to be checked as if they were new, with a warning for each one that cannot
be read. -/
def readNew (env : Environment) : List String → List StagedFile × List Output
  | [] => ([], [])
  | path :: rest =>
    let (files, warnings) := env.readNew rest
    match env.project.read path with
    | .ok text => (⟨path, text, []⟩ :: files, warnings)
    | .error e =>
      let warning := announcer.warning ("Cannot read " ++ path ++ ": " ++ e.message path)
      (files, announced warning ++ warnings)

/-- Checks the files among some found ones that are accepted, as if they were new. -/
def checkFound (env : Environment) (settings : Settings) (format : String) (found : List String) :
    Outcome :=
  let (files, warnings) := env.readNew (found.filter settings.accepts)
  let step := announcer.step ("Checking " ++ toString files.length ++ " file(s)...")
  (env.checkAndReport settings format files).after (warnings ++ announced step)

/-- Checks files as if they were new. -/
def checkNew (env : Environment) (options : CheckOptions) (paths : List String) : Outcome :=
  env.withSettings options.config fun settings =>
    match env.project.collectAll paths with
    | .error fault => env.breaksDown fault
    | .ok found => env.checkFound settings options.format found

/-- The text under a key of the entry of a rule, empty if there is none. -/
def symbolOf (env : Environment) (number : Nat) : Except GuidanceError String :=
  (env.registry.entry? number).map fun entry =>
    ((Value.lookup (entry.getD []) "symbol").map Value.display).getD ""

/-- The line for a rule in the list of the rules. -/
def ruleLine (settings : Settings) (number : Nat) (symbol : String) : String :=
  ruleKey number ++ "  [" ++ (if (settings.rule number).enabled then "on " else "off") ++ "]  " ++
    ruleLabel number ++ "  (" ++ symbol ++ ")"

/-- Lists the rules; what was listed before a rule whose entry is no entry stays listed. -/
def listRules (env : Environment) (settings : Settings) : List Nat → Outcome
  | [] => env.ends 0 []
  | number :: rest =>
    match env.symbolOf number with
    | .error e => env.breaksDown (.guidance e)
    | .ok symbol =>
      (env.listRules settings rest).after [plainLine (ruleLine settings number symbol)]

/-- The lines that explain a rule. -/
def explanation (env : Environment) (number : Nat) : Except GuidanceError (List String) := do
  let entry := (← env.registry.entry? number).getD []
  let name ← env.registry.displayName number
  let instructions ← env.registry.instructions number
  let sentence :=
    match Value.lookup entry "short_description" with
    | none => []
    | some v => if v.isTruthy then [v.display] else []
  let references := ((Value.lookup entry "references").bind Value.items?).getD []
  return [ruleKey number ++ ": " ++ name] ++ sentence ++ ["", instructions] ++
    references.map fun v => "  see: " ++ v.display

/-- Explains a rule. -/
def explain (env : Environment) (asked : String) : Outcome :=
  match env.registry.find? asked with
  | .error e => env.breaksDown (.guidance e)
  | .ok none => env.fails ("Unknown rule: " ++ asked)
  | .ok (some number) =>
    match env.explanation number with
    | .error e => env.breaksDown (.guidance e)
    | .ok lines => env.ends 0 (lines.map plainLine)

/-- The name of the file that a project starts from. -/
def startName : String := ConfigFile.usualNames.headD ""

/-- The complete path of the file that a project starts from. -/
def startPath (env : Environment) : String :=
  (Project.complete (env.project.current ++ [startName])).toString

/-- Writes the file that a project starts from. -/
def writeStart (env : Environment) (force : Bool) : Outcome :=
  match env.project.isFile env.startPath with
  | .error fault => env.breaksDown fault
  | .ok there =>
    if there && !force then
      env.fails (startName ++ " already exists (use --force to overwrite).")
    else
      match env.project.write env.startPath Defaults.fileText.toList with
      | .error e => env.breaksDown (.file env.startPath e)
      | .ok project => ⟨.code 0, announced (announcer.step ("Wrote " ++ startName)), project⟩

/-- Does what a user asks for. -/
def perform (env : Environment) : Command → Outcome
  | .check options => env.checkStaged options
  | .files options paths => env.checkNew options paths
  | .rules config => env.withSettings config fun s => env.listRules s Settings.ruleNumbers
  | .explain asked => env.explain asked
  | .start force => env.writeStart force
  | .version => env.ends 0 [plainLine versionText]
  | .help => env.ends 0 []

/-- Runs the program with the words of a command line. -/
def run (env : Environment) (words : List String) : Outcome :=
  match Command.read words with
  | .error (.nullInPath path) => env.breaksDown (.file path .nullCharacter)
  | .error _ => env.ends 2 []
  | .ok command => env.perform command

end Environment

end UxLint.CommandLine
