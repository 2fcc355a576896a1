import UxLint.Config.Value
import UxLint.Project.Tree
import UxLint.Text.Glob

/-!
# Settings

The settings of a run are read from one configuration document. Reading stops at the first item that
has the wrong shape: the sections of the rules come first, in the order of the rules, then the
section that concerns all of them.
-/

set_option autoImplicit false

namespace UxLint

/-- Why a configuration cannot be used. -/
inductive ConfigError where
  | rootNotMapping
  /-- The item under a dotted key is no mapping. -/
  | notMapping (key : String)
  /-- The item under a dotted key is no list of strings. -/
  | notStrings (key : String)
  /-- The item under a dotted key is no string or an empty one. -/
  | notName (key : String)
  /-- The configuration file that was asked for is no file. -/
  | noFile (path : String)
  /-- There is no configuration file at all. -/
  | noneFound
  /-- The project file holds no section for this program. -/
  | noSection (path : String)
  | unreadable (path : String) (error : FileError)
  /-- The file is not well-formed, for the reason that is given. -/
  | malformed (path reason : String)
  /-- The file holds something else than a mapping. -/
  | fileNotMapping (path : String)
  deriving DecidableEq, Repr

/-- The name of the program's section in a project file. -/
def toolName : String := "ux-commit-check"

/-- What an error says. -/
def ConfigError.message : ConfigError → String
  | rootNotMapping => "configuration root must be a mapping"
  | notMapping key => "'" ++ key ++ "' must be a mapping"
  | notStrings key => "'" ++ key ++ "' must be a list of strings"
  | notName key => "'" ++ key ++ "' must be a non-empty string"
  | noFile path => "config file not found: " ++ path
  | noneFound =>
    "no configuration found (ux-commit-check.yaml or [tool.ux-commit-check] in " ++
      "pyproject.toml); run 'ux-commit-check init' to create one"
  | noSection path => path ++ " has no [tool." ++ toolName ++ "] table"
  | unreadable path error => "cannot read " ++ path ++ ": " ++ error.message path
  | malformed path reason => "invalid YAML in " ++ path ++ ": " ++ reason
  | fileNotMapping path => path ++ " must contain a mapping at the top level"

/-- The settings of one rule. -/
structure RuleSettings where
  number : Nat
  enabled : Bool
  /-- The words that exempt what they occur in. -/
  whitelistKeywords : List String
  /-- The path patterns that exempt files. -/
  whitelistPaths : List String
  /-- The word lists of the rule by their names. -/
  customKeywords : List (String × List String)

namespace RuleSettings

/-- The settings of a rule for which nothing is configured. -/
def plain (number : Nat) : RuleSettings := ⟨number, true, [], [], []⟩

/-- The word list of the given name; empty if there is none. -/
def keywords (s : RuleSettings) (name : String) : List String :=
  ((s.customKeywords.find? fun e => e.1 == name).map (·.2)).getD []

/-- Whether a path is exempt. -/
def isPathWhitelisted (s : RuleSettings) (path : String) : Bool :=
  s.whitelistPaths.any fun pattern => pathMatches path pattern

/-- The first exempting word that occurs in a text, whatever the case of either. -/
def matchingKeyword? (s : RuleSettings) (t : Text) : Option String :=
  let lowered := Text.lower t
  s.whitelistKeywords.find? fun word =>
    word != "" && Text.holds (Text.lower word.toList) lowered

/-- Whether an exempting word occurs in a string. -/
def exempts (s : RuleSettings) (name : String) : Bool := (s.matchingKeyword? name.toList).isSome

end RuleSettings

/-- The settings of a run. -/
structure Settings where
  /-- The settings of the rules one to five. -/
  rules : List RuleSettings
  /-- The endings of the paths that are checked; any if there are none. -/
  fileExtensions : List String
  /-- The path patterns that exclude files. -/
  ignore : List String
  /-- The name of the function that declares actions. -/
  declareFunction : String
  /-- Whether a fault of a rule is reported. -/
  failOnError : Bool

namespace Settings

/-- The numbers of the rules. -/
def ruleNumbers : List Nat := [1, 2, 3, 4, 5]

/-- The name of the declaring function where none is configured. -/
def defaultDeclareFunction : String := "declareRequest"

/-- The settings of a rule; every setting has its default for a number that is no rule. -/
def rule (s : Settings) (number : Nat) : RuleSettings :=
  (s.rules.find? fun r => r.number == number).getD (.plain number)

/-- The strings of a list that holds nothing else. -/
def strings? : List Value → Option (List String)
  | [] => some []
  | .string s :: rest => (strings? rest).map (s :: ·)
  | _ :: _ => none

/-- The list of strings under a key, empty if it is missing; `place` is the dotted name of the
section. -/
def readStrings (section_ : List (String × Value)) (key place : String) :
    Except ConfigError (List String) :=
  match Value.lookup section_ key with
  | none => .ok []
  | some .null => .ok []
  | some (.list items) =>
    match strings? items with
    | some ss => .ok ss
    | none => .error (.notStrings (place ++ "." ++ key))
  | some _ => .error (.notStrings (place ++ "." ++ key))

/-- The mapping under a key, empty if what is there counts as false. -/
def readMapping (section_ : List (String × Value)) (key name : String) :
    Except ConfigError (List (String × Value)) :=
  match Value.lookup section_ key with
  | none => .ok []
  | some (.mapping entries) => .ok entries
  | some v => if v.isTruthy then .error (.notMapping name) else .ok []

/-- Whether the value under a key counts as true; `missing` where there is none. -/
def readSwitch (section_ : List (String × Value)) (key : String) (missing : Bool) : Bool :=
  match Value.lookup section_ key with
  | none => missing
  | some v => v.isTruthy

/-- Reads the word lists of a rule. -/
def readKeywords (place : String) (entries : List (String × Value)) :
    Except ConfigError (List (String × List String)) :=
  entries.mapM fun e => do
    let words ← readStrings entries e.1 place
    return (e.1, words)

/-- Reads the section of a rule. -/
def readRule (root : List (String × Value)) (number : Nat) : Except ConfigError RuleSettings := do
  let name := "rule" ++ toString number
  let section_ ←
    match Value.lookup root name with
    | none => pure []
    | some .null => pure []
    | some (.mapping entries) => pure entries
    | some _ => throw (ConfigError.notMapping name)
  let whitelist ← readMapping section_ "whitelist" (name ++ ".whitelist")
  let custom ← readMapping section_ "customKeywords" (name ++ ".customKeywords")
  let keywords ← readStrings whitelist "keywords" (name ++ ".whitelist")
  let paths ← readStrings whitelist "paths" (name ++ ".whitelist")
  let words ← readKeywords (name ++ ".customKeywords") custom
  return ⟨number, readSwitch section_ "enabled" true, keywords, paths, words⟩

/-- Reads the name of the declaring function. -/
def readDeclareFunction (section_ : List (String × Value)) : Except ConfigError String :=
  match Value.lookup section_ "declareRequestFunction" with
  | none => .ok defaultDeclareFunction
  | some (.string s) =>
    if s == "" then .error (.notName "global.declareRequestFunction") else .ok s
  | some _ => .error (.notName "global.declareRequestFunction")

/-- Reads the settings of a run from a document. -/
def read (document : Value) : Except ConfigError Settings := do
  let root ←
    match document with
    | .mapping entries => pure entries
    | _ => throw ConfigError.rootNotMapping
  let rules ← ruleNumbers.mapM (readRule root)
  let common ← readMapping root "global" "global"
  let extensions ← readStrings common "fileExtensions" "global"
  let ignore ← readStrings common "ignore" "global"
  let declare ← readDeclareFunction common
  return ⟨rules, extensions, ignore, declare, readSwitch common "failOnError" false⟩

/-- Whether a path is checked: it has one of the endings and no pattern excludes it. -/
def accepts (s : Settings) (path : String) : Bool :=
  let p := String.ofList (slashed path.toList)
  if !s.fileExtensions.isEmpty && !s.fileExtensions.any (endsWith p) then false
  else !s.ignore.any fun pattern => pathMatches p pattern

end Settings

end UxLint
