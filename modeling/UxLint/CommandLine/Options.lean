import UxLint.Text.Search

/-!
# Options

A command is followed by words. A word that starts with a hyphen and goes on names options: by a long
name, to which a value may be joined with an equals sign, or by letters, the last of which may be
joined by its value. An option that needs a value and has none joined to it takes the next word,
whatever it is. Two hyphens end the options. Every other word is an argument.

This is the usual reading of options, which a command leaves to a parser that is no part of it: the module stands
for that parser, as far as the commands rely on it.
-/

set_option autoImplicit false

namespace UxLint.CommandLine

/-- An option that a command knows. -/
structure OptionSpec where
  /-- The long name, with its hyphens. -/
  name : String
  /-- The letter, if the option has one. -/
  letter : Option Char
  needsValue : Bool
  deriving DecidableEq, Repr

/-- Why words are no use of a command. -/
inductive UsageError where
  /-- There is no command. -/
  | noCommand
  /-- There is no command of that name. -/
  | unknownCommand (name : String)
  /-- The command knows no such option. -/
  | unknownOption (word : String)
  /-- An option that needs a value is the last word. -/
  | noValue (name : String)
  /-- A value is joined to an option that takes none. -/
  | unwantedValue (name : String)
  /-- An argument is missing. -/
  | noArgument
  /-- There is an argument too many. -/
  | extraArgument (word : String)
  /-- A path holds a null character, which nobody can look up. -/
  | nullInPath (path : String)
  deriving DecidableEq, Repr

/-- An option that was used, with its value if it needs one. -/
abbrev Use := String × String

/-- What the words behind a command say. -/
structure Words where
  /-- The options that were used, in their order. -/
  uses : List Use
  arguments : List String
  deriving DecidableEq, Repr

/-- What one word says about options: those it uses, and the one that waits for the next word. -/
structure Named where
  /-- The options that the word uses. -/
  uses : List Use
  /-- The option that needs the next word as its value. -/
  waiting : Option OptionSpec
  deriving DecidableEq, Repr

/-- Reads letters of options; behind a letter whose option needs a value stands the value. -/
def readLetters (known : List OptionSpec) : Text → Except UsageError Named
  | [] => .ok ⟨[], none⟩
  | c :: t =>
    match known.find? fun o => o.letter == some c with
    | none => .error (.unknownOption (String.ofList ['-', c]))
    | some o =>
      if o.needsValue then
        if t.isEmpty then .ok ⟨[], some o⟩ else .ok ⟨[(o.name, String.ofList t)], none⟩
      else (readLetters known t).map fun n => { n with uses := (o.name, "") :: n.uses }

/-- Reads a word that names options. -/
def readWord (known : List OptionSpec) (word : Text) : Except UsageError Named :=
  let (name, joined) :=
    match Text.cutAt? ['='] word with
    | some cut => (cut.1, some cut.2)
    | none => (word, none)
  match known.find? fun o => o.name.toList == name with
  | some o =>
    match o.needsValue, joined with
    | true, some value => .ok ⟨[(o.name, String.ofList value)], none⟩
    | true, none => .ok ⟨[], some o⟩
    | false, some _ => .error (.unwantedValue o.name)
    | false, none => .ok ⟨[(o.name, "")], none⟩
  | none =>
    if ['-', '-'].isPrefixOf word then .error (.unknownOption (String.ofList word))
    else readLetters known (word.drop 1)

/-- Whether a word names options. -/
def namesOptions (word : String) : Bool :=
  match word.toList with
  | '-' :: _ :: _ => true
  | _ => false

/-- Words with more options used before them. -/
def Words.using (uses : List Use) (w : Words) : Words := { w with uses := uses ++ w.uses }

/-- Reads words. The first argument ends the options if `mixed` is false. -/
def readWords (known : List OptionSpec) (mixed : Bool) : List String → Except UsageError Words
  | [] => .ok ⟨[], []⟩
  | word :: rest =>
    if word == "--" then .ok ⟨[], rest⟩
    else if !namesOptions word then
      if mixed then
        (readWords known mixed rest).map fun w => { w with arguments := word :: w.arguments }
      else .ok ⟨[], word :: rest⟩
    else
      match readWord known word.toList with
      | .error e => .error e
      | .ok named =>
        match named.waiting, rest with
        | none, rest => (readWords known mixed rest).map (Words.using named.uses)
        | some o, value :: rest =>
          (readWords known mixed rest).map (Words.using (named.uses ++ [(o.name, value)]))
        | some o, [] => .error (.noValue o.name)

namespace Words

/-- Whether an option was used. -/
def has (w : Words) (name : String) : Bool := w.uses.any fun u => u.1 == name

/-- The value of an option; the last use counts. -/
def value? (w : Words) (name : String) : Option String :=
  (w.uses.reverse.find? fun u => u.1 == name).map (·.2)

end Words

end UxLint.CommandLine
