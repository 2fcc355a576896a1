import UxLint.Report.Console

/-!
# Status lines

While it works, the program tells what it does in lines on the stream for messages. Every line is
logged too, without its style; details are only logged.
-/

set_option autoImplicit false

namespace UxLint

/-- How much a logged line matters. -/
inductive LogLevel where
  | debug
  | info
  | warning
  | error
  deriving DecidableEq, Repr

/-- A logged line. -/
structure LogLine where
  /-- Who logs the line. -/
  logger : String
  /-- How much the line matters. -/
  level : LogLevel
  message : String
  deriving DecidableEq, Repr

/-- What a status line amounts to: what is printed and what is logged. -/
structure Notice where
  print : Option Print
  log : LogLine

/-- Who speaks in status lines. -/
structure Announcer where
  name : String
  /-- The color of the name and of the marks of steps. -/
  color : String
  /-- What the program says about itself. -/
  welcome : String

namespace Announcer

/-- Who speaks in the log: the name in lower case, or the root of all speakers if there is no name. -/
def logger (a : Announcer) : String := if a.name == "" then "root" else lowercase a.name

/-- A line on the stream for messages and in the log. -/
def line (a : Announcer) (markup : String) (level : LogLevel) (message : String) : Notice where
  print := some ⟨.messages, .text markup, none⟩
  log := ⟨a.logger, level, message⟩

/-- The line with which the program presents itself. -/
def handshake (a : Announcer) : Notice :=
  a.line ("[bold " ++ a.color ++ "]" ++ a.name ++ "[/] " ++ Markup.escape a.welcome) .info
    (a.name ++ ": " ++ a.welcome)

/-- The line for a step. -/
def step (a : Announcer) (message : String) : Notice :=
  a.line ("[" ++ a.color ++ "]›[/] " ++ Markup.escape message) .info message

/-- The line for an error. -/
def error (a : Announcer) (message : String) : Notice :=
  a.line ("[bold red]✗ " ++ Markup.escape message ++ "[/]") .error message

/-- The line for a warning. -/
def warning (a : Announcer) (message : String) : Notice :=
  a.line ("[yellow]! " ++ Markup.escape message ++ "[/]") .warning message

/-- A detail. -/
def detail (a : Announcer) (message : String) : Notice where
  print := none
  log := ⟨a.logger, .debug, message⟩

end Announcer

/-- The name of a level in the log. -/
def LogLevel.name : LogLevel → String
  | debug => "DEBUG"
  | info => "INFO"
  | warning => "WARNING"
  | error => "ERROR"

end UxLint
