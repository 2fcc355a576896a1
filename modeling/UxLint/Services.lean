import UxLint.Config.Value

/-!
# Services

The parts that a run works with are kept under keys, so that one of them can be replaced without the
others knowing. What stands under a key that is registered again is what was registered last.
-/

set_option autoImplicit false

namespace UxLint

/-- What stands under a key. -/
inductive Service where
  /-- One of the program's own parts, by the name of its kind. -/
  | part (kind : String)
  /-- A value that was registered from outside. -/
  | value (v : Value)

/-- The name of the kind of a service. -/
def Service.kindName : Service → String
  | part kind => kind
  | value v => v.kindName

/-- A key under which nothing stands. -/
structure MissingService where
  key : String
  deriving DecidableEq, Repr

/-- What an error says. -/
def MissingService.message (e : MissingService) : String :=
  "Dependency '" ++ e.key ++ "' not registered."

/-- The services of a run by their keys. -/
structure Services where
  /-- What stands under the keys; of two entries with one key the first one counts. -/
  entries : List (String × Service)

namespace Services

/-- The key of the report for machines. -/
def machineReport : String := "JsonCheckReporter"

/-- The key of the report for a terminal. -/
def terminalReport : String := "TerminalCheckReporter"

/-- The keys of the program's own parts with the names of their kinds. -/
def ownParts : List (String × String) :=
  [("TelemetryPort", "ProjectTelemetry"), ("ConfigFileLoader", "ConfigFileLoader"),
    ("TreeSitterGateway", "TreeSitterGateway"), ("FileSystemGateway", "FileSystemGateway"),
    ("GitGateway", "GitGateway"), ("GuidanceService", "GuidanceService"),
    (terminalReport, terminalReport), (machineReport, machineReport)]

/-- The program's own parts. -/
def own : Services := ⟨ownParts.map fun p => (p.1, .part p.2)⟩

/-- The services with another one under a key. -/
def register (s : Services) (key : String) (service : Service) : Services :=
  ⟨(key, service) :: s.entries⟩

/-- What stands under a key. -/
def get (s : Services) (key : String) : Except MissingService Service :=
  match s.entries.find? fun e => e.1 == key with
  | none => .error ⟨key⟩
  | some e => .ok e.2

/-- The key of the report in a format: any format but one is for a terminal. -/
def reportKey (format : String) : String :=
  if format == "json" then machineReport else terminalReport

/-- The report in a format. -/
def report (s : Services) (format : String) : Except MissingService Service :=
  s.get (reportKey format)

end Services

/-- Whether services are shared and how many were made so far; each has the number of its making. -/
structure SharedServices where
  /-- How many services were made. -/
  made : Nat
  /-- The number of the services that are shared. -/
  shared : Option Nat

namespace SharedServices

/-- Nothing was made yet. -/
def start : SharedServices := ⟨0, none⟩

/-- The number of the shared services, which are made if none are. -/
def get (s : SharedServices) : Nat × SharedServices :=
  match s.shared with
  | some n => (n, s)
  | none => (s.made, ⟨s.made + 1, some s.made⟩)

/-- Gives the shared services up. -/
def reset (s : SharedServices) : SharedServices := { s with shared := none }

end SharedServices

end UxLint
