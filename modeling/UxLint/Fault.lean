import UxLint.Guidance.Error
import UxLint.Project.FileError
import UxLint.Text.Utf8

/-!
# Faults

A fault is what no part of the program answers for: a rule that meets one breaks down, and so does a
run of the program, unless somebody above reports it in its own words. A fault has a kind, under which
a report lists it, and a message.
-/

set_option autoImplicit false

namespace UxLint

/-- Why a part of the program broke down. -/
inductive Fault where
  /-- The owner of a bound method was asked for, but the method stands alone. -/
  | missingOwner
  /-- A text is no number, or too long for one. -/
  | numeral (error : NumeralError)
  /-- Something cannot be done with a path. -/
  | file (path : String) (error : FileError)
  /-- The links on a path lead back to where they start. -/
  | linkLoop (path : String)
  /-- A file holds octets that write no text. -/
  | notText (fault : Text.OctetFault)
  /-- A value was asked for its entries, but is no mapping. -/
  | noEntries (value : Value)
  /-- A value was to be laid over a document, but is no mapping. -/
  | noOverlay (value : Value)
  /-- The registry of rules cannot answer. -/
  | guidance (error : GuidanceError)
  /-- A part that was plugged in raised something of its own. -/
  | raised (kind message : String)
  deriving BEq

/-- What is wrong with a run of octets, in words. -/
def OctetFault.message (f : Text.OctetFault) : String :=
  let place :=
    if f.more == 0 then
      "byte 0x" ++ String.ofList (Text.hexDigits 2 f.first.toNat) ++ " in position " ++
        toString f.position
    else
      "bytes in position " ++ toString f.position ++ "-" ++ toString (f.position + f.more)
  let defect :=
    match f.defect with
    | .badStart => "invalid start byte"
    | .badContinuation => "invalid continuation byte"
    | .cutShort => "unexpected end of data"
  "'utf-8' codec can't decode " ++ place ++ ": " ++ defect

namespace Fault

/-- The name of the kind of fault. -/
def kind : Fault → String
  | missingOwner => "IndexError"
  | numeral _ => "ValueError"
  | file _ error => error.kind
  | linkLoop _ => "RuntimeError"
  | notText _ => "UnicodeDecodeError"
  | noEntries _ => "AttributeError"
  | noOverlay _ => "AttributeError"
  | guidance error => error.kind
  | raised kind _ => kind

/-- What the fault says. -/
def message : Fault → String
  | missingOwner => "list index out of range"
  | numeral error => error.message
  | file path error => error.message path
  | linkLoop path => "Symlink loop from " ++ quoted path
  | notText fault => OctetFault.message fault
  | noEntries value => "'" ++ value.kindName ++ "' object has no attribute 'get'"
  | noOverlay value => "'" ++ value.kindName ++ "' object has no attribute 'items'"
  | guidance error => error.message
  | raised _ message => message

end Fault

/-- What a computation yields is known from whether it yields something. -/
theorem eq_ok_of_toOption {ε α : Type} {x : Except ε α} {a : α} (h : x.toOption = some a) : x = .ok a := by
  cases x with
  | error e => cases h
  | ok b => exact congrArg Except.ok (Option.some.inj h)

end UxLint
