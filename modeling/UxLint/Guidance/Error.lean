import UxLint.Config.Value
import UxLint.Text.Numeral

/-!
# Errors of the registry

The registry of rules is a document, so that every value in it may have an unexpected shape. These are
the shapes that keep it from answering.
-/

set_option autoImplicit false

namespace UxLint

/-- Why the registry cannot answer. -/
inductive GuidanceError where
  /-- An entry is no mapping, so that it has no symbol. -/
  | symbolOf (entry : Value)
  /-- An entry is neither a mapping nor a list. -/
  | notEntries (entry : Value)
  /-- An item of an entry that is a list is no pair but has another length. -/
  | notPair (index length : Nat)
  /-- An item of an entry that is a list has no parts. -/
  | notParts (index : Nat)
  /-- The first part of a pair cannot be a key. -/
  | notKey (part : Value)
  /-- The number of a rule cannot be read. -/
  | notNumber (error : NumeralError)
  deriving BEq

namespace GuidanceError

/-- The name of the kind of error. -/
def kind : GuidanceError → String
  | symbolOf _ => "AttributeError"
  | notEntries _ => "TypeError"
  | notPair _ _ => "ValueError"
  | notParts _ => "TypeError"
  | notKey _ => "TypeError"
  | notNumber _ => "ValueError"

/-- What an error says. -/
def message : GuidanceError → String
  | symbolOf entry => "'" ++ entry.kindName ++ "' object has no attribute 'get'"
  | notEntries entry => "'" ++ entry.kindName ++ "' object is not iterable"
  | notPair index length =>
    "dictionary update sequence element #" ++ toString index ++ " has length " ++ toString length ++
      "; 2 is required"
  | notParts index =>
    "cannot convert dictionary update sequence element #" ++ toString index ++ " to a sequence"
  | notKey part => "unhashable type: '" ++ part.kindName ++ "'"
  | notNumber error => error.message

end GuidanceError

end UxLint
