import UxLint.Text.Search

/-!
# Documents

The values that a configuration document holds once it is parsed. A mapping keeps its entries in the order in
which they were written, with no key twice. Two kinds of values that a parser may know are left out, since no
setting takes them: dates and times, and keys that are no strings.
-/

set_option autoImplicit false

namespace UxLint

/-- A value of a configuration document. -/
inductive Value where
  | null
  | bool (b : Bool)
  | whole (n : Int)
  /-- A number with a fraction or an exponent, in the form in which the parsed number is printed. -/
  | decimal (written : String)
  | string (s : String)
  | list (items : List Value)
  | mapping (entries : List (String × Value))
  deriving Inhabited, BEq

namespace Value

/-- The value under a key. -/
def lookup (entries : List (String × Value)) (key : String) : Option Value :=
  (entries.find? fun e => e.1 == key).map (·.2)

/-- The entries with `value` under `key`: in its old place, or last if the key is new. -/
def put (key : String) (value : Value) : List (String × Value) → List (String × Value)
  | [] => [(key, value)]
  | e :: rest => if e.1 == key then (key, value) :: rest else e :: put key value rest

/-- Whether the digits of a printed number are all zero up to its exponent. -/
def isZeroWritten (written : String) : Bool :=
  (written.toList.takeWhile fun c => c != 'e' && c != 'E').all fun c =>
    c == '0' || c == '.' || c == '-' || c == '+'

/-- Whether a value counts as true: everything does but the absent value, false, zero and what is
empty. -/
def isTruthy : Value → Bool
  | null => false
  | bool b => b
  | whole n => n != 0
  | decimal w => !isZeroWritten w
  | string s => !s.isEmpty
  | list items => !items.isEmpty
  | mapping entries => !entries.isEmpty

/-- The entries of a mapping. -/
def entries? : Value → Option (List (String × Value))
  | mapping entries => some entries
  | _ => none

/-- The string that a value is. -/
def string? : Value → Option String
  | string s => some s
  | _ => none

/-- The name of the kind of a value, as messages give it. -/
def kindName : Value → String
  | null => "NoneType"
  | bool _ => "bool"
  | whole _ => "int"
  | decimal _ => "float"
  | string _ => "str"
  | list _ => "list"
  | mapping _ => "dict"

/-- The items of a list. -/
def items? : Value → Option (List Value)
  | list items => some items
  | _ => none

end Value

end UxLint
