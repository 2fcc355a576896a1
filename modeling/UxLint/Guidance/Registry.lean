import UxLint.Config.Display
import UxLint.Guidance.Error
import UxLint.Text.Blank
import UxLint.Text.DecimalNumber

/-!
# The registry of rules

The registry holds for each rule what a user needs to know about it. It is a document, so that every
value in it may have an unexpected shape. A rule is asked for by its number or by its symbol.
-/

set_option autoImplicit false

namespace UxLint

/-- The short descriptions of the rules; rule zero stands for faults of the checker itself. -/
def ruleLabels : List (Int × String) :=
  [(0, "检查器内部错误"), (1, "防重复提交缺失"), (2, "首次进入页面缺失 loading 状态"),
    (3, "接口操作成功后缺失轻提示"), (4, "非 Table 列表缺失自定义空状态"),
    (5, "表单输入项缺失 placeholder 提示")]

/-- The key under which the registry holds a rule. -/
def ruleKey (number : Int) : String := "rule" ++ toString number

/-- The short description of a rule, or its key if it has none. -/
def ruleLabel (number : Int) : String :=
  ((ruleLabels.find? fun l => l.1 == number).map (·.2)).getD (ruleKey number)

/-- What is known about the rules. -/
structure Registry where
  /-- The entries by their keys. -/
  entries : List (String × Value)

namespace Registry

/-- The registry that a document holds; a document of another shape holds no entries. -/
def ofDocument (document : Value) : Registry := ⟨document.entries?.getD []⟩

/-- The keys in increasing order. -/
def keys (r : Registry) : List String := (r.entries.map (·.1)).mergeSort fun a b => decide (a ≤ b)

/-- What the keys of pairs are compared by. A truth value is the number one or zero. -/
inductive KeyIdentity where
  | word (s : String)
  | absent
  /-- A number, by its sign and its size. -/
  | number (negative : Bool) (size : DecimalNumber)
  /-- A number that is written in an unusual way. -/
  | unusual (written : String)
  deriving DecidableEq, Repr

/-- The identity of a number; zero has no sign. -/
def numberIdentity (negative : Bool) (size : DecimalNumber) : KeyIdentity :=
  .number (negative && size.mantissa != 0) size.reduced

/-- The identity of a number as written. -/
def decimalIdentity (written : String) : KeyIdentity :=
  let digits := written.toList
  match DecimalNumber.read? (if ['-'].isPrefixOf digits then digits.drop 1 else digits) with
  | none => .unusual written
  | some size => numberIdentity (['-'].isPrefixOf digits) size

/-- The key of a pair. -/
structure PairKey where
  /-- What the key is compared by. -/
  identity : KeyIdentity
  spelling : String
  deriving DecidableEq, Repr

/-- The key that the first part of a pair is. -/
def keyOf : Value → Except GuidanceError PairKey
  | .string s => .ok ⟨.word s, s⟩
  | .null => .ok ⟨.absent, "null"⟩
  | .bool b => .ok ⟨numberIdentity false ⟨b.toNat, 0⟩, if b then "true" else "false"⟩
  | .whole n => .ok ⟨numberIdentity (n < 0) ⟨n.natAbs, 0⟩, toString n⟩
  | .decimal w => .ok ⟨decimalIdentity w, w⟩
  | v => .error (.notKey v)

/-- The key and the value that an item of a list writes. -/
def pairOf (index : Nat) : Value → Except GuidanceError (PairKey × Value)
  | .list [key, value] => (keyOf key).map fun k => (k, value)
  | .list items => .error (.notPair index items.length)
  | .string s =>
    match s.toList with
    | [a, b] => .ok (⟨.word (String.singleton a), String.singleton a⟩, .string (String.singleton b))
    | t => .error (.notPair index t.length)
  | .mapping [a, b] => .ok (⟨.word a.1, a.1⟩, .string b.1)
  | .mapping entries => .error (.notPair index entries.length)
  | _ => .error (.notParts index)

/-- The pairs with a value under a key: in its old place and under its old spelling, or last if the key is
new. -/
def putPair (key : PairKey) (value : Value) : List (PairKey × Value) → List (PairKey × Value)
  | [] => [(key, value)]
  | e :: rest =>
    if e.1.identity == key.identity then (e.1, value) :: rest else e :: putPair key value rest

/-- The pairs that the items of a list write, laid over some pairs. -/
def pairsFrom (index : Nat) (pairs : List (PairKey × Value)) :
    List Value → Except GuidanceError (List (PairKey × Value))
  | [] => .ok pairs
  | item :: rest =>
    match pairOf index item with
    | .error e => .error e
    | .ok pair => pairsFrom (index + 1) (putPair pair.1 pair.2 pairs) rest

/-- The entries that the items of a list write. -/
def entriesOfItems (items : List Value) : Except GuidanceError (List (String × Value)) :=
  (pairsFrom 0 [] items).map fun pairs => pairs.map fun p => (p.1.spelling, p.2)

/-- The entries that a value writes: those of a mapping, or those of a list of pairs. -/
def entriesOf : Value → Except GuidanceError (List (String × Value))
  | .mapping entries => .ok entries
  | .list items => entriesOfItems items
  | .string s => entriesOfItems (s.toList.map fun c => .string (String.singleton c))
  | v => .error (.notEntries v)

/-- What is known about a rule; nothing if its entry counts as false. -/
def entry? (r : Registry) (number : Int) :
    Except GuidanceError (Option (List (String × Value))) :=
  match Value.lookup r.entries (ruleKey number) with
  | none => .ok none
  | some v => if v.isTruthy then (entriesOf v).map some else .ok none

/-- The name of a rule in reports. -/
def displayName (r : Registry) (number : Int) : Except GuidanceError String :=
  (r.entry? number).map fun entry =>
    match entry.bind fun es => Value.lookup es "display_name" with
    | none => ruleLabel number
    | some v => if v.isTruthy then v.display else ruleLabel number

/-- What is said about a rule without instructions. -/
def usualInstructions : String :=
  "See the project docs. Fix the violation at the reported location."

/-- How the violations of a rule are mended. -/
def instructions (r : Registry) (number : Int) : Except GuidanceError String :=
  (r.entry? number).map fun entry =>
    match entry.bind fun es => Value.lookup es "manual_instructions" with
    | none => usualInstructions
    | some v => String.ofList (Text.trimEnd v.display.toList)

/-- The number that some digits write. -/
def numberOf (digits : Text) : Except GuidanceError Nat :=
  (Text.wholeNumber digits).mapError .notNumber

/-- Whether a text consists of digits, with at least one of them. -/
def isAllDigits (t : Text) : Bool := !t.isEmpty && t.all Text.isDigit

/-- A text without the word that starts the keys of the registry. -/
def withoutKeyWord (t : Text) : Text := if "rule".toList.isPrefixOf t then t.drop 4 else t

/-- The digits of a key that names a rule. -/
def keyDigits? (key : String) : Option Text :=
  let digits := key.toList.drop 4
  if startsWith key "rule" && isAllDigits digits then some digits else none

/-- The number of the first rule among some entries that has a symbol. -/
def findSymbol? (symbol : String) : List (String × Value) → Except GuidanceError (Option Nat)
  | [] => .ok none
  | (key, .mapping entry) :: rest =>
    if (Value.lookup entry "symbol").bind Value.string? == some symbol then
      match keyDigits? key with
      | some digits => (numberOf digits).map some
      | none => findSymbol? symbol rest
    else findSymbol? symbol rest
  | (_, v) :: _ => .error (.symbolOf v)

/-- The number of the rule that a user asks for, by its number, its key or its symbol. -/
def find? (r : Registry) (asked : String) : Except GuidanceError (Option Nat) :=
  let t := withoutKeyWord (Text.lower (Text.trim asked.toList))
  if isAllDigits t then
    (numberOf t).map fun (n : Nat) =>
      if (Value.lookup r.entries (ruleKey n)).isSome then some n else none
  else findSymbol? (String.ofList t) r.entries

end Registry

end UxLint
