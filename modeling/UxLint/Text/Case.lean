import UxLint.Text.Ranges
import UxLint.Text.CaseTable

/-!
# Lower and upper case

Both maps may turn one code point into several, and the lower case of a capital sigma depends on
its neighbours: it is a final sigma where a cased letter comes before it and none comes after it.
-/

set_option autoImplicit false

namespace UxLint.Text

/-- Whether a character is a lower-case letter. -/
def isLower (c : Char) : Bool :=
  c.isLower || (!isBasic c && inRuns lowercaseRuns c.toNat)

/-- Whether a character is an upper-case or a title-case letter. -/
def isCapital (c : Char) : Bool :=
  c.isUpper || (!isBasic c && (inRuns uppercaseRuns c.toNat || inRuns titlecaseRuns c.toNat))

/-- Whether a text holds a lower-case letter and no capital. -/
def isAllLower (t : Text) : Bool := t.any isLower && t.all fun c => !isCapital c

/-- The code points that replace `c` under a case map given by shifts and expansions. -/
def mapCase (shifts : List Shift) (expansions : List (Nat × List Nat)) (c : Char) : Text :=
  match expansions.find? fun e => e.1 == c.toNat with
  | some e => e.2.map Char.ofNat
  | none =>
    match shifts.find? fun s =>
        s.first ≤ c.toNat && c.toNat ≤ s.last && (c.toNat - s.first) % s.step == 0 with
    | some s => [Char.ofNat (Int.toNat (c.toNat + s.offset))]
    | none => [c]

/-- The lower case of a character, its neighbours left aside. -/
def lowerChar (c : Char) : Text :=
  if isBasic c then [c.toLower] else mapCase lowerShifts lowerExpansions c

/-- The upper case of a character. -/
def upperChar (c : Char) : Text :=
  if isBasic c then [c.toUpper] else mapCase upperShifts upperExpansions c

/-- Whether the first character that the look for a cased letter does not pass over is cased. -/
def meetsCased (t : Text) : Bool :=
  match t.dropWhile fun c => inRanges caseIgnorableRanges c.toNat with
  | [] => false
  | c :: _ => c.isAlpha || inRanges casedRanges c.toNat

/-- The lower case of a text; `before` holds the characters already read, the last one first. -/
def lowerFrom (before : Text) : Text → Text
  | [] => []
  | c :: t =>
    let here :=
      if c == 'Σ' then
        if meetsCased before && !meetsCased t then ['ς'] else ['σ']
      else lowerChar c
    here ++ lowerFrom (c :: before) t

/-- The lower case of a text. -/
def lower (t : Text) : Text := lowerFrom [] t

/-- The upper case of a text. -/
def upper (t : Text) : Text := t.flatMap upperChar

/-- The text with its first character in upper case. -/
def capitalize : Text → Text
  | [] => []
  | c :: t => upperChar c ++ t

end UxLint.Text
