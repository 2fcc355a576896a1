/-!
# Tables of code points

A character class is given by closed ranges or by stepped runs of code points. Looking a code point
up is a plain search, so that membership unfolds to a disjunction of inequalities.
-/

set_option autoImplicit false

namespace UxLint

/-- A text is the list of its code points. -/
abbrev Text := List Char

namespace Text

/-- Whether one of the closed ranges holds `n`. -/
def inRanges (ranges : List (Nat × Nat)) (n : Nat) : Bool :=
  ranges.any fun r => r.1 ≤ n && n ≤ r.2

/-- Whether one of the runs `(first, last, step)` holds `n`. -/
def inRuns (runs : List (Nat × Nat × Nat)) (n : Nat) : Bool :=
  runs.any fun r => r.1 ≤ n && n ≤ r.2.1 && (n - r.1) % r.2.2 == 0

/-- Whether a code point is one of the first 128. -/
def isBasic (c : Char) : Bool := c.toNat < 128

end Text

end UxLint
