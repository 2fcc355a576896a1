import UxLint.Text.Search

/-!
# Path patterns

In a path pattern a star stands for any text, slashes included, a question mark for one character,
and a bracket for one character of a set, or outside it where the set starts with an exclamation
mark. A bracket that is never closed stands for itself.
-/

set_option autoImplicit false

namespace UxLint

/-- The characters that a bracket of a path pattern admits. -/
structure Bracket where
  /-- Whether the bracket admits what it does not name. -/
  negated : Bool
  /-- The characters named one by one. -/
  chars : Text
  /-- The named ranges, by their ends. -/
  ranges : List (Char × Char)

/-- Whether a bracket admits a character. -/
def Bracket.admits (b : Bracket) (c : Char) : Bool :=
  b.negated != (b.chars.contains c || b.ranges.any fun r => r.1 ≤ c && c ≤ r.2)

/-- A part of a path pattern. -/
inductive GlobPart where
  | star
  | any
  | char (c : Char)
  | bracket (b : Bracket)

/-- Whether a part admits a character; a star admits all of them. -/
def GlobPart.admits : GlobPart → Char → Bool
  | .star, _ => true
  | .any, _ => true
  | .char x, c => x == c
  | .bracket b, c => b.admits c

/-- A path pattern. -/
abbrev Glob := List GlobPart

namespace Glob

/-- What a bracket names and the text behind it; `t` starts behind the opening bracket. A closing
bracket that comes first, or first behind an exclamation mark, belongs to what is named. -/
def cutBracket? (t : Text) : Option (Text × Text) :=
  let lead : Text :=
    match t with
    | '!' :: ']' :: _ => ['!', ']']
    | '!' :: _ => ['!']
    | ']' :: _ => [']']
    | _ => []
  let rest := t.drop lead.length
  let inside := rest.takeWhile (· != ']')
  match rest.drop inside.length with
  | [] => none
  | _ :: behind => some (lead ++ inside, behind)

/-- The pieces between the hyphens that make ranges. The first `skip` characters of a piece are
never such a hyphen: one at its start, and two behind a range. -/
def rangePieces (skip : Nat) (current : Text) : Text → List Text
  | [] => [current.reverse]
  | c :: t =>
    match skip with
    | n + 1 => rangePieces n (c :: current) t
    | 0 => if c == '-' then current.reverse :: rangePieces 2 [] t else rangePieces 0 (c :: current) t

/-- The pieces with a hyphen at the very end taken as a character. -/
def keepLastHyphen : List Text → List Text
  | [p, []] => [p ++ ['-']]
  | p :: ps => p :: keepLastHyphen ps
  | [] => []

/-- Joins neighbouring pieces whose range would be empty, leaving its ends out. -/
def dropEmptyRanges : List Text → List Text
  | [] => []
  | p :: ps =>
    match dropEmptyRanges ps with
    | [] => [p]
    | q :: qs =>
      match p.getLast?, q with
      | some a, b :: q' => if b < a then (p.dropLast ++ q') :: qs else p :: q :: qs
      | _, _ => p :: q :: qs

/-- The ranges between neighbouring pieces. -/
def rangesBetween : List Text → List (Char × Char)
  | p :: q :: rest =>
    match p.getLast?, q.head? with
    | some a, some b => (a, b) :: rangesBetween (q :: rest)
    | _, _ => rangesBetween (q :: rest)
  | _ => []

/-- The bracket of the given pieces. A hyphen with nothing before it makes no range. -/
def bracketOf (pieces : List Text) : Bracket :=
  match pieces with
  | ['!'] :: p :: ps => ⟨true, '-' :: (p :: ps).flatten, rangesBetween (p :: ps)⟩
  | ('!' :: p) :: ps => ⟨true, p ++ ps.flatten, rangesBetween (p :: ps)⟩
  | ps => ⟨false, ps.flatten, rangesBetween ps⟩

/-- The bracket that names `inside`. -/
def readBracket (inside : Text) : Bracket :=
  let skip := if inside.head? == some '!' then 2 else 1
  bracketOf (dropEmptyRanges (keepLastHyphen (rangePieces skip [] inside)))

/-- What stands behind a bracket is shorter than the whole. -/
theorem length_cutBracket?_lt {t inside behind : Text} (h : cutBracket? t = some (inside, behind)) :
    behind.length < t.length := by
  unfold cutBracket? at h
  simp only at h
  split at h
  · cases h
  · next x u hd =>
    cases h
    have := congrArg List.length hd
    simp only [List.length_drop, List.length_cons] at this
    omega

/-- Reads a path pattern. -/
def read : Text → Glob
  | [] => []
  | '*' :: t => .star :: read t
  | '?' :: t => .any :: read t
  | '[' :: t =>
    match _h : cutBracket? t with
    | none => .char '[' :: read t
    | some (inside, behind) => .bracket (readBracket inside) :: read behind
  | c :: t => .char c :: read t
termination_by t => t.length
decreasing_by
  all_goals simp only [List.length_cons]
  · exact Nat.lt_succ_self _
  · exact Nat.lt_succ_self _
  · exact Nat.lt_succ_self _
  · exact Nat.lt_succ_of_lt (length_cutBracket?_lt _h)
  · exact Nat.lt_succ_self _

/-- For each element of a row, whether it or a later one holds. -/
def fromHere (row : List Bool) : List Bool :=
  row.foldr (fun b later => (b || later.headD false) :: later) []

/-- For each suffix of a text, the text itself first, whether a pattern stands for the whole of it.
The row of a pattern follows from the row of what is behind its first part, so that no suffix is
tried twice. -/
def suffixRow : Glob → Text → List Bool
  | [], t => t.map (fun _ => false) ++ [true]
  | .star :: ps, t => fromHere (suffixRow ps t)
  | p :: ps, t => List.zipWith (fun c b => p.admits c && b) t (suffixRow ps t).tail ++ [false]

/-- Whether a pattern stands for the whole of a text. -/
def matchesAll (g : Glob) (t : Text) : Bool := (suffixRow g t).headD false

/-- A row of answers has an answer for each place. -/
theorem length_fromHere (row : List Bool) : (fromHere row).length = row.length := by
  induction row with
  | nil => rfl
  | cons b row ih => simpa [fromHere] using ih

/-- A row has one element more than the text has characters. -/
theorem length_suffixRow (g : Glob) (t : Text) : (suffixRow g t).length = t.length + 1 := by
  induction g with
  | nil => simp [suffixRow]
  | cons p ps ih =>
    cases p with
    | star => rw [suffixRow, length_fromHere, ih]
    | _ => simp [suffixRow, ih]

/-- The row of a text starts with the answer for the text itself. -/
theorem suffixRow_eq_cons (g : Glob) (t : Text) :
    suffixRow g t = matchesAll g t :: (suffixRow g t).tail := by
  unfold matchesAll
  cases h : suffixRow g t with
  | nil => simpa [h] using length_suffixRow g t
  | cons b row => rfl

/-- The row of a text goes on as the row of the text without its first character. -/
theorem tail_suffixRow_cons (g : Glob) (c : Char) (t : Text) :
    (suffixRow g (c :: t)).tail = suffixRow g t := by
  induction g with
  | nil => simp [suffixRow]
  | cons p ps ih =>
    cases p with
    | star =>
      rw [suffixRow, suffixRow, suffixRow_eq_cons ps (c :: t), ih]
      rfl
    | _ =>
      rw [suffixRow, suffixRow, ih, suffixRow_eq_cons ps t]
      · simp
      all_goals simp

/-- At the end of a text a star stands for nothing. -/
theorem star_matchesAll_nil (ps : Glob) : matchesAll (.star :: ps) [] = matchesAll ps [] := by
  have h : (suffixRow ps []).tail = [] := by
    rw [← List.length_eq_zero_iff, List.length_tail, length_suffixRow]
    rfl
  rw [matchesAll, suffixRow, suffixRow_eq_cons ps [], h]
  exact Bool.or_false _

/-- A star stands for nothing, or for one more character. -/
theorem star_matchesAll_cons (ps : Glob) (c : Char) (t : Text) :
    matchesAll (.star :: ps) (c :: t) = (matchesAll ps (c :: t) || matchesAll (.star :: ps) t) := by
  rw [matchesAll, suffixRow, suffixRow_eq_cons ps (c :: t), tail_suffixRow_cons]
  rfl

/-- A part that is no star stands for no empty text. -/
theorem part_matchesAll_nil {p : GlobPart} (ps : Glob) (h : p ≠ .star) :
    matchesAll (p :: ps) [] = false := by
  rw [matchesAll, suffixRow]
  · rfl
  · exact h

/-- A part that is no star stands for one character that it admits. -/
theorem part_matchesAll_cons {p : GlobPart} (ps : Glob) (c : Char) (t : Text) (h : p ≠ .star) :
    matchesAll (p :: ps) (c :: t) = (p.admits c && matchesAll ps t) := by
  rw [matchesAll, suffixRow, tail_suffixRow_cons, suffixRow_eq_cons ps t]
  · rfl
  · exact h

end Glob

/-- A path with slashes only. -/
def slashed (path : Text) : Text := path.map fun c => if c == '\\' then '/' else c

/-- Whether a path belongs to what a pattern names. The pattern may stand for the path or for its
last segment; one that ends in two stars names what is below a directory, and one without any sign
names every path that it occurs in. -/
def pathMatches (path pattern : String) : Bool :=
  let p := slashed path.toList
  let g := pattern.toList
  let glob := Glob.read g
  if glob.matchesAll p || glob.matchesAll (Text.lastPiece '/' p) then true
  else if endsWith pattern "/**" then
    let dir := g.take (g.length - 3)
    (Text.pieces '/' p).dropLast.contains dir || (dir ++ ['/']).isPrefixOf p
  else !(g.any fun c => c == '*' || c == '?' || c == '[') && Text.holds g p

end UxLint
