import UxLint.Text.Glob
import UxLint.Proofs.Text.Pieces

/-!
# What a directory pattern names

A pattern that ends in `/**` behind a directory without signs is tried in three ways. As a glob it
stands for the paths that start with the directory and a slash, and never for a last segment
(`read_below_matchesAll_iff`). The directory as a whole is looked for among the segments in front of
the last one, and the directory with a slash behind it at the start of the path.

A directory of one segment is therefore found wherever it stands (`Text.mem_dropLast_pieces_iff`), and one of
several segments only at the start of the path, since no single segment holds a slash.
`pathMatches_below_iff` puts both together.
-/

set_option autoImplicit false

namespace UxLint

namespace Glob

/-- Whether a character is a sign of path patterns. -/
def isSign (c : Char) : Bool := c == '*' || c == '?' || c == '['

/-- A text without the signs of path patterns. -/
def Literal (t : Text) : Prop := t.any isSign = false

/-- A literal pattern has no sign in it. -/
theorem literal_cons_iff {c : Char} {t : Text} : Literal (c :: t) ↔ isSign c = false ∧ Literal t := by
  rw [Literal, List.any_cons, Bool.or_eq_false_iff]
  rfl

/-- A character that is no sign stands for itself. -/
theorem read_char {c : Char} (t : Text) (hc : isSign c = false) : read (c :: t) = .char c :: read t := by
  simp only [isSign, Bool.or_eq_false_iff, beq_eq_false_iff_ne] at hc
  obtain ⟨⟨hstar, hany⟩, hbracket⟩ := hc
  rw [read]
  · exact hstar
  · exact hany
  · exact hbracket

/-- A text without signs stands for itself, whatever is behind it in the pattern. -/
theorem read_append_of_literal {t : Text} (ht : Literal t) (rest : Text) :
    read (t ++ rest) = t.map .char ++ read rest := by
  induction t with
  | nil => rfl
  | cons c t ih =>
    obtain ⟨hc, ht⟩ := literal_cons_iff.1 ht
    rw [List.cons_append, read_char _ hc, ih ht]
    rfl

/-- A pattern that starts with characters stands for a text that starts with them, the rest of it for
the rest of the text. -/
theorem chars_matchesAll_iff (t : Text) (g : Glob) (s : Text) :
    matchesAll (t.map .char ++ g) s = true ↔ ∃ rest, s = t ++ rest ∧ matchesAll g rest = true := by
  induction t generalizing s with
  | nil => simp
  | cons c t ih =>
    rw [List.map_cons, List.cons_append]
    cases s with
    | nil => simp [part_matchesAll_nil]
    | cons d s =>
      rw [part_matchesAll_cons _ _ _ (by simp), Bool.and_eq_true, ih s]
      simp only [GlobPart.admits, beq_iff_eq, List.cons_append, List.cons.injEq]
      constructor
      · rintro ⟨rfl, rest, rfl, hrest⟩
        exact ⟨rest, ⟨rfl, rfl⟩, hrest⟩
      · rintro ⟨rest, ⟨rfl, rfl⟩, hrest⟩
        exact ⟨rfl, rest, rfl, hrest⟩

/-- A star stands for whatever the pattern behind it stands for. -/
theorem star_matchesAll {g : Glob} {t : Text} (h : matchesAll g t = true) :
    matchesAll (.star :: g) t = true := by
  cases t with
  | nil => rw [star_matchesAll_nil, h]
  | cons c t => rw [star_matchesAll_cons, h, Bool.true_or]

/-- A star at the end of a pattern stands for every text. -/
theorem star_matchesAll_all (t : Text) : matchesAll [.star] t = true := by
  induction t with
  | nil => rfl
  | cons c t ih => rw [star_matchesAll_cons, ih, Bool.or_true]

/-- As a glob a directory with two stars behind it stands for every text that starts with the directory
and a slash. -/
theorem read_below_matchesAll_iff {dir : Text} (hdir : Literal dir) (t : Text) :
    (read (dir ++ ['/', '*', '*'])).matchesAll t = true ↔ dir ++ ['/'] <+: t := by
  have hstars : read ['/', '*', '*'] = [.char '/', .star, .star] := by
    rw [read_char _ rfl, read, read, read]
  have hread : read (dir ++ ['/', '*', '*']) = (dir ++ ['/']).map .char ++ [.star, .star] := by
    rw [read_append_of_literal hdir, hstars, List.map_append, List.append_assoc]
    rfl
  rw [hread, chars_matchesAll_iff]
  constructor
  · rintro ⟨rest, ht, -⟩
    exact ⟨rest, ht.symm⟩
  · rintro ⟨rest, ht⟩
    exact ⟨rest, ht.symm, star_matchesAll (star_matchesAll_all rest)⟩

end Glob

/-- A path goes through a directory: the segments of the directory stand in it, whole and one behind the
other, and more of the path is behind them. -/
def GoesThrough (p dir : Text) : Prop := '/' :: dir ++ ['/'] <:+: '/' :: p

/-- A path that starts with a directory goes through it. -/
theorem goesThrough_of_starts {p dir : Text} (h : dir ++ ['/'] <+: p) : GoesThrough p dir := by
  obtain ⟨rest, rfl⟩ := h
  exact ⟨[], rest, by simp⟩

/-- A directory without signs and two stars behind it name the paths that start with the directory and
those that have it as one of their segments before the last. -/
theorem pathMatches_below_iff_or {path dir : String} (hdir : Glob.Literal dir.toList) :
    pathMatches path (dir ++ "/**") = true ↔
      dir.toList ∈ (Text.pieces '/' (slashed path.toList)).dropLast ∨
        dir.toList ++ ['/'] <+: slashed path.toList := by
  have hpattern : (dir ++ "/**").toList = dir.toList ++ ['/', '*', '*'] := String.toList_append
  have hends : endsWith (dir ++ "/**") "/**" = true := by
    rw [endsWith, hpattern]
    exact List.isSuffixOf_iff_suffix.2 (List.suffix_append dir.toList ['/', '*', '*'])
  have htake : (dir.toList ++ ['/', '*', '*']).take
      ((dir.toList ++ ['/', '*', '*']).length - 3) = dir.toList := by
    simp
  -- a last segment has no slash, so that the glob never stands for one
  have hlast : (Glob.read (dir.toList ++ ['/', '*', '*'])).matchesAll
      (Text.lastPiece '/' (slashed path.toList)) = false := by
    rw [Bool.eq_false_iff, Ne, Glob.read_below_matchesAll_iff hdir]
    intro hstarts
    exact Text.not_mem_lastPiece '/' _ (hstarts.subset (by simp))
  rw [pathMatches]
  simp only [hpattern, hends, htake, hlast, Bool.or_false, if_true]
  by_cases hstarts : dir.toList ++ ['/'] <+: slashed path.toList
  · simp [(Glob.read_below_matchesAll_iff hdir _).2 hstarts, hstarts]
  · have hglob : (Glob.read (dir.toList ++ ['/', '*', '*'])).matchesAll (slashed path.toList) = false := by
      rwa [Bool.eq_false_iff, Ne, Glob.read_below_matchesAll_iff hdir]
    simp [hglob, hstarts]

/-- A directory of one segment and two stars behind it name the paths that go through the directory,
wherever it stands in them; a directory of several segments is looked for at the start only. -/
theorem pathMatches_below_iff {path dir : String} (hdir : Glob.Literal dir.toList) :
    pathMatches path (dir ++ "/**") = true ↔
      if '/' ∈ dir.toList then dir.toList ++ ['/'] <+: slashed path.toList
      else GoesThrough (slashed path.toList) dir.toList := by
  rw [pathMatches_below_iff_or hdir, Text.mem_dropLast_pieces_iff]
  split
  case isTrue hslash => simp [hslash]
  case isFalse hslash =>
    constructor
    · rintro (⟨-, hthrough⟩ | hstarts)
      · exact hthrough
      · exact goesThrough_of_starts hstarts
    · intro hthrough
      exact .inl ⟨hslash, hthrough⟩

/-- A directory of one segment is found in the middle of a path. -/
theorem pathMatches_below_iff_legacy :
    Glob.Literal "legacy".toList ∧ pathMatches "app/src/legacy/page.js" ("legacy" ++ "/**") = true := by
  have hliteral : Glob.Literal "legacy".toList := rfl
  refine ⟨hliteral, (pathMatches_below_iff hliteral).2 ?_⟩
  rw [if_neg (by decide)]
  exact ⟨"/app/src".toList, "page.js".toList, by decide⟩

/-- A path may go through a directory of several segments that the pattern does not find in it. -/
theorem not_pathMatches_nestedLegacy :
    Glob.Literal "src/legacy".toList ∧
      GoesThrough (slashed "packages/app/src/legacy/x.js".toList) "src/legacy".toList ∧
      pathMatches "packages/app/src/legacy/x.js" ("src/legacy" ++ "/**") = false := by
  have hliteral : Glob.Literal "src/legacy".toList := rfl
  refine ⟨hliteral, ⟨"/packages/app".toList, "x.js".toList, by decide⟩, ?_⟩
  rw [Bool.eq_false_iff, Ne, pathMatches_below_iff_or hliteral]
  decide

end UxLint
