import UxLint.Proofs.Pattern.FirstPlace
import UxLint.Proofs.Rule.Location
import UxLint.Proofs.Rule.Narrowing
import UxLint.Proofs.Syntax.Walks
import Mathlib.Order.Bounds.Image

/-!
# Which list is reported

A file renders lists by directives in its markup and by loops and visits in its tree. The rule on empty
states reports the first directive if there is one and the first loop of the tree otherwise, so it reports
the first list of the file unless some loop stands above all of its directives (`reported_line`). Where the
file has neither, the rule still reads the code view: it finds a list exactly if the view has the text of a
loop, be that a loop or not (`rendering?_of_no_loop`).
-/

set_option autoImplicit false

namespace UxLint.EmptyState

open Pattern

/-! ## Places in the views -/

/-- The directive of a loop stands behind the first `i` characters of a text: its name at the edge of a
word, blanks and an equals sign. -/
def DirectiveAt (t : Text) (i : Nat) : Prop :=
  ∃ before gap behind, t = before ++ "v-for".toList ++ gap ++ '=' :: behind ∧ before.length = i ∧
    (∀ c ∈ gap, Text.isBlank c = true) ∧ before.getLast?.any Text.isWord = false

/-- A word with which the text of a loop starts: the selection of a visiting method, or the keyword of a
loop at the edge of a word. -/
def LoopWord (before : Text) (w : Text) : Prop :=
  w = ".map".toList ∨ w = ".forEach".toList ∨
    (w = "for".toList ∧ before.getLast?.any Text.isWord = false)

/-- The text of a loop stands behind the first `i` characters of a text: its word, blanks and an opening
parenthesis. -/
def LoopTextAt (t : Text) (i : Nat) : Prop :=
  ∃ before w gap behind, t = before ++ w ++ gap ++ '(' :: behind ∧ before.length = i ∧
    LoopWord before w ∧ ∀ c ∈ gap, Text.isBlank c = true

variable {t : Text} {i : Nat}

/-- The pattern of loops in the markup fits exactly the directives. -/
theorem fitsAt_markupLoop_iff : markupLoop.FitsAt t i ↔ DirectiveAt t i := by
  have hname : "v-for".toList = 'v' :: "-for".toList := by decide
  have hfits {u w r : Text} : Fits markupLoop (lastOf none u) w r ↔
      ∃ gap, w = "v-for".toList ++ gap ++ ['='] ∧ (∀ c ∈ gap, Text.isBlank c = true) ∧
        (lastOf none u).any Text.isWord = false :=
    fits_keyword_iff hname (by decide)
  constructor
  · rintro ⟨u, w, r, rfl, rfl, h⟩
    obtain ⟨gap, rfl, hgap, hedge⟩ := hfits.1 h
    rw [lastOf_none] at hedge
    exact ⟨u, gap, r, by simp, rfl, hgap, hedge⟩
  · rintro ⟨before, gap, behind, rfl, rfl, hgap, hedge⟩
    rw [← lastOf_none] at hedge
    exact ⟨before, "v-for".toList ++ gap ++ ['='], behind, by simp, rfl, hfits.2 ⟨gap, rfl, hgap, hedge⟩⟩

/-- The selection of a visiting method. -/
theorem fits_visit_iff {before : Option Char} {w behind : Text} :
    Fits (inOrder [char '.', firstOf [literal "map", literal "forEach"], blanks, char '(']) before w
        behind ↔
      ∃ v gap, w = v ++ gap ++ ['('] ∧ (v = ".map".toList ∨ v = ".forEach".toList) ∧
        ∀ c ∈ gap, Text.isBlank c = true := by
  change Fits (both (char '.') (both (either (literal "map") (literal "forEach"))
    (both blanks (char '(')))) before w behind ↔ _
  rw [fits_both_iff]
  constructor
  · rintro ⟨d, rest, rfl, hdot, hrest⟩
    obtain ⟨y, rfl, hy⟩ := fits_one_iff.1 hdot
    obtain rfl := beq_iff_eq.1 hy
    obtain ⟨m, g, rfl, hm, hg⟩ := fits_both_iff.1 hrest
    obtain ⟨gap, rfl, hgap⟩ := fits_gap_iff.1 hg
    refine ⟨'.' :: m, gap, by simp, ?_, hgap⟩
    rcases fits_either_iff.1 hm with hm | hm
    · obtain rfl := fits_literal_iff.1 hm
      exact .inl (by decide)
    · obtain rfl := fits_literal_iff.1 hm
      exact .inr (by decide)
  · rintro ⟨v, gap, rfl, hv, hgap⟩
    have hmethod : ∃ m, v = '.' :: m ∧ (m = "map".toList ∨ m = "forEach".toList) := by
      rcases hv with rfl | rfl
      · exact ⟨"map".toList, by decide, .inl rfl⟩
      · exact ⟨"forEach".toList, by decide, .inr rfl⟩
    obtain ⟨m, rfl, hm⟩ := hmethod
    refine ⟨['.'], m ++ (gap ++ ['(']), by simp, fits_one_iff.2 ⟨'.', rfl, rfl⟩,
      fits_both_iff.2 ⟨m, gap ++ ['('], rfl, fits_either_iff.2 ?_, fits_gap_iff.2 ⟨gap, rfl, hgap⟩⟩⟩
    exact hm.imp fits_literal_iff.2 fits_literal_iff.2

/-- The pattern of loops in the code fits exactly the texts of loops. -/
theorem fitsAt_codeLoop_iff : codeLoop.FitsAt t i ↔ LoopTextAt t i := by
  have hname : "for".toList = 'f' :: "or".toList := by decide
  have hfor {u w r : Text} :
      Fits (inOrder [wordEdge, literal "for", blanks, char '(']) (lastOf none u) w r ↔
        ∃ gap, w = "for".toList ++ gap ++ ['('] ∧ (∀ c ∈ gap, Text.isBlank c = true) ∧
          (lastOf none u).any Text.isWord = false :=
    fits_keyword_iff hname (by decide)
  constructor
  · rintro ⟨u, w, r, rfl, rfl, h⟩
    rcases fits_either_iff.1 h with h | h
    · obtain ⟨v, gap, rfl, hv, hgap⟩ := fits_visit_iff.1 h
      exact ⟨u, v, gap, r, by simp, rfl, hv.imp_right .inl, hgap⟩
    · obtain ⟨gap, rfl, hgap, hedge⟩ := hfor.1 h
      rw [lastOf_none] at hedge
      exact ⟨u, "for".toList, gap, r, by simp, rfl, .inr (.inr ⟨rfl, hedge⟩), hgap⟩
  · rintro ⟨before, v, gap, behind, rfl, rfl, hword, hgap⟩
    refine ⟨before, v ++ gap ++ ['('], behind, by simp, rfl, fits_either_iff.2 ?_⟩
    rcases hword with rfl | rfl | ⟨rfl, hedge⟩
    · exact .inl (fits_visit_iff.2 ⟨_, gap, rfl, .inl rfl, hgap⟩)
    · exact .inl (fits_visit_iff.2 ⟨_, gap, rfl, .inr rfl, hgap⟩)
    · rw [← lastOf_none] at hedge
      exact .inr (hfor.2 ⟨gap, rfl, hgap, hedge⟩)

/-! ## Lines of lists -/

/-- The line of the file behind the first `i` characters of the markup view. -/
def markupLine (u : SourceUnit) (i : Nat) : Nat :=
  u.markupOffset + Text.lineFeeds (u.markupView.take i) + 1

/-- The line of the file behind the first `i` characters of the code view. -/
def codeLine (u : SourceUnit) (i : Nat) : Nat :=
  u.scriptOffset + Text.lineFeeds (u.codeView.take i) + 1

/-- The lines on which the markup has directives. -/
def directiveLines (u : SourceUnit) : Set Nat :=
  markupLine u '' {i | DirectiveAt u.markupView i}

/-- The lines on which the tree has loops. -/
def loopLines (u : SourceUnit) : Set Nat :=
  {line | ∃ root n, u.tree = some root ∧ n ∈ root.walk ∧ isLoop n = true ∧ u.lineOf n = line}

/-- Further on in a text there are no fewer line feeds in front. -/
theorem lineFeeds_take_mono (t : Text) : Monotone fun i => Text.lineFeeds (t.take i) := by
  intro i j h
  exact (List.take_sublist_take_left h).count_le '\n'

/-- Further on in the markup stand no earlier lines. -/
theorem monotone_markupLine (u : SourceUnit) : Monotone (markupLine u) := by
  intro i j h
  exact Nat.succ_le_succ (Nat.add_le_add_left (lineFeeds_take_mono u.markupView h) _)

variable {u : SourceUnit} {e : Evidence}

/-- No loop is found in the markup exactly if there is no directive. -/
theorem loopInMarkup?_eq_none_iff : loopInMarkup? u = none ↔ ∀ i, ¬DirectiveAt u.markupView i := by
  unfold loopInMarkup?
  rw [Option.map_eq_none_iff, search?_eq_none_iff]
  exact forall_congr' fun i => not_congr fitsAt_markupLoop_iff

/-- No line has a directive exactly if no loop is found in the markup. -/
theorem directiveLines_eq_empty_iff : directiveLines u = ∅ ↔ loopInMarkup? u = none := by
  rw [directiveLines, Set.image_eq_empty, loopInMarkup?_eq_none_iff]
  exact Set.eq_empty_iff_forall_notMem

/-- What is found in the markup is on the first line with a directive. -/
theorem isLeast_of_loopInMarkup? (h : loopInMarkup? u = some e) :
    ∃ line : Nat, e.line = line ∧ IsLeast (directiveLines u) line := by
  obtain ⟨m, hm, rfl⟩ := Option.map_eq_some_iff.1 h
  have hfirst := search?_isLeast hm
  simp only [fitsAt_markupLoop_iff] at hfirst
  exact ⟨markupLine u m.start, rfl, (monotone_markupLine u).map_isLeast hfirst⟩

/-- No loop is found in the code exactly if there is no text of one. -/
theorem loopInCode?_eq_none_iff : loopInCode? u = none ↔ ∀ i, ¬LoopTextAt u.codeView i := by
  unfold loopInCode?
  rw [Option.map_eq_none_iff, search?_eq_none_iff]
  exact forall_congr' fun i => not_congr fitsAt_codeLoop_iff

/-- What is found in the code view stands where its first text of a loop does. -/
theorem isLeast_of_loopInCode? (h : (loopInCode? u).map Evidence.asText = some e) :
    e.tier = .text ∧ ∃ i, IsLeast {i | LoopTextAt u.codeView i} i ∧ e.line = codeLine u i := by
  unfold loopInCode? at h
  rw [Option.map_map] at h
  obtain ⟨m, hm, rfl⟩ := Option.map_eq_some_iff.1 h
  have hfirst := search?_isLeast hm
  simp only [fitsAt_codeLoop_iff] at hfirst
  exact ⟨rfl, m.start, hfirst, rfl⟩

/-- No loop is found in the tree exactly if no node is one. -/
theorem loopInTree?_eq_none_iff {root : Node} :
    loopInTree? u root = none ↔ ∀ n ∈ root.walk, isLoop n = false := by
  have hnone : loopInTree? u root = none ↔ root.findAll isLoop = [] := by
    unfold loopInTree?
    split
    · next h => simp [h]
    · next h => simp [h]
  rw [hnone, Node.findAll, List.filter_eq_nil_iff]
  exact forall₂_congr fun n _ => Bool.eq_false_iff.symm

section Reading

variable {grammars : Grammars} {path : String} {file : Text}

/-- In the tree of a file that was read, what starts later stands on no earlier line. -/
theorem lineOf_le (hread : SourceUnit.read? grammars path file = some u) {root m n : Node}
    (htree : u.tree = some root) (hm : root.Inside m) (hn : root.Inside n) (h : m.start ≤ n.start) :
    u.lineOf m ≤ u.lineOf n := by
  obtain ⟨grammar, hparse⟩ := SourceUnit.tree_of_read? hread htree
  obtain ⟨o, -, rfl⟩ := Option.map_eq_some_iff.1 hparse
  have hrows : m.label.row ≤ n.label.row := by
    rw [(Outline.knowsRows_of_inside hm).1, (Outline.knowsRows_of_inside hn).1]
    exact (List.take_sublist_take_left h).count_le 10
  unfold SourceUnit.lineOf
  omega

/-- What is found in the tree is on the first line with a loop. -/
theorem isLeast_of_loopInTree? (hread : SourceUnit.read? grammars path file = some u) {root : Node}
    (htree : u.tree = some root) (h : loopInTree? u root = some e) :
    ∃ line : Nat, e.line = line ∧ IsLeast (loopLines u) line := by
  unfold loopInTree? at h
  split at h
  · cases h
  next n rest hloops =>
    cases h
    have hmem : leftmost Node.start n rest ∈ root.findAll isLoop := hloops ▸ leftmost_mem Node.start n rest
    obtain ⟨hwalk, hloop⟩ := List.mem_filter.1 hmem
    refine ⟨u.lineOf (leftmost Node.start n rest), rfl, ⟨root, _, htree, hwalk, hloop, rfl⟩, ?_⟩
    rintro line ⟨root', m, htree', hm, hmloop, rfl⟩
    cases htree.symm.trans htree'
    have hstart : (leftmost Node.start n rest).start ≤ m.start :=
      leftmost_start_le Node.start n rest m (hloops ▸ List.mem_filter.2 ⟨hm, hmloop⟩)
    exact lineOf_le hread htree (root.inside_of_mem_walk hwalk) (root.inside_of_mem_walk hm) hstart

end Reading

/-! ## Reports -/

/-- Each test of a length names the length or an emptiness. -/
theorem needs_lengthTests : ∀ test ∈ lengthTests, test.2.Needs 'g' ∨ test.2.Needs 'E' := by
  have hlength : lengthMember.Needs 'g' := needs_literal (by decide)
  have hempty : (literal "isEmpty").Needs 'E' := needs_literal (by decide)
  intro test htest
  simp only [lengthTests, List.mem_cons, List.not_mem_nil, or_false] at htest
  rcases htest with rfl | rfl | rfl | rfl | rfl | rfl | rfl | rfl
  case inr.inr.inr.inr.inr.inr.inr => exact .inr (needs_inOrder (by simp) hempty)
  all_goals exact .inl (needs_inOrder (by simp) hlength)

/-- The import of a table needs a brace. -/
theorem needs_tableImport : tableImport.Needs '\x7b' := by
  have hbrace : (char '\x7b').Needs '\x7b' := by
    intro before w behind hfits
    obtain ⟨x, rfl, hx⟩ := fits_one_iff.1 hfits
    exact List.mem_singleton.2 (beq_iff_eq.1 hx).symm
  exact needs_inOrder (by simp) hbrace

/-- There is no test of a length in texts without its letters. -/
theorem lengthTest?_eq_none (h : ∀ view ∈ [u.codeView, u.markupView], 'g' ∉ view ∧ 'E' ∉ view) :
    lengthTest? u = none := by
  unfold lengthTest?
  rw [Option.map_eq_none_iff, List.findSome?_eq_none_iff]
  intro view hview
  rw [List.find?_eq_none]
  intro test htest
  rw [Bool.not_eq_true]
  rcases needs_lengthTests test htest with hneeds | hneeds
  · exact hneeds.occurs_eq_false (h view hview).1
  · exact hneeds.occurs_eq_false (h view hview).2

/-- A list in a new file without a table and without an empty state is reported. -/
theorem evaluate_eq_report (htree : u.tree.isSome = true) (htable : usesTable u = false)
    (he : rendering? u = some e) (htext : emptyText? u = none) (htest : lengthTest? u = none)
    (path : String) : evaluate (.plain 4) path u [] = .ok (some [report (.plain 4) path e]) := by
  have hcomponent : emptyComponent? ((RuleSettings.plain 4).keywords "emptyComponents") u = none := by
    unfold emptyComponent?
    rw [Option.map_eq_none_iff, List.find?_eq_none]
    intro e _
    exact Bool.false_ne_true
  have hempty : emptyState? (.plain 4) u = none := by
    unfold emptyState?
    rw [hcomponent, htext, htest]
    rfl
  have hpart : (u.tree.isNone && u.markup.isNone) = false := by
    rw [Option.isNone_eq_false_iff.2 htree, Bool.false_and]
  have hoff : (!(RuleSettings.plain 4).enabled || (RuleSettings.plain 4).isPathWhitelisted path) = false := rfl
  have hword : (RuleSettings.plain 4).matchingKeyword? u.visibleText = none := rfl
  unfold evaluate
  rw [hoff, hpart, htable, hword, he, Diff.read_nil]
  change Except.ok (judge (.plain 4) path u e .whole) = _
  unfold judge
  rw [Diff.touches_whole, hempty]
  rfl

/-- Without an element named like a table and without braces in the code there is no table. -/
theorem usesTable_eq_false (h : ∀ x ∈ u.elements, Element.isNamedLike "table" x.name = false)
    (hcode : '\x7b' ∉ u.codeView) : usesTable u = false := by
  unfold usesTable
  rw [needs_tableImport.occurs_eq_false hcode, Bool.or_false, List.any_eq_false]
  exact fun x hx => Bool.eq_false_iff.1 (h x hx)

/-- Where the names of elements come from. -/
theorem name_of_mem_elements {x : Element} (h : x ∈ u.elements) :
    (∃ root n, u.tree = some root ∧ n ∈ root.walk ∧ Markup.tagKinds.contains n.kind = true ∧
        x.name = n.fieldText "name") ∨
      ∃ m ∈ Markup.tag.all u.markupView, x.name = String.ofList (m.group 1) := by
  obtain ⟨c, hc⟩ := exists_elementFrom h
  cases hc with
  | @node root p _ tree mem made =>
    obtain ⟨n, hn, rfl⟩ := Option.map_eq_some_iff.1 tree
    unfold Markup.elementAt? at made
    split_ifs at made with hkind
    obtain ⟨name, hname, rfl⟩ := Option.map_eq_some_iff.1 made
    refine .inl ⟨n, p.node, hn, (Place.mem_walk_iff.1 mem).mem_walk, by simpa using hkind, ?_⟩
    unfold Node.fieldText
    rw [hname]
    rfl
  | @tag m mem => exact .inr ⟨m, mem, rfl⟩

/-! ## Files without lists -/

/-- A file without loops in its tree and without directives in its markup. Where the code view still has the
text of a loop, the rule takes the first such text for a list; where it has none, no list is found and nothing
is reported, whatever the comments and the literals of the file say. -/
theorem rendering?_of_no_loop {root : Node} (htree : u.tree = some root)
    (hloops : ∀ n ∈ root.walk, isLoop n = false)
    (hdirectives : ∀ i, ¬DirectiveAt u.markupView i) :
    (rendering? u = none ↔ ∀ i, ¬LoopTextAt u.codeView i) ∧
      (∀ e, rendering? u = some e → e.tier = .text ∧
        ∃ i, IsLeast {i | LoopTextAt u.codeView i} i ∧ e.line = codeLine u i) ∧
      ∀ settings path diff,
        ((∀ i, ¬LoopTextAt u.codeView i) →
          ∃ found, evaluate settings path u diff = .ok found ∧ found.getD [] = []) ∧
        ∀ vs, evaluate settings path u diff = .ok (some vs) → ∀ v ∈ vs,
          ∃ i, IsLeast {i | LoopTextAt u.codeView i} i ∧ v.line = codeLine u i := by
  have hrendering : rendering? u = (loopInCode? u).map Evidence.asText := by
    rw [rendering?_eq, loopInMarkup?_eq_none_iff.2 hdirectives, htree, Option.bind_some,
      loopInTree?_eq_none_iff.2 hloops, Option.none_or, Option.none_or]
  have hnone : rendering? u = none ↔ ∀ i, ¬LoopTextAt u.codeView i := by
    rw [hrendering, Option.map_eq_none_iff, loopInCode?_eq_none_iff]
  have hsome : ∀ e, rendering? u = some e → e.tier = .text ∧
      ∃ i, IsLeast {i | LoopTextAt u.codeView i} i ∧ e.line = codeLine u i := by
    intro e he
    exact isLeast_of_loopInCode? (hrendering ▸ he)
  refine ⟨hnone, hsome, fun settings path diff => ⟨fun hno => ?_, fun vs hvs v hv => ?_⟩⟩
  · unfold evaluate
    rw [hnone.2 hno]
    split_ifs
    · exact ⟨none, rfl, rfl⟩
    · exact ⟨none, rfl, rfl⟩
    · exact ⟨none, rfl, rfl⟩
    · exact ⟨none, rfl, rfl⟩
    · exact ⟨some [], rfl, rfl⟩
  · exact evaluate_ensures (P := fun v => ∃ i, IsLeast {i | LoopTextAt u.codeView i} i ∧
      v.line = codeLine u i) (fun e he => (hsome e he).2) hvs vs rfl v hv

/-- A page that asks to wait. -/
def waitingText : Text := "const a = <p>Wait for (optional)</p>;".toList

/-- What the grammar answers to the page. -/
def waitingOutline : Outline :=
  .node "program" "" true 0 37
    [.node "lexical_declaration" "" true 0 37
      [.node "variable_declarator" "" true 6 36
        [.node "identifier" "name" true 6 7 [],
          .node "jsx_element" "value" true 10 36
            [.node "jsx_opening_element" "" true 10 13 [.node "identifier" "name" true 11 12 []],
              .node "jsx_text" "" true 13 32 [],
              .node "jsx_closing_element" "" true 32 36 [.node "identifier" "name" true 34 35 []]]]]]

/-- The tree of the page. -/
def waitingTree : Node := waitingOutline.laidOver (Text.encode waitingText)

/-- The page made ready for the rules. -/
def waitingUnit : SourceUnit := ⟨"a.jsx", "javascript", some waitingTree, waitingText, none, 0, 0⟩

/-- A script that calls a function with a text in which a loop starts. -/
def quotingText : Text := "t('for (x)')".toList

/-- What the grammar answers to the script. -/
def quotingOutline : Outline :=
  .node "program" "" true 0 12
    [.node "expression_statement" "" true 0 12
      [.node "call_expression" "" true 0 12
        [.node "identifier" "function" true 0 1 [],
          .node "arguments" "arguments" true 1 12 [.node "string" "" true 2 11 []]]]]

/-- The tree of the script. -/
def quotingTree : Node := quotingOutline.laidOver (Text.encode quotingText)

/-- The script made ready for the rules. -/
def quotingUnit : SourceUnit := ⟨"a.js", "javascript", some quotingTree, quotingText, none, 0, 0⟩

/-- A space is blank. -/
theorem isBlank_of_space : ∀ c ∈ [' '], Text.isBlank c = true := by
  intro c hc
  rw [List.mem_singleton.1 hc]
  decide

/-- There is no directive in an empty text. -/
theorem not_directiveAt_nil (i : Nat) : ¬DirectiveAt [] i := by
  rintro ⟨before, gap, behind, hnil, -⟩
  simp at hnil

/-- The text of a loop in a literal is no list. -/
theorem rendering?_of_no_loop_quoting :
    (∀ n ∈ quotingTree.walk, isLoop n = false) ∧ (∀ i, ¬DirectiveAt quotingUnit.markupView i) ∧
      LoopTextAt quotingUnit.script 3 ∧ rendering? quotingUnit = none := by
  have hloops : ∀ n ∈ quotingTree.walk, isLoop n = false := by decide
  have hcode : quotingUnit.codeView = "t('       ')".toList := by decide +kernel
  have hnone : ∀ i, ¬LoopTextAt quotingUnit.codeView i := by
    rintro i ⟨before, w, gap, behind, hview, -, hword, -⟩
    have hletter : 'm' ∈ w ∨ 'f' ∈ w := by
      rcases hword with rfl | rfl | ⟨rfl, -⟩
      all_goals decide
    have hplain : 'm' ∉ quotingUnit.codeView ∧ 'f' ∉ quotingUnit.codeView := by
      rw [hcode]
      decide
    rw [hview] at hplain
    rcases hletter with h | h
    · exact hplain.1 (by simp [h])
    · exact hplain.2 (by simp [h])
  refine ⟨hloops, not_directiveAt_nil, ⟨"t('".toList, "for".toList, [' '], "x)')".toList, ?_⟩, ?_⟩
  · exact ⟨by decide, by decide, .inr (.inr ⟨rfl, by decide⟩), isBlank_of_space⟩
  · exact (rendering?_of_no_loop (u := quotingUnit) rfl hloops not_directiveAt_nil).1.2 hnone

/-- The text of a tag is not blanked, so a word in it is taken for a loop. -/
theorem waiting_taken_for_list :
    SourceUnit.read? (fun _ _ => some waitingOutline) "a.jsx" waitingText = some waitingUnit ∧
      (∀ n ∈ waitingTree.walk, isLoop n = false) ∧ (∀ i, ¬DirectiveAt waitingUnit.markupView i) ∧
      ∃ e, rendering? waitingUnit = some e ∧
        evaluate (.plain 4) "a.jsx" waitingUnit [] = .ok (some [report (.plain 4) "a.jsx" e]) := by
  have hformat : Format.ofPath? "a.jsx" = some (.script .javascript) := by decide
  have hread : SourceUnit.read? (fun _ _ => some waitingOutline) "a.jsx" waitingText =
      some waitingUnit :=
    SourceUnit.read?_script hformat rfl
  have hloops : ∀ n ∈ waitingTree.walk, isLoop n = false := by decide
  have hcode : waitingUnit.codeView = waitingText := by decide +kernel
  have hmarkup : waitingUnit.markupView = [] := rfl
  have htext : LoopTextAt waitingUnit.codeView 18 := by
    rw [hcode]
    refine ⟨"const a = <p>Wait ".toList, "for".toList, [' '], "optional)</p>;".toList, ?_⟩
    exact ⟨by decide, by decide, .inr (.inr ⟨rfl, by decide⟩), isBlank_of_space⟩
  obtain ⟨e, he⟩ : ∃ e, rendering? waitingUnit = some e := by
    rw [← Option.isSome_iff_exists, ← Option.ne_none_iff_isSome]
    intro hnone
    rw [rendering?_eq] at hnone
    obtain ⟨-, hcode⟩ := Option.or_eq_none_iff.1 hnone
    exact loopInCode?_eq_none_iff.1 (Option.map_eq_none_iff.1 hcode) 18 htext
  have hnames : ∀ x ∈ waitingUnit.elements, Element.isNamedLike "table" x.name = false := by
    intro x hx
    rcases name_of_mem_elements hx with ⟨root, n, hroot, hn, hkind, hname⟩ | ⟨m, hm, -⟩
    · cases hroot
      have hall : ∀ n ∈ waitingTree.walk, Markup.tagKinds.contains n.kind = true →
          Element.isNamedLike "table" (n.fieldText "name") = false := by
        decide +kernel
      rw [hname]
      exact hall n hn hkind
    · have hall : Markup.tag.all [] = [] := by decide +kernel
      rw [hmarkup, hall] at hm
      cases hm
  have htable : usesTable waitingUnit = false := usesTable_eq_false hnames (by rw [hcode]; decide)
  have htest : lengthTest? waitingUnit = none :=
    lengthTest?_eq_none (by rw [hcode, hmarkup]; decide)
  exact ⟨hread, hloops, not_directiveAt_nil, e, he,
    evaluate_eq_report rfl htable he (by decide +kernel) htest "a.jsx"⟩

/-! ## The list that is reported -/

/-- The least of some lines is the least of these and others exactly if one of them is no greater than each of
the others. -/
theorem isLeast_union_iff {lines others : Set Nat} {line : Nat} (h : IsLeast lines line) :
    IsLeast (lines ∪ others) line ↔ ∀ k ∈ others, ∃ d ∈ lines, d ≤ k := by
  constructor
  · intro hfirst k hk
    exact ⟨line, h.1, hfirst.2 (.inr hk)⟩
  · intro hothers
    refine ⟨.inl h.1, ?_⟩
    rintro k (hk | hk)
    · exact h.2 hk
    · obtain ⟨d, hd, hdk⟩ := hothers k hk
      exact (h.2 hd).trans hdk

/-- The list that is reported in a file that can be read. It is the first of the directives if there are any, and
the first of the tree's loops otherwise. So it is the first of all lists of the file exactly if there are no
directives or there is one no later than each of the loops. -/
theorem reported_line {grammars : Grammars} {path : String} {file : Text}
    (hread : SourceUnit.read? grammars path file = some u)
    (hlists : (directiveLines u ∪ loopLines u).Nonempty) {settings : RuleSettings}
    {name : String} {diff : Text} {vs : List Violation}
    (hfound : evaluate settings name u diff = .ok (some vs)) {v : Violation} (hv : v ∈ vs) :
    ∃ line : Nat, v.line = line ∧
      ((directiveLines u).Nonempty → IsLeast (directiveLines u) line) ∧
      (directiveLines u = ∅ → IsLeast (loopLines u) line) ∧
      (IsLeast (directiveLines u ∪ loopLines u) line ↔
        directiveLines u = ∅ ∨ ∀ k ∈ loopLines u, ∃ d ∈ directiveLines u, d ≤ k) := by
  obtain ⟨e, hrendering, hline⟩ := evaluate_ensures
    (P := fun v => ∃ e, rendering? u = some e ∧ v.line = e.line) (fun e he => ⟨e, he, rfl⟩) hfound vs rfl
    v hv
  rw [rendering?_eq] at hrendering
  cases hmarkup : loopInMarkup? u with
  | some e' =>
    rw [hmarkup] at hrendering
    cases hrendering
    obtain ⟨line, heline, hleast⟩ := isLeast_of_loopInMarkup? hmarkup
    have hne : directiveLines u ≠ ∅ := Set.Nonempty.ne_empty ⟨line, hleast.1⟩
    refine ⟨line, hline.trans heline, fun _ => hleast, fun h => absurd h hne, ?_⟩
    rw [or_iff_right hne]
    exact isLeast_union_iff hleast
  | none =>
    have hempty : directiveLines u = ∅ := directiveLines_eq_empty_iff.2 hmarkup
    rw [hempty, Set.empty_union] at hlists ⊢
    obtain ⟨_, root, n, htree, hwalk, hloop, -⟩ := hlists
    cases hfirst : loopInTree? u root with
    | none =>
      have hno := loopInTree?_eq_none_iff.1 hfirst n hwalk
      rw [hloop] at hno
      cases hno
    | some e' =>
      rw [hmarkup, htree, Option.bind_some, hfirst] at hrendering
      cases hrendering
      obtain ⟨line, heline, hleast⟩ := isLeast_of_loopInTree? hread htree hfirst
      exact ⟨line, hline.trans heline, fun h => absurd h Set.not_nonempty_empty, fun _ => hleast,
        iff_of_true hleast (.inl rfl)⟩

/-- A component that visits a list in its script and then renders it in its template. -/
def visitingText : Text := "<script>a.map(f)</script>\n<template><p v-for=\"b in a\"/></template>".toList

/-- What the grammar answers to the script of the component. -/
def visitingOutline : Outline :=
  .node "program" "" true 0 8
    [.node "expression_statement" "" true 0 8
      [.node "call_expression" "" true 0 8
        [.node "member_expression" "function" true 0 5
            [.node "identifier" "object" true 0 1 [], .node "property_identifier" "property" true 2 5 []],
          .node "arguments" "arguments" true 5 8 [.node "identifier" "" true 6 7 []]]]]

/-- The tree of the script. -/
def visitingTree : Node := visitingOutline.laidOver (Text.encode "a.map(f)".toList)

/-- The component made ready for the rules. -/
def visitingUnit : SourceUnit :=
  ⟨"a.vue", "vue:javascript", some visitingTree, "a.map(f)".toList,
    some "<p v-for=\"b in a\"/>".toList, 0, 1⟩

/-- The component is read as the unit. -/
theorem read?_visiting :
    SourceUnit.read? (fun _ _ => some visitingOutline) "a.vue" visitingText = some visitingUnit := by
  have hscript : (Source.scriptBlock.search? visitingText).map
      (SourceUnit.blockParts visitingText) = some (.javascript, "a.map(f)".toList, 0) := by
    decide +kernel
  have htemplate : SourceUnit.template? visitingText = some ("<p v-for=\"b in a\"/>".toList, 1) := by
    decide +kernel
  exact SourceUnit.read?_component (by decide) hscript htemplate rfl

/-- The markup of the component has nothing to blank. -/
theorem markupView_visiting : visitingUnit.markupView = "<p v-for=\"b in a\"/>".toList := by
  decide +kernel

/-- The directive of the component stands on the second line. -/
theorem directiveLines_visiting : directiveLines visitingUnit = {2} := by
  have hline : ∀ i, markupLine visitingUnit i = 2 := by
    intro i
    have hnone : Text.lineFeeds visitingUnit.markupView = 0 := by rw [markupView_visiting]; decide
    have hle := Text.lineFeeds_take_le visitingUnit.markupView i
    have hoffset : visitingUnit.markupOffset = 1 := rfl
    unfold markupLine
    omega
  have hdirective : DirectiveAt visitingUnit.markupView 3 := by
    rw [markupView_visiting]
    exact ⟨"<p ".toList, [], "\"b in a\"/>".toList, by decide, by decide, by simp,
      by decide⟩
  have hne : {i | DirectiveAt visitingUnit.markupView i}.Nonempty := ⟨3, hdirective⟩
  rw [directiveLines, funext hline, hne.image_const]

/-- The loop of the component stands on the first line. -/
theorem mem_loopLines_visiting : 1 ∈ loopLines visitingUnit := by
  have hloop : ∃ n ∈ visitingTree.walk, isLoop n = true ∧ visitingUnit.lineOf n = 1 := by
    decide +kernel
  obtain ⟨n, hn, h⟩ := hloop
  exact ⟨visitingTree, n, rfl, hn, h⟩

/-- The rule reports the second line of the component. -/
theorem evaluate_visiting :
    ∃ v : Violation, evaluate (.plain 4) "a.vue" visitingUnit [] = .ok (some [v]) ∧ v.line = 2 := by
  obtain ⟨e, he⟩ : ∃ e, loopInMarkup? visitingUnit = some e := by
    rw [← Option.isSome_iff_exists, ← Option.ne_none_iff_isSome]
    intro hnone
    rw [← directiveLines_eq_empty_iff, directiveLines_visiting] at hnone
    exact Set.singleton_ne_empty 2 hnone
  have hrendering : rendering? visitingUnit = some e := by
    rw [rendering?_eq, he]
    rfl
  have hnames : ∀ x ∈ visitingUnit.elements, Element.isNamedLike "table" x.name = false := by
    intro x hx
    rcases name_of_mem_elements hx with ⟨root, n, hroot, hn, hkind, -⟩ | ⟨m, hm, hname⟩
    · cases hroot
      have hall : ∀ n ∈ visitingTree.walk, Markup.tagKinds.contains n.kind = false := by
        decide
      rw [hall n hn] at hkind
      cases hkind
    · have hall : ((Markup.tag.all "<p v-for=\"b in a\"/>".toList).all
          fun m => m.group 1 == ['p']) = true := by
        decide +kernel
      rw [markupView_visiting] at hm
      rw [hname, beq_iff_eq.1 (List.all_eq_true.1 hall m hm)]
      decide
  have hcode : visitingUnit.codeView = "a.map(f)".toList := by decide +kernel
  have htable : usesTable visitingUnit = false := usesTable_eq_false hnames (by rw [hcode]; decide)
  have htest : lengthTest? visitingUnit = none :=
    lengthTest?_eq_none (by rw [hcode, markupView_visiting]; decide)
  refine ⟨_, evaluate_eq_report rfl htable hrendering (by decide +kernel) htest "a.vue", ?_⟩
  obtain ⟨line, hline, hleast⟩ := isLeast_of_loopInMarkup? he
  rw [directiveLines_visiting] at hleast
  change e.line = 2
  rw [hline, Set.mem_singleton_iff.1 hleast.1]
  rfl

/-- The directive of the component is reported. -/
theorem reported_line_visiting :
    SourceUnit.read? (fun _ _ => some visitingOutline) "a.vue" visitingText = some visitingUnit ∧
      (directiveLines visitingUnit ∪ loopLines visitingUnit).Nonempty ∧
      ∃ v : Violation, evaluate (.plain 4) "a.vue" visitingUnit [] = .ok (some [v]) ∧
        ∃ line : Nat, v.line = line ∧ IsLeast (directiveLines visitingUnit) line := by
  have hlists : (directiveLines visitingUnit ∪ loopLines visitingUnit).Nonempty :=
    ⟨1, .inr mem_loopLines_visiting⟩
  obtain ⟨v, hv, -⟩ := evaluate_visiting
  obtain ⟨line, hline, hleast, -⟩ :=
    reported_line read?_visiting hlists hv (List.mem_singleton_self v)
  have hdirectives : (directiveLines visitingUnit).Nonempty := by
    rw [directiveLines_visiting]
    exact Set.singleton_nonempty 2
  exact ⟨read?_visiting, hlists, v, hv, line, hline, hleast hdirectives⟩

/-- The visit stands a line above the directive and is not reported. -/
theorem visit_overlooked :
    SourceUnit.read? (fun _ _ => some visitingOutline) "a.vue" visitingText = some visitingUnit ∧
      (directiveLines visitingUnit ∪ loopLines visitingUnit).Nonempty ∧
      ∃ v : Violation, evaluate (.plain 4) "a.vue" visitingUnit [] = .ok (some [v]) ∧
        ¬∃ line : Nat, v.line = line ∧
          IsLeast (directiveLines visitingUnit ∪ loopLines visitingUnit) line := by
  obtain ⟨v, hv, hline⟩ := evaluate_visiting
  refine ⟨read?_visiting, ⟨1, .inr mem_loopLines_visiting⟩, v, hv, ?_⟩
  rintro ⟨line, hv', hleast⟩
  have hle : line ≤ 1 := hleast.2 (.inr mem_loopLines_visiting)
  omega

end UxLint.EmptyState
