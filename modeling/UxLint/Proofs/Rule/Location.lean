import UxLint.Proofs.Rule.Findings
import UxLint.Proofs.Source.Blanking
import UxLint.Proofs.Source.Regions

/-!
# The lines of violations

A violation names a line of its file, while the rules look at a tree that counts octets of the script, at
views that count characters of the script or of the markup, and at rows of either. Each violation is
tied here to the construct that it reports, which stands at one place of the file, and the line of the
violation is shown to be the line of that place: `violation_line_eq` is the top.
-/

set_option autoImplicit false

namespace UxLint

/-- Something in a file that a rule can report. -/
inductive Construct where
  /-- A node of the script's tree. -/
  | node (n : Node)
  /-- A tag, so many characters into the markup. -/
  | tag (offset : Nat)
  /-- The directive of a loop, so many characters into the markup. -/
  | directive (offset : Nat)
  /-- The text of a loop, so many characters into the script. -/
  | loop (offset : Nat)

namespace Construct

open SourceUnit (scriptStart markupStart)

/-- The octets of the file before a node of its script's tree, which counts octets of the script. -/
def octetsBefore (path : String) (t : Text) (n : Node) : Nat :=
  (Text.encode (t.take (scriptStart path t))).length + n.start

/-- The line feeds of the file before a construct; before a node they are counted among octets. -/
def lineFeedsBefore (path : String) (t : Text) : Construct → Nat
  | node n => Outline.rowAt (Text.encode t) (octetsBefore path t n)
  | tag offset => Text.lineFeeds (t.take (markupStart path t + offset))
  | directive offset => Text.lineFeeds (t.take (markupStart path t + offset))
  | loop offset => Text.lineFeeds (t.take (scriptStart path t + offset))

/-- A construct stands in the file: a node of the tree where the file goes on with the octets of the
script from its start on, and anything else where the file has its first characters. -/
def StandsIn (path : String) (t : Text) (u : SourceUnit) : Construct → Prop
  | node n => (∃ root, u.tree = some root ∧ root.Inside n) ∧
      n.start ≤ (Text.encode u.script).length ∧
        (Text.encode u.script).drop n.start <+: (Text.encode t).drop (octetsBefore path t n)
  | tag offset => ['<'] <+: t.drop (markupStart path t + offset)
  | directive offset => "v-for".toList <+: t.drop (markupStart path t + offset)
  | loop offset =>
    ['.'] <+: t.drop (scriptStart path t + offset) ∨
      "for".toList <+: t.drop (scriptStart path t + offset)

/-- There are no more line feeds in front of a construct than in the text. -/
theorem lineFeedsBefore_le (path : String) (t : Text) (c : Construct) :
    c.lineFeedsBefore path t ≤ Text.lineFeeds t := by
  cases c with
  | node n => exact Text.count_encode t ▸ Outline.rowAt_le _ _
  | tag offset => exact Text.lineFeeds_take_le t _
  | directive offset => exact Text.lineFeeds_take_le t _
  | loop offset => exact Text.lineFeeds_take_le t _

end Construct

/-- The construct that an element was made from. -/
inductive ElementFrom (u : SourceUnit) : Element → Construct → Prop where
  /-- An element of the tree is made from the node of its tag. -/
  | node {root p : Place} {e : Element} (tree : u.root? = some root) (mem : p ∈ root.walk)
      (made : Markup.elementAt? u.scriptOffset p = some e) : ElementFrom u e (.node p.node)
  /-- An element of the markup is made from a tag in it. -/
  | tag {m : Pattern.Match} (mem : m ∈ Markup.tag.all u.markupView) :
      ElementFrom u (Markup.elementOf u.markupView u.markupOffset m) (.tag m.start)

/-- The construct that a list was found by. -/
inductive ListFrom (u : SourceUnit) : Evidence → Construct → Prop where
  /-- The directive of a loop in the markup. -/
  | directive {m : Pattern.Match} {e : Evidence}
      (found : EmptyState.markupLoop.search? u.markupView = some m)
      (made : EmptyState.loopInMarkup? u = some e) : ListFrom u e (.directive m.start)
  /-- A loop or a visit of a list in the tree. -/
  | node {root n : Node} {e : Evidence} (tree : u.tree = some root)
      (mem : n ∈ root.findAll EmptyState.isLoop) (line : e.line = u.lineOf n) :
      ListFrom u e (.node n)
  /-- The text of a loop in the script. -/
  | loop {m : Pattern.Match} {e : Evidence} (found : EmptyState.codeLoop.search? u.codeView = some m)
      (made : (EmptyState.loopInCode? u).map Evidence.asText = some e) : ListFrom u e (.loop m.start)

/-- The construct that a violation reports: the tag of the element for the rules on elements, the call for
the rules on requests, and the loop for the rule on lists. -/
inductive ReportedOn (s : Settings) (file : String) (u : SourceUnit) : Violation → Construct → Prop where
  /-- Rule 1 reports the element of a handler. -/
  | handler {h : Handler} {c : Construct} (function : Node) (elements : List Element)
      (verdict : DoubleSubmit.ActionVerdict) (line : h.line = h.element.line)
      (element : ElementFrom u h.element c) :
      ReportedOn s file u (DoubleSubmit.report file function elements h verdict) c
  /-- Rule 2 reports a request in a callback of page entry. -/
  | entry {root hook p : Place} (requests : Nat) (tree : u.root? = some root)
      (hook_mem : hook ∈ InitialLoading.lifecycleCallbacks root)
      (mem : p ∈ (Evaluator.classifier s).requests hook) :
      ReportedOn s file u (InitialLoading.report (s.rule 2) file u p requests) (.node p.node)
  /-- Rule 3 reports a request that changes data. -/
  | mutation {root p : Place} {verb : MutationVerb} (tree : u.root? = some root)
      (mem : p ∈ (Evaluator.classifier s).requests root)
      (changes : (Evaluator.classifier s).mutationVerb? p.node = some verb) :
      ReportedOn s file u (SuccessToast.report (s.rule 3) file u p.node verb) (.node p.node)
  /-- Rule 4 reports the list that the file renders. -/
  | list {e : Evidence} {c : Construct} (renders : EmptyState.rendering? u = some e)
      (found : ListFrom u e c) : ReportedOn s file u (EmptyState.report (s.rule 4) file e) c
  /-- Rule 5 reports an input. -/
  | input {e : Element} {c : Construct} (element : ElementFrom u e c)
      (isInput : InputPlaceholder.isInput (s.rule 5) e.name = true) :
      ReportedOn s file u (InputPlaceholder.report file e) c

/-! ## From violations to constructs -/

section Constructs

variable {u : SourceUnit}

/-- Every element comes from a construct. -/
theorem exists_elementFrom {e : Element} (h : e ∈ u.elements) : ∃ c, ElementFrom u e c := by
  rcases List.mem_append.1 (List.mem_mergeSort.1 h) with h | h
  · unfold SourceUnit.treeElements at h
    cases hroot : u.root? with
    | none =>
      rw [hroot] at h
      cases h
    | some root =>
      rw [hroot] at h
      obtain ⟨p, hp, hmade⟩ := List.mem_filterMap.1 h
      exact ⟨_, .node hroot hp hmade⟩
  · unfold SourceUnit.textElements at h
    cases hmarkup : u.markup with
    | none =>
      rw [hmarkup] at h
      cases h
    | some markup =>
      rw [hmarkup] at h
      obtain ⟨m, hm, rfl⟩ := List.mem_map.1 h
      exact ⟨_, .tag hm⟩

/-- A loop that is found in the tree comes from a construct. -/
theorem exists_listFrom_tree {root : Node} (htree : u.tree = some root) {e : Evidence}
    (h : EmptyState.loopInTree? u root = some e) : ∃ c, ListFrom u e c := by
  unfold EmptyState.loopInTree? at h
  split at h
  · cases h
  · next n rest hloops =>
    cases h
    have hmem := leftmost_mem Node.start n rest
    rw [← hloops] at hmem
    exact ⟨_, .node htree hmem rfl⟩

/-- A loop that is found in the code comes from a construct. -/
theorem exists_listFrom_code {e : Evidence}
    (h : (EmptyState.loopInCode? u).map Evidence.asText = some e) : ∃ c, ListFrom u e c := by
  have hmade := h
  unfold EmptyState.loopInCode? at h
  rw [Option.map_map] at h
  obtain ⟨m, hm, -⟩ := Option.map_eq_some_iff.1 h
  exact ⟨_, .loop hm hmade⟩

/-- A list is looked for in the markup, then in the tree, and then in the text of the script. -/
theorem EmptyState.rendering?_eq (u : SourceUnit) :
    rendering? u = ((loopInMarkup? u).or (u.tree.bind (loopInTree? u))).or
      ((loopInCode? u).map Evidence.asText) := by
  unfold rendering?
  cases loopInMarkup? u with
  | some e => rfl
  | none =>
    cases u.tree with
    | none => cases loopInCode? u <;> rfl
    | some root =>
      rw [Option.bind_some]
      cases hloop : loopInTree? u root with
      | some e => simp [Evidence.first, Evidence.inTiers, hloop]
      | none =>
        simp only [Evidence.first, Evidence.inTiers, Option.map_some, hloop]
        cases loopInCode? u <;> rfl

/-- The rendering of a list comes from a construct. -/
theorem exists_listFrom {e : Evidence} (h : EmptyState.rendering? u = some e) :
    ∃ c, ListFrom u e c := by
  rw [EmptyState.rendering?_eq, Option.or_eq_some_iff, Option.or_eq_some_iff] at h
  rcases h with (hmarkup | ⟨-, htree⟩) | ⟨-, hcode⟩
  · have hmade := hmarkup
    obtain ⟨m, hm, -⟩ := Option.map_eq_some_iff.1 hmarkup
    exact ⟨_, .directive hm hmade⟩
  · obtain ⟨root, hroot, hloop⟩ := Option.bind_eq_some_iff.1 htree
    exact exists_listFrom_tree hroot hloop
  · exact exists_listFrom_code hcode

/-- Whatever a rule reports, it reports on a construct. -/
theorem Reported.exists_construct {s : Settings} {file : String} {v : Violation}
    (h : Reported s file u v) : ∃ c, ReportedOn s file u v c := by
  cases h with
  | handler function elements verdict mem line =>
    obtain ⟨c, hc⟩ := exists_elementFrom mem
    exact ⟨c, .handler function elements verdict line hc⟩
  | entry requests tree hook_mem mem => exact ⟨_, .entry requests tree hook_mem mem⟩
  | mutation tree mem changes => exact ⟨_, .mutation tree mem changes⟩
  | list renders =>
    obtain ⟨c, hc⟩ := exists_listFrom renders
    exact ⟨c, .list renders hc⟩
  | input mem isInput =>
    obtain ⟨c, hc⟩ := exists_elementFrom mem
    exact ⟨c, .input hc isInput⟩

end Constructs

/-! ## Where patterns start -/

section Patterns

variable {t : Text} {m : Pattern.Match}

/-- A tag begins with its bracket. -/
theorem tag_begins (h : Markup.tag.Found t m) : ['<'] <+: t.drop m.start := by
  obtain ⟨c, hc, hstart, hreads⟩ := h
  rw [hstart, ← hc.rest]
  cases hreads with
  | @both _ _ _ d _ first _ => exact ⟨d.rest, first.char_rest.symm⟩

/-- A loop in the markup begins with its directive. -/
theorem markupLoop_begins (h : EmptyState.markupLoop.Found t m) :
    "v-for".toList <+: t.drop m.start := by
  obtain ⟨c, hc, hstart, hreads⟩ := h
  rw [hstart, ← hc.rest]
  cases hreads with
  | both first second =>
    cases first
    cases second with
    | both literal _ => exact literal.literal_prefix

/-- A loop in the code begins with a dot or with its keyword. -/
theorem codeLoop_begins (h : EmptyState.codeLoop.Found t m) :
    ['.'] <+: t.drop m.start ∨ "for".toList <+: t.drop m.start := by
  obtain ⟨c, hc, hstart, hreads⟩ := h
  rw [hstart, ← hc.rest]
  cases hreads with
  | left hreads =>
    cases hreads with
    | @both _ _ _ d _ first _ => exact .inl ⟨d.rest, first.char_rest.symm⟩
  | right hreads =>
    cases hreads with
    | both first second =>
      cases first
      cases second with
      | both literal _ => exact .inr literal.literal_prefix

end Patterns

/-! ## Lines -/

/-- The nodes that a grammar answers with lie inside the octets of the script. -/
def Grammars.SpansInside (grammars : Grammars) : Prop :=
  ∀ grammar script root, grammars.tree? grammar script = some root → ∀ n, root.Inside n →
    n.start ≤ (Text.encode script).length ∧ n.stop ≤ (Text.encode script).length

section Lines

open SourceUnit (scriptStart markupStart regions_of_read? tree_of_read?)

variable {grammars : Grammars} {path : String} {t : Text} {u : SourceUnit}

/-- A part of a view that starts with something other than spaces stands in the file, and the lines before
it are those before the region and those in the view. -/
theorem view_place {view : Source.View} {region w : Text} {start : Nat} {p : Pattern}
    {m : Pattern.Match} (hregion : region <+: t.drop start)
    (hfound : p.Found (Source.strip view region) m) (hw : ' ' ∉ w)
    (hbegins : w <+: (Source.strip view region).drop m.start) :
    w <+: t.drop (start + m.start) ∧
      Text.lineFeeds (t.take (start + m.start)) =
        Text.lineFeeds (t.take start) +
          Text.lineFeeds ((Source.strip view region).take m.start) := by
  refine ⟨?_, ?_⟩
  · rw [← List.drop_drop]
    exact (Source.prefix_drop_of_strip hw hbegins).trans (List.IsPrefix.drop hregion _)
  · have hlength := hfound.start_le
    rw [Source.length_strip] at hlength
    rw [Text.lineFeeds_take_region hregion hlength, Source.lineFeeds_take_strip]

/-- What a pattern finds in the view of the markup. -/
theorem markup_place (hread : SourceUnit.read? grammars path t = some u) {p : Pattern}
    {m : Pattern.Match} (hfound : p.Found u.markupView m) {w : Text} (hne : w ≠ [])
    (hw : ' ' ∉ w) (hbegins : w <+: u.markupView.drop m.start) :
    w <+: t.drop (markupStart path t + m.start) ∧
      u.markupOffset + Text.lineFeeds (u.markupView.take m.start) =
        Text.lineFeeds (t.take (markupStart path t + m.start)) := by
  have hregions := regions_of_read? hread
  cases hmarkup : u.markup with
  | none =>
    -- There is nothing in the view of no markup.
    rw [SourceUnit.markupView, hmarkup, List.drop_nil] at hbegins
    exact absurd (List.prefix_nil.1 hbegins) hne
  | some region =>
    have hview : u.markupView = Source.strip .markup region := by
      rw [SourceUnit.markupView, hmarkup]
    rw [hview] at hfound hbegins ⊢
    obtain ⟨hstands, hlines⟩ := view_place (hregions.markup region hmarkup) hfound hw hbegins
    refine ⟨hstands, ?_⟩
    rw [hlines, hregions.markupOffset region hmarkup]

/-- What a pattern finds in the view of the script. -/
theorem script_place (hread : SourceUnit.read? grammars path t = some u) {p : Pattern}
    {m : Pattern.Match} (hfound : p.Found u.codeView m) {w : Text} (hw : ' ' ∉ w)
    (hbegins : w <+: u.codeView.drop m.start) :
    w <+: t.drop (scriptStart path t + m.start) ∧
      u.scriptOffset + Text.lineFeeds (u.codeView.take m.start) =
        Text.lineFeeds (t.take (scriptStart path t + m.start)) := by
  have hregions := regions_of_read? hread
  obtain ⟨hstands, hlines⟩ := view_place hregions.script hfound hw hbegins
  refine ⟨hstands, ?_⟩
  rw [hlines, hregions.scriptOffset]
  rfl

/-- The line of a node counts the line feeds in front of it in the file. -/
theorem lineOf_eq (hinside : grammars.SpansInside)
    (hread : SourceUnit.read? grammars path t = some u) {root n : Node} (htree : u.tree = some root)
    (hn : root.Inside n) :
    (Construct.node n).StandsIn path t u ∧
      u.lineOf n = 1 + (Construct.node n).lineFeedsBefore path t := by
  obtain ⟨grammar, hparse⟩ := tree_of_read? hread htree
  have hbound := (hinside grammar u.script root hparse n hn).1
  have hregions := regions_of_read? hread
  refine ⟨⟨⟨root, htree, hn⟩, hbound, Text.encode_drop_prefix hregions.script hbound⟩, ?_⟩
  obtain ⟨o, -, rfl⟩ := Option.map_eq_some_iff.1 hparse
  have hrow := (Outline.knowsRows_of_inside hn).1
  unfold SourceUnit.lineOf Construct.lineFeedsBefore Construct.octetsBefore
  dsimp only
  rw [hrow, Outline.rowAt_encode_region hregions.script hbound, hregions.scriptOffset]
  omega

/-- The line of an element counts the line feeds in front of it in the file. -/
theorem element_line_eq (hinside : grammars.SpansInside)
    (hread : SourceUnit.read? grammars path t = some u) {e : Element} {c : Construct}
    (h : ElementFrom u e c) :
    c.StandsIn path t u ∧ e.line = 1 + c.lineFeedsBefore path t := by
  cases h with
  | @node root p _ tree mem made =>
    obtain ⟨node, hnode, rfl⟩ := Option.map_eq_some_iff.1 tree
    obtain ⟨hstands, hline⟩ := lineOf_eq hinside hread hnode (Place.inside_of_mem_walk mem)
    refine ⟨hstands, ?_⟩
    unfold Markup.elementAt? at made
    split at made
    · cases made
    · obtain ⟨name, -, rfl⟩ := Option.map_eq_some_iff.1 made
      exact congrArg Nat.cast hline
  | @tag m mem =>
    have hfound := Pattern.all_found m mem
    obtain ⟨hstands, hlines⟩ := markup_place hread hfound (w := ['<']) (by decide) (by decide)
      (tag_begins hfound)
    refine ⟨hstands, ?_⟩
    unfold Markup.elementOf Construct.lineFeedsBefore
    dsimp only
    rw [← hlines]
    omega

/-- The line of a list counts the line feeds in front of it in the file. -/
theorem list_line_eq (hinside : grammars.SpansInside)
    (hread : SourceUnit.read? grammars path t = some u) {e : Evidence} {c : Construct}
    (h : ListFrom u e c) :
    c.StandsIn path t u ∧ e.line = 1 + c.lineFeedsBefore path t := by
  cases h with
  | @directive m _ found made =>
    have hfound := Pattern.search?_found found
    obtain ⟨hstands, hlines⟩ := markup_place hread hfound (w := "v-for".toList)
      (by decide) (by decide) (markupLoop_begins hfound)
    refine ⟨hstands, ?_⟩
    unfold EmptyState.loopInMarkup? at made
    rw [found] at made
    cases made
    unfold Construct.lineFeedsBefore
    dsimp only
    rw [← hlines]
    omega
  | @node root n _ tree mem line =>
    obtain ⟨hstands, hline⟩ := lineOf_eq hinside hread tree
      (root.inside_of_mem_walk (List.mem_filter.1 mem).1)
    exact ⟨hstands, line.trans (congrArg Nat.cast hline)⟩
  | @loop m _ found made =>
    have hfound := Pattern.search?_found found
    have hplace : (Construct.loop m.start).StandsIn path t u ∧
        u.scriptOffset + Text.lineFeeds (u.codeView.take m.start) =
          Text.lineFeeds (t.take (scriptStart path t + m.start)) := by
      rcases codeLoop_begins hfound with hdot | hfor
      · obtain ⟨hstands, hlines⟩ := script_place hread hfound (by decide) hdot
        exact ⟨.inl hstands, hlines⟩
      · obtain ⟨hstands, hlines⟩ := script_place hread hfound (by decide) hfor
        exact ⟨.inr hstands, hlines⟩
    obtain ⟨hstands, hlines⟩ := hplace
    refine ⟨hstands, ?_⟩
    unfold EmptyState.loopInCode? at made
    rw [found] at made
    cases made
    unfold Construct.lineFeedsBefore Evidence.asText
    dsimp only
    rw [← hlines]
    omega

/-- The line of a report is the line on which the construct that it reports stands. -/
theorem ReportedOn.line_eq {s : Settings} {file : String} {v : Violation} {c : Construct}
    (hinside : grammars.SpansInside) (hread : SourceUnit.read? grammars path t = some u)
    (h : ReportedOn s file u v c) :
    c.StandsIn path t u ∧ v.line = 1 + c.lineFeedsBefore path t := by
  cases h with
  | @handler h _ function elements verdict line element =>
    have hline : (DoubleSubmit.report file function elements h verdict).line = h.line := by
      unfold DoubleSubmit.report
      split
      · rfl
      · split <;> rfl
    obtain ⟨hstands, helement⟩ := element_line_eq hinside hread element
    exact ⟨hstands, hline.trans (line.trans helement)⟩
  | @entry root hook p requests tree hook_mem mem =>
    obtain ⟨node, hnode, rfl⟩ := Option.map_eq_some_iff.1 tree
    have hhook := InitialLoading.inside_of_mem_lifecycleCallbacks hook_mem
    have hp := Place.inside_of_mem_walk (Classifier.mem_walk_of_mem_requests mem)
    obtain ⟨hstands, hline⟩ := lineOf_eq hinside hread hnode (hhook.trans hp)
    exact ⟨hstands, congrArg Nat.cast hline⟩
  | @mutation root p verb tree mem changes =>
    obtain ⟨node, hnode, rfl⟩ := Option.map_eq_some_iff.1 tree
    have hp := Place.inside_of_mem_walk (Classifier.mem_walk_of_mem_requests mem)
    obtain ⟨hstands, hline⟩ := lineOf_eq hinside hread hnode hp
    exact ⟨hstands, congrArg Nat.cast hline⟩
  | list renders found => exact list_line_eq hinside hread found
  | input element isInput => exact element_line_eq hinside hread element

/-- Every violation that a rule finds in a file that can be read, with whatever lookup and difference,
reports something that stands in the file, and names the line on which it stands. The script and the
markup of the file stand where the unit says. -/
theorem violation_line_eq {σ : Type} {s : Settings} {lookup : Option (Lookup (StateM σ))}
    {e : Evaluator (StateM σ)} {file : String} {diff : Text} {state : σ} {vs : List Violation}
    {v : Violation} (hinside : grammars.SpansInside)
    (hread : SourceUnit.read? grammars path t = some u) (he : e ∈ Evaluator.all s lookup)
    (hevaluate : ((e.evaluate file u diff).run.run state).1 = .ok (some vs)) (hv : v ∈ vs) :
    (∃ c, ReportedOn s file u v c ∧ c.StandsIn path t u ∧
        v.line = 1 + c.lineFeedsBefore path t) ∧
      1 ≤ v.line ∧ v.line ≤ 1 + Text.lineFeeds t ∧ u.Regions path t := by
  have hreported := (found_reported he file u diff).of_state_ok hevaluate vs rfl v hv
  obtain ⟨c, hc⟩ := hreported.exists_construct
  obtain ⟨hstands, hline⟩ := hc.line_eq hinside hread
  have hle := c.lineFeedsBefore_le path t
  refine ⟨⟨c, hc, hstands, hline⟩, ?_, ?_, regions_of_read? hread⟩
  · omega
  · omega

end Lines

/-- Grammars that answer with an empty program. -/
def emptyPrograms : Grammars := fun _ _ => some (.node "program" "" true 0 0 [])

/-- A component with an input on its third line. -/
def inputComponent : Text := "<script></script>\n<template>\n<input></template>".toList

/-- The component made ready for the rules. -/
def inputUnit : SourceUnit :=
  ⟨"a.vue", "vue:javascript", emptyPrograms.tree? .javascript [], [], some "\n<input>".toList, 0, 1⟩

/-- The grammars of the example answer with nodes inside of the text. -/
theorem emptyPrograms_spansInside : emptyPrograms.SpansInside := by
  intro grammar script root hroot n hn
  have hleaf : n = root := by
    cases hroot
    induction hn with
    | self => rfl
    | child _ hmem ih =>
      rw [ih] at hmem
      cases hmem
  rw [hleaf]
  cases hroot
  exact ⟨Nat.zero_le _, Nat.zero_le _⟩

/-- The component is read as the unit. -/
theorem read?_inputComponent :
    SourceUnit.read? emptyPrograms "a.vue" inputComponent = some inputUnit := by
  have hscript : (Source.scriptBlock.search? inputComponent).map
      (SourceUnit.blockParts inputComponent) = some (.javascript, [], 0) := by
    decide +kernel
  have htemplate : SourceUnit.template? inputComponent = some ("\n<input>".toList, 1) := by
    decide +kernel
  exact SourceUnit.read?_component (by decide) hscript htemplate rfl

/-- The input of the component is reported on its line in the file. -/
theorem InputPlaceholder.evaluate_inputUnit :
    evaluate ⟨5, true, [], [], [("inputComponents", ["input"])]⟩ "a.vue" inputUnit [] =
      .ok (some [⟨5, "missing-placeholder", "a.vue", 3,
        "New input component <input> has no placeholder.",
        "Add a hint, e.g. <input placeholder=\"请输入...\" />."⟩]) :=
  eq_ok_of_toOption (by decide +kernel)

/-- A component with an input that a new file adds. -/
theorem violation_line_eq_input :
    let s : Settings := ⟨[⟨5, true, [], [], [("inputComponents", ["input"])]⟩], [], [],
      "declareRequest", false⟩
    let v : Violation := ⟨5, "missing-placeholder", "a.vue", 3,
      "New input component <input> has no placeholder.",
      "Add a hint, e.g. <input placeholder=\"请输入...\" />."⟩
    let rule : Evaluator (StateM Unit) := ⟨5, fun path u diff =>
      MonadExcept.ofExcept (InputPlaceholder.evaluate (s.rule 5) path u diff)⟩
    emptyPrograms.SpansInside ∧
      SourceUnit.read? emptyPrograms "a.vue" inputComponent = some inputUnit ∧
      rule ∈ Evaluator.all s none ∧
      ((rule.evaluate "a.vue" inputUnit []).run.run ()).1 = .ok (some [v]) ∧
      (∃ c, ReportedOn s "a.vue" inputUnit v c ∧ c.StandsIn "a.vue" inputComponent inputUnit ∧
        v.line = 1 + c.lineFeedsBefore "a.vue" inputComponent) ∧
      1 ≤ v.line ∧ v.line ≤ 1 + Text.lineFeeds inputComponent ∧
      inputUnit.Regions "a.vue" inputComponent := by
  intro s v rule
  have hrule : rule ∈ Evaluator.all s none := by
    simp [Evaluator.all, rule]
  have hevaluate : ((rule.evaluate "a.vue" inputUnit []).run.run ()).1 = .ok (some [v]) := by
    have hsettings : s.rule 5 = ⟨5, true, [], [], [("inputComponents", ["input"])]⟩ := rfl
    dsimp only [rule]
    rw [hsettings, InputPlaceholder.evaluate_inputUnit]
    rfl
  exact ⟨emptyPrograms_spansInside, read?_inputComponent, hrule, hevaluate,
    violation_line_eq emptyPrograms_spansInside read?_inputComponent hrule hevaluate
      (List.mem_singleton_self v)⟩

end UxLint
