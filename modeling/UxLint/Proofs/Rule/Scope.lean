import UxLint.Proofs.Resolver.Declarations
import UxLint.Proofs.Rule.Callbacks
import UxLint.Proofs.Rule.Narrowing
import UxLint.Proofs.Source.Regions
import UxLint.Proofs.Syntax.Comments
import UxLint.Proofs.Text.Pieces

/-!
# The changes that concern the rule on loading states

The rule judges a page on a change only if the file is new, the change mentions page entry, or the code view
of the file holds the name of an effect hook. So a page is judged alike on every change exactly if its code
view holds such a name (`judged_alike`). A callback that is handed to an effect hook brings that about as
long as the view shows the names in the target of the call; a callback that is the method of a class does
not, and such a page is left alone on a change beside the method (`method_left_alone`).
-/

set_option autoImplicit false

namespace UxLint

/-! ## The end of a dotted name -/

namespace Node

/-- Whether a node is a name, or the property that a member selects. -/
def isName (n : Node) : Bool := nameKinds.contains n.kind || n.label.field == "property"

/-- The last segment of a dotted name is that behind its last dot. -/
theorem lastSegment_join (a b : String) : lastSegment (a ++ "." ++ b) = lastSegment b := by
  have htext : (a ++ "." ++ b).toList = a.toList ++ '.' :: b.toList := by simp
  rw [lastSegment, lastSegment, htext, Text.lastPiece_append]

/-- The last segment of the dotted name of an expression is that of a name inside it. -/
theorem exists_isName {w : String} (hw : w ≠ "") (hthis : w ≠ "this") (n : Node)
    (h : lastSegment n.dottedName = w) :
    ∃ m, n.Inside m ∧ m.isName = true ∧ lastSegment m.text = w := by
  have hnone : lastSegment "" ≠ w := hw.symm
  induction n using induction_children with
  | h l cs ih =>
    -- A child that has the dotted name has the name inside it.
    have hchild : ∀ c ∈ cs, lastSegment c.dottedName = w →
        ∃ m, (node l cs).Inside m ∧ m.isName = true ∧ lastSegment m.text = w := by
      intro c hc hname
      obtain ⟨m, hm, h⟩ := ih c hc hname
      exact ⟨m, (Inside.self.child hc).trans hm, h⟩
    have hsome : ∀ q : Node → Bool, lastSegment (dottedNameOf (cs.find? q)) = w →
        ∃ m, (node l cs).Inside m ∧ m.isName = true ∧ lastSegment m.text = w := by
      intro q hq
      cases hfind : cs.find? q with
      | none =>
        rw [hfind] at hq
        exact absurd hq hnone
      | some c =>
        rw [hfind] at hq
        exact hchild c (List.mem_of_find?_eq_some hfind) hq
    rw [dottedName, dottedNameFirst_eq, dottedNameField_eq, dottedNameField_eq] at h
    split_ifs at h with hwrapper hcall hkind hself hmember
    · exact hsome _ h
    · exact hsome _ h
    · exact ⟨node l cs, .self, by simp only [isName, kind, label, hkind, Bool.true_or], h⟩
    · exact absurd h.symm hthis
    · have hproperty : lastSegment (fieldText (node l cs) "property") = w := by
        dsimp only at h
        split_ifs at h
        · exact h
        · rwa [lastSegment_join] at h
      unfold fieldText at hproperty
      cases hfield : (node l cs).field? "property" with
      | none =>
        rw [hfield] at hproperty
        exact absurd hproperty hnone
      | some m =>
        rw [hfield] at hproperty
        have hlabel := List.find?_some hfield
        exact ⟨m, Inside.self.field? hfield, by simp only [isName, hlabel, Bool.or_true], hproperty⟩
    · exact absurd h hnone

end Node

/-- The code view shows a node where it stands: its text follows behind as many characters as the script has
in the octets before it. -/
def SourceUnit.Shows (u : SourceUnit) (n : Node) : Prop :=
  ∃ before behind, u.script = before ++ behind ∧ (Text.encode before).length = n.start ∧
    n.text.toList <+: u.codeView.drop before.length

namespace InitialLoading

/-! ## What the rule looks at -/

/-- The rule looks at a file: it is switched on, the path is not exempt, and the file has a tree and looks like
a page. -/
structure LooksAt (settings : RuleSettings) (path : String) (u : SourceUnit) : Prop where
  enabled : settings.enabled = true
  checked : settings.isPathWhitelisted path = false
  tree : u.tree.isSome = true
  page : looksLikePage u = true

/-- The code view holds the name of an effect hook. -/
def NamesHook (u : SourceUnit) : Prop := ∃ hook ∈ effectHooks, hook.toList <:+: u.codeView

variable {u : SourceUnit} {settings : RuleSettings} {path : String}

/-- A difference concerns a unit if the unit is new, a token is mentioned or the code names a hook. -/
theorem concerns_eq_true_iff {d : Diff} : concerns u d = true ↔
    d.isNew = true ∨ d.mentionsAny diffTokens = true ∨ NamesHook u := by
  unfold concerns NamesHook
  simp only [Bool.or_eq_true, List.any_eq_true, Text.holds_iff, or_assoc]

/-- A difference that neither makes the file new nor adds a line. -/
def blankDiff : Diff := ⟨"@@".toList, false, []⟩

/-- The difference without lines is read as one. -/
theorem read_blankDiff : Diff.read "@@".toList = .ok blankDiff := by rfl

/-- A difference without lines concerns the units that name a hook. -/
theorem concerns_blankDiff : concerns u blankDiff = true ↔ NamesHook u := by
  rw [concerns_eq_true_iff, or_iff_right (by decide), or_iff_right (by decide)]

/-- What the rule says about a tree that it looks at. -/
def judgement {m : Type → Type} [Monad m] (settings : RuleSettings) (classifier : Classifier)
    (lookup : Option (Lookup m)) (path : String) (u : SourceUnit) (root : Place) :
    ExceptT Fault m Findings := do
  match ← uncovered settings classifier lookup u
    ((lifecycleCallbacks root).filter fun h => !isExempt settings h) with
  | [] => return some []
  | p :: rest => return some [report settings path u (leftmost (·.node.start) p rest) (rest.length + 1)]

section Runs

variable {classifier : Classifier} {lookup : Option (Lookup Id)} {diff : Text} {d : Diff}

/-- The judgement is never that the rule has nothing to say. -/
theorem judgement_ne_none (root : Place) :
    (judgement settings classifier lookup path u root).run ≠ .ok none := by
  unfold judgement
  rw [ExceptT.run_bind]
  cases (uncovered settings classifier lookup u
      ((lifecycleCallbacks root).filter fun h => !isExempt settings h)).run with
  | error fault => exact fun h => by cases h
  | ok found =>
    cases found with
    | nil => exact fun h => by cases h
    | cons p rest => exact fun h => by cases h

/-- The rule judges a unit that the difference concerns and that looks like a page. -/
theorem evaluate_eq (hon : (!settings.enabled || settings.isPathWhitelisted path) = false) {root : Place}
    (hroot : u.root? = some root) (hd : Diff.read diff = .ok d) :
    evaluate settings classifier lookup path u diff =
      if (!concerns u d || !looksLikePage u) = true then pure none
      else judgement settings classifier lookup path u root := by
  unfold evaluate
  rw [hon, if_neg Bool.false_ne_true, hroot, hd]
  change (pure d >>= fun d => if (!concerns u d || !looksLikePage u) = true then pure none
    else judgement settings classifier lookup path u root) = _
  rw [pure_bind]

/-- A unit that is looked at is judged if the difference concerns it. -/
theorem run_evaluate_of_lookedAt (h : LooksAt settings path u) {root : Place}
    (hroot : u.root? = some root) (hd : Diff.read diff = .ok d) :
    (evaluate settings classifier lookup path u diff).run =
      if concerns u d = true then (judgement settings classifier lookup path u root).run
      else .ok none := by
  have hon : (!settings.enabled || settings.isPathWhitelisted path) = false := by
    rw [h.enabled, h.checked]
    rfl
  rw [evaluate_eq hon hroot hd, h.page]
  cases concerns u d with
  | true => rfl
  | false => rfl

/-- The rule has nothing to say about a unit that is not looked at. -/
theorem run_evaluate_of_not_lookedAt (h : ¬LooksAt settings path u) (hd : Diff.read diff = .ok d) :
    (evaluate settings classifier lookup path u diff).run = .ok none := by
  by_cases hoff : (!settings.enabled || settings.isPathWhitelisted path) = true
  · unfold evaluate
    rw [if_pos hoff]
    rfl
  · rw [Bool.not_eq_true] at hoff
    cases htree : u.tree with
    | none =>
      unfold evaluate
      rw [hoff, SourceUnit.root?, htree]
      rfl
    | some n =>
      obtain ⟨henabled, hchecked⟩ := Bool.or_eq_false_iff.1 hoff
      have hpage : looksLikePage u = false := by
        rw [← Bool.not_eq_true]
        exact fun hpage => h ⟨by simpa using henabled, hchecked, by rw [htree]; rfl, hpage⟩
      have hroot : u.root? = some (Place.root n) := by rw [SourceUnit.root?, htree]; rfl
      rw [evaluate_eq hoff hroot hd, hpage, Bool.not_false, Bool.or_true, if_pos rfl]
      rfl

/-- On a change that can be read, the rule says what it says about the whole file exactly if it does not look at
the file or the change concerns it. -/
theorem run_evaluate_eq_whole_iff (hd : Diff.read diff = .ok d) :
    (evaluate settings classifier lookup path u diff).run =
        (evaluate settings classifier lookup path u []).run ↔
      ¬LooksAt settings path u ∨ concerns u d = true := by
  by_cases h : LooksAt settings path u
  · obtain ⟨n, hn⟩ := Option.isSome_iff_exists.1 h.tree
    have hroot : u.root? = some (Place.root n) := by rw [SourceUnit.root?, hn]; rfl
    have hwhole : concerns u .whole = true := rfl
    rw [run_evaluate_of_lookedAt h hroot hd, run_evaluate_of_lookedAt h hroot Diff.read_nil,
      if_pos hwhole]
    cases concerns u d with
    | true => simp
    | false => simpa [h] using (judgement_ne_none (Place.root n)).symm
  · rw [run_evaluate_of_not_lookedAt h hd, run_evaluate_of_not_lookedAt h Diff.read_nil]
    simp [h]

end Runs

/-! ## Callbacks that are handed over -/

/-- A call that hands a callback to an effect hook. If the code view shows the names in its target, it holds the
name of the hook. -/
theorem namesHook_of_call {call target : Node} (htarget : call.callTarget? = some target)
    (hhook : effectHooks.contains (lastSegment call.targetName) = true)
    (hshown : ∀ n, target.Inside n → n.isName = true → u.Shows n) : NamesHook u := by
  have hmem : lastSegment call.targetName ∈ effectHooks := List.contains_iff_mem.1 hhook
  have hname : lastSegment target.dottedName = lastSegment call.targetName := by
    rw [Node.targetName, htarget]
    rfl
  have hordinary : ∀ hook ∈ effectHooks, hook ≠ "" ∧ hook ≠ "this" := by decide
  obtain ⟨hne, hthis⟩ := hordinary _ hmem
  obtain ⟨n, hn, hisName, htext⟩ := target.exists_isName hne hthis hname
  obtain ⟨before, behind, -, -, hview⟩ := hshown n hn hisName
  refine ⟨_, hmem, ?_⟩
  have hsegment : (lastSegment call.targetName).toList <:+ n.text.toList := by
    rw [← htext, lastSegment, String.toList_ofList]
    exact Text.lastPiece_suffix '.' n.text.toList
  exact hsegment.isInfix.trans (hview.isInfix.trans (List.drop_suffix before.length _).isInfix)

/-- A callback of a hook is handed to one by name. -/
theorem effectHooks_of_hookCallback? {call hook : Place} (h : hookCallback? call = some hook) :
    effectHooks.contains (lastSegment call.node.targetName) = true := by
  unfold hookCallback? at h
  split at h
  · next hcontains => exact hcontains
  · cases h

/-! ## Every change -/

/-- The changes on which the rule judges a file as it judges the whole file. These are all changes that can be
read exactly if the rule does not look at the file or its code view names an effect hook. If the view does not,
a change that concerns the rule in no other way makes it leave the file alone. The view names an effect hook
wherever the tree hands a callback to one and the view shows the names in the target of the call. -/
theorem judged_alike (settings : RuleSettings) (classifier : Classifier) (lookup : Option (Lookup Id))
    (path : String) (u : SourceUnit) :
    let judged := fun diff => (evaluate settings classifier lookup path u diff).run
    ((∀ diff, Diff.Readable diff → judged diff = judged []) ↔
        ¬LooksAt settings path u ∨ NamesHook u) ∧
      (∀ diff d, Diff.read diff = .ok d → LooksAt settings path u →
        ((d.isNew = true ∨ d.mentionsAny diffTokens = true ∨ NamesHook u) → judged diff = judged []) ∧
        (¬(d.isNew = true ∨ d.mentionsAny diffTokens = true ∨ NamesHook u) →
          judged diff = .ok none ∧ judged [] ≠ .ok none)) ∧
      ∀ root call hook target, u.root? = some root → call ∈ root.calls →
        hookCallback? call = some hook → call.node.callTarget? = some target →
        (∀ n, target.Inside n → n.isName = true → u.Shows n) → NamesHook u := by
  intro judged
  have hiff {diff : Text} {d : Diff} (hd : Diff.read diff = .ok d) :
      judged diff = judged [] ↔ ¬LooksAt settings path u ∨ concerns u d = true :=
    run_evaluate_eq_whole_iff hd
  refine ⟨⟨fun h => ?_, fun h diff hread => ?_⟩, fun diff d hd hlooks => ⟨fun h => ?_, fun h => ?_⟩, ?_⟩
  · -- The blank change concerns the rule only by the name of a hook.
    exact ((hiff read_blankDiff).1 (h _ ⟨_, read_blankDiff⟩)).imp_right concerns_blankDiff.1
  · obtain ⟨d, hd⟩ := hread
    exact (hiff hd).2 (h.imp_right fun hnames => concerns_eq_true_iff.2 (.inr (.inr hnames)))
  · exact (hiff hd).2 (.inr (concerns_eq_true_iff.2 h))
  · obtain ⟨n, hn⟩ := Option.isSome_iff_exists.1 hlooks.tree
    have hroot : u.root? = some (Place.root n) := by rw [SourceUnit.root?, hn]; rfl
    have hconcerns : ¬concerns u d = true := fun hconcerns => h (concerns_eq_true_iff.1 hconcerns)
    have hnone : judged diff = .ok none :=
      (run_evaluate_of_lookedAt hlooks hroot hd).trans (if_neg hconcerns)
    refine ⟨hnone, fun hwhole => ?_⟩
    rcases (hiff hd).1 (hnone.trans hwhole.symm) with hnot | hc
    · exact hnot hlooks
    · exact hconcerns hc
  · intro root call hook target _ _ hhook htarget hshown
    exact namesHook_of_call htarget (effectHooks_of_hookCallback? hhook) hshown

/-- A page that hands a callback to an effect hook. -/
def effectText : Text := "useEffect(() => getDetail(1));".toList

/-- What the grammar answers to the page. -/
def effectOutline : Outline :=
  .node "program" "" true 0 30
    [.node "expression_statement" "" true 0 30
      [.node "call_expression" "" true 0 29
        [.node "identifier" "function" true 0 9 [],
          .node "arguments" "arguments" true 9 29
            [.node "arrow_function" "" true 10 28
              [.node "formal_parameters" "parameters" true 10 12 [],
                .node "call_expression" "body" true 16 28
                  [.node "identifier" "function" true 16 25 [],
                    .node "arguments" "arguments" true 25 28 [.node "number" "" true 26 27 []]]]]]]]

/-- The tree of the page. -/
def effectTree : Node := effectOutline.laidOver (Text.encode effectText)

/-- The page made ready for the rules. -/
def effectUnit : SourceUnit := ⟨"a.js", "javascript", some effectTree, effectText, none, 0, 0⟩

/-- Inside of a node without children there is only this node. -/
theorem inside_bare {n m : Node} (h : n.children = []) (hm : n.Inside m) : m = n := by
  induction hm with
  | self => rfl
  | child _ hc ih =>
    rw [ih, h] at hc
    cases hc

/-- The views of the page show all of it, a sign of a page among it. -/
theorem views_effect : effectUnit.codeView = effectText ∧
    Text.holds "getDetail".toList effectUnit.visibleText = true := by
  decide +kernel

/-- The code of the example shows the name of the hook. -/
theorem effectTarget_shown {target n : Node}
    (htarget : target.children.isEmpty = true ∧ target.start = 0 ∧ target.text = "useEffect")
    (hn : target.Inside n) : effectUnit.Shows n := by
  obtain ⟨hbare, hstart, htext⟩ := htarget
  rw [inside_bare (List.isEmpty_iff.1 hbare) hn]
  refine ⟨[], effectText, rfl, hstart.symm, ?_⟩
  rw [htext, views_effect.1]
  exact ⟨"(() => getDetail(1));".toList, rfl⟩

/-- The rule looks at a file with a tree that shows a sign of a page. -/
theorem lookedAt_of_token (htree : u.tree.isSome = true) {token : String} (htoken : token ∈ pageTokens)
    (hholds : Text.holds token.toList u.visibleText = true) : LooksAt (.plain 2) path u := by
  refine ⟨rfl, rfl, htree, ?_⟩
  have hany : (pageTokens.any fun token => Text.holds token.toList u.visibleText) = true :=
    List.any_eq_true.2 ⟨token, htoken, hholds⟩
  rw [looksLikePage, hany, Bool.true_or]

/-- The unit of the example is looked at. -/
theorem lookedAt_effect : LooksAt (.plain 2) "a.js" effectUnit :=
  lookedAt_of_token rfl (by decide) views_effect.2

/-- The page is judged alike on every change. -/
theorem judged_alike_effect :
    let judged := fun diff =>
      (evaluate (.plain 2) (.ofWords []) (none : Option (Lookup Id)) "a.js" effectUnit diff).run
    LooksAt (.plain 2) "a.js" effectUnit ∧
      lifecycleCallbacks (Place.root effectTree) ≠ [] ∧
      ∀ diff, Diff.Readable diff → judged diff = judged [] := by
  intro judged
  have hcall : (((Place.root effectTree).at? [0, 0]).any fun call => call.node.isCall &&
      (hookCallback? call).isSome && call.node.callTarget?.any fun target =>
        target.children.isEmpty && target.start == 0 && target.text == "useEffect") = true := by
    decide +kernel
  obtain ⟨call, hat, hcall⟩ := (Option.any_eq_true _ _).1 hcall
  simp only [Bool.and_eq_true] at hcall
  obtain ⟨⟨hcall, hsome⟩, htarget⟩ := hcall
  obtain ⟨hook, hhook⟩ := Option.isSome_iff_exists.1 hsome
  obtain ⟨target, htarget, hbare⟩ := (Option.any_eq_true _ _).1 htarget
  simp only [Bool.and_eq_true, beq_iff_eq, and_assoc] at hbare
  have hmem : call ∈ (Place.root effectTree).calls :=
    List.mem_filter.2 ⟨Place.mem_walk_of_at? hat, hcall⟩
  have hcallbacks : lifecycleCallbacks (Place.root effectTree) ≠ [] :=
    List.ne_nil_of_mem (mem_lifecycleCallbacks_iff.2 (.inl ⟨call, hmem, hhook⟩))
  obtain ⟨hiff, -, hnames⟩ := judged_alike (.plain 2) (.ofWords []) none "a.js" effectUnit
  exact ⟨lookedAt_effect, hcallbacks, hiff.2 (.inr (hnames _ call hook target rfl hmem hhook htarget
    fun n hn _ => effectTarget_shown hbare hn))⟩

/-- A class that sends a request from a method of page entry, and a line below it. -/
def mountedText : Text := "class A { mounted() { getDetail(id); } }\nconst a = 1;\n".toList

/-- What the grammar answers to the class. -/
def mountedOutline : Outline :=
  .node "program" "" true 0 54
    [.node "class_declaration" "" true 0 40
        [.node "identifier" "name" true 6 7 [],
          .node "class_body" "body" true 8 40
            [.node "method_definition" "" true 10 38
              [.node "property_identifier" "name" true 10 17 [],
                .node "formal_parameters" "parameters" true 17 19 [],
                .node "statement_block" "body" true 20 38
                  [.node "expression_statement" "" true 22 36
                    [.node "call_expression" "" true 22 35
                      [.node "identifier" "function" true 22 31 [],
                        .node "arguments" "arguments" true 31 35
                          [.node "identifier" "" true 32 34 []]]]]]]],
      .node "lexical_declaration" "" true 41 53
        [.node "variable_declarator" "" true 47 52
          [.node "identifier" "name" true 47 48 [], .node "number" "value" true 51 52 []]]]

/-- The tree of the class. -/
def mountedTree : Node := mountedOutline.laidOver (Text.encode mountedText)

/-- The class made ready for the rules. -/
def mountedUnit : SourceUnit := ⟨"a.js", "javascript", some mountedTree, mountedText, none, 0, 0⟩

/-- A change of the line below the class. -/
def lineBelow : Text :=
  "diff --git a/a.js b/a.js\n--- a/a.js\n+++ b/a.js\n@@ -2 +2 @@\n-const a = 0;\n+const a = 1;\n".toList

/-- The method runs on page entry and is judged in the whole file, but on a change of the line below the class
the file is left alone. -/
theorem method_left_alone :
    let judged := fun diff =>
      (evaluate (.plain 2) (.ofWords []) (none : Option (Lookup Id)) "a.js" mountedUnit diff).run
    SourceUnit.read? (fun _ _ => some mountedOutline) "a.js" mountedText = some mountedUnit ∧
      lifecycleCallbacks (Place.root mountedTree) ≠ [] ∧
      judged lineBelow = .ok none ∧ judged [] ≠ .ok none := by
  intro judged
  have hformat : Format.ofPath? "a.js" = some (.script .javascript) := by decide
  have hread : SourceUnit.read? (fun _ _ => some mountedOutline) "a.js" mountedText =
      some mountedUnit :=
    SourceUnit.read?_script hformat rfl
  have hmethod : (((Place.root mountedTree).at? [0, 1, 0]).any isLifecycleMethod) = true := by
    decide +kernel
  obtain ⟨p, hp, hlifecycle⟩ := (Option.any_eq_true _ _).1 hmethod
  have hcallbacks : lifecycleCallbacks (Place.root mountedTree) ≠ [] :=
    List.ne_nil_of_mem (mem_lifecycleCallbacks_iff.2 (.inr ⟨Place.mem_walk_of_at? hp, hlifecycle⟩))
  have hlooks : LooksAt (.plain 2) "a.js" mountedUnit :=
    lookedAt_of_token rfl (show "getDetail" ∈ pageTokens by decide) (by decide +kernel)
  have hd : Diff.read lineBelow = .ok (Diff.ofText lineBelow) := by rfl
  have hconcerns : concerns mountedUnit (Diff.ofText lineBelow) = false := by decide +kernel
  have hroot : mountedUnit.root? = some (Place.root mountedTree) := rfl
  have hnone : judged lineBelow = .ok none := by
    dsimp only [judged]
    rw [run_evaluate_of_lookedAt hlooks hroot hd, hconcerns, if_neg Bool.false_ne_true]
  refine ⟨hread, hcallbacks, hnone, ?_⟩
  have hwhole : judged [] = (judgement (.plain 2) (.ofWords []) none "a.js" mountedUnit
      (Place.root mountedTree)).run :=
    run_evaluate_of_lookedAt hlooks hroot Diff.read_nil
  rw [hwhole]
  exact judgement_ne_none (Place.root mountedTree)

end InitialLoading

end UxLint
