import UxLint.Proofs.Rule.Findings
import UxLint.Proofs.Source.Regions

/-!
# What a change makes the first rule look at

In a file that is changed and not new, the first rule goes through the groups that the change touches: it adds a
line to the function of the group, or to the opening tag of any element of the group. What it reports on such a
group stands at the first element of the group (`reported_touched`). The change need not touch that
element: it may have changed the function, or another element that triggers it (`report_untouched`).
-/

set_option autoImplicit false

namespace UxLint

namespace DoubleSubmit

/-! ## Reports -/

/-- A report stands on the line of the handler that it is on. -/
theorem line_report (path : String) (function : Node) (elements : List Element) (first : Handler)
    (verdict : ActionVerdict) : (report path function elements first verdict).line = first.line := by
  rcases report_cases path function elements first verdict with
    ⟨flag, -, -, h⟩ | ⟨-, ⟨action, flag, expression, -, h⟩ | h⟩
  · rw [h]
    rfl
  · rw [h]
    rfl
  · rw [h]
    rfl

/-- A violation stands at the first element of a group that a change touches. -/
def StandsAtTouched (settings : RuleSettings) (u : SourceUnit) (d : Diff) (v : Violation) : Prop :=
  ∃ root handlers g first, IsGroupOf settings u root handlers g ∧ Touches d u g ∧
    g.handlers.head? = some first ∧ first.element ∈ u.elements ∧ v.line = first.element.line

section Runs

variable {m : Type → Type} [Monad m] [LawfulMonad m] {settings : RuleSettings}
  {classifier : Classifier} {path : String} {u : SourceUnit} {diff : Text} {d : Diff} {root : Place}
  {handlers : List Handler}

/-- A report on a group that a change touches stands at the first element of the group. -/
theorem standsAtTouched_of_reportsOn {declares : String → String → Prop} {g : Group} {v : Violation}
    (hg : IsGroupOf settings u root handlers g) (htouches : Touches d u g)
    (hv : ReportsOn classifier declares path u g v) : StandsAtTouched settings u d v := by
  obtain ⟨first, verdict, hfirst, rfl⟩ := hv.exists_first
  have hmem : first ∈ handlers := hg.mem_handlers (List.mem_of_head? hfirst)
  obtain ⟨helement, hline⟩ := Handler.belongsTo_of_discover hg.discovered first hmem
  exact ⟨root, handlers, g, first, hg, htouches, hfirst, helement, (line_report ..).trans hline⟩

/-- In a changed file every violation stands at the first element of a group that the change touches. -/
theorem evaluate_standsAtTouched (settings : RuleSettings) (lookup : Option (Lookup m))
    (hread : Diff.read diff = .ok d) (hchanged : d.isNew = false) :
    Ensures (AllFound (StandsAtTouched settings u d))
      (evaluate settings classifier lookup path u diff) := by
  refine (evaluate_reportsOn settings (answers_anything lookup u) diff).imp fun found hfound vs hvs v hv => ?_
  obtain ⟨-, @⟨d', root, handlers, reports, hread', -, -, hreports, hgroups⟩⟩ := hfound vs hvs
  obtain rfl : d = d' := Except.ok.inj (hread.symm.trans hread')
  obtain ⟨r, hr, rfl⟩ := List.mem_map.1 (hreports.perm.mem_iff.2 hv)
  obtain ⟨hgroup, hlooked⟩ := hgroups r hr
  have htouches : Touches d u r.1 := hlooked.resolve_left (by rw [hchanged]; exact Bool.false_ne_true)
  exact standsAtTouched_of_reportsOn hgroup htouches (hreports.each r hr)

/-- Without a lookup no request says anything about the flags of the actions. -/
theorem judgeRequests_none (u : SourceUnit) (elements : List Element) (requests : List Place) :
    judgeRequests (none : Option (Lookup m)) u elements .unknown requests = pure .unknown := by
  induction requests with
  | nil => rfl
  | cons request rest ih =>
    unfold judgeRequests judgeRequest
    rw [pure_bind]
    exact ih

/-- Without a lookup a group that sends a request and is not protected is reported on its first handler. -/
theorem checkGroup_none {elements : List Element} {g : Group} {first : Handler} {rest : List Handler}
    (hhandlers : g.handlers = first :: rest) (hrequests : classifier.requests g.function ≠ [])
    (hprotected : isProtected elements g first (classifier.requests g.function) = false) :
    checkGroup classifier (none : Option (Lookup m)) path u elements g =
      pure (some (report path g.function.node (targets elements g.handlers) first .unknown)) := by
  unfold checkGroup
  rw [hhandlers]
  obtain ⟨request, more, hmore⟩ := List.exists_cons_of_ne_nil hrequests
  rw [hmore] at hprotected ⊢
  dsimp only
  rw [if_neg (by rw [hprotected]; decide), judgeRequests_none, pure_bind]

end Runs

section Results

variable {settings : RuleSettings} {classifier : Classifier} {lookup : Option (Lookup Id)}
  {path : String} {u : SourceUnit} {diff : Text} {d : Diff}

/-- What a group is found to violate is among what is found in all groups. -/
theorem mem_of_checkGroups {elements : List Element} {groups : List Group} {found : List Violation}
    (hrun : (checkGroups classifier lookup path u elements groups).run = .ok found) {g : Group}
    (hg : g ∈ groups) {v : Violation}
    (hv : (checkGroup classifier lookup path u elements g).run = .ok (some v)) : v ∈ found := by
  induction groups generalizing found with
  | nil => cases hg
  | cons k rest ih =>
    unfold checkGroups at hrun
    obtain ⟨here, hhere, hrun⟩ := run_bind_eq_ok_iff.1 hrun
    obtain ⟨more, hmore, hrun⟩ := run_bind_eq_ok_iff.1 hrun
    cases hrun
    rcases List.mem_cons.1 hg with rfl | hg
    · obtain rfl : here = some v := Except.ok.inj (hhere.symm.trans hv)
      exact List.mem_append_left _ (List.mem_singleton_self v)
    · exact List.mem_append_right _ (ih hmore hg)

/-- A run that finds something has gone through the groups of the file that the difference concerns. -/
theorem checkGroups_of_run (hread : Diff.read diff = .ok d) {vs : List Violation}
    (hrun : (evaluate settings classifier lookup path u diff).run = .ok (some vs)) :
    ∃ root handlers found, u.root? = some root ∧ Handler.discover u.elements = .ok handlers ∧
      (checkGroups classifier lookup path u u.elements
        (groupsOf settings u root d handlers)).run = .ok found ∧
      vs = found.mergeSort fun a b => a.line ≤ b.line := by
  unfold evaluate at hrun
  split at hrun
  · cases hrun
  · cases hroot : u.root? with
    | none =>
      rw [hroot] at hrun
      cases hrun
    | some root =>
      rw [hroot, hread] at hrun
      dsimp only at hrun
      obtain ⟨d', hd', hrun⟩ := run_bind_eq_ok_iff.1 hrun
      cases hd'
      split at hrun
      · cases hrun
      · obtain ⟨handlers, hhandlers, hrun⟩ := run_bind_eq_ok_iff.1 hrun
        obtain ⟨found, hfound, hrun⟩ := run_bind_eq_ok_iff.1 hrun
        cases hrun
        cases hdiscovered : Handler.discover u.elements with
        | error fault =>
          rw [hdiscovered] at hhandlers
          cases hhandlers
        | ok handlers' =>
          rw [hdiscovered] at hhandlers
          cases hhandlers
          exact ⟨root, handlers, found, rfl, rfl, hfound, rfl⟩

end Results

/-- In a changed file, every violation stands at the first element of a group that the change touches: it adds a
line to the function of the group, or to the opening tag of some element of the group. What is found in any
group that the change touches is among the violations of the file. -/
theorem reported_touched (settings : RuleSettings) (classifier : Classifier) (path : String)
    (u : SourceUnit) {diff : Text} {d : Diff} (hread : Diff.read diff = .ok d)
    (hchanged : d.isNew = false) :
    (∀ {σ : Type} (lookup : Option (Lookup (StateM σ))) (state : σ) (vs : List Violation),
        ((evaluate settings classifier lookup path u diff).run.run state).1 = .ok (some vs) →
        ∀ v ∈ vs, StandsAtTouched settings u d v) ∧
      ∀ (lookup : Option (Lookup Id)) (vs : List Violation),
        (evaluate settings classifier lookup path u diff).run = .ok (some vs) →
        ∀ root handlers g, IsGroupOf settings u root handlers g → Touches d u g →
          ∀ v, (checkGroup classifier lookup path u u.elements g).run = .ok (some v) → v ∈ vs := by
  constructor
  · intro σ lookup state vs hevaluate v hv
    exact (evaluate_standsAtTouched settings lookup hread hchanged).of_state_ok hevaluate vs rfl v hv
  · intro lookup vs hevaluate root handlers g hgroup htouches v hv
    obtain ⟨root', handlers', found, hroot, hdiscovered, hfound, rfl⟩ :=
      checkGroups_of_run hread hevaluate
    obtain rfl : root = root' := Option.some.inj (hgroup.tree.symm.trans hroot)
    obtain rfl : handlers = handlers' := Except.ok.inj (hgroup.discovered.symm.trans hdiscovered)
    have hg : g ∈ groupsOf settings u root d handlers :=
      (mem_groupsOf_iff hroot hdiscovered).2 ⟨hgroup, .inr htouches⟩
    exact List.mem_mergeSort.2 (mem_of_checkGroups hfound hg hv)

/-! ## Two buttons below a function -/

/-- A function that sends a request, and two buttons that call it. -/
def twiceText : Text :=
  ("function save() \x7b\n  postForm();\n\x7d\n<Button onClick=\x7bsave\x7d />;\n" ++
    "<Button onClick=\x7bsave\x7d />;\n").toList

/-- What the grammar answers to a button at an offset. -/
def clickOutline (start : Nat) : Outline :=
  .node "expression_statement" "" true start (start + 26)
    [.node "jsx_self_closing_element" "" true start (start + 25)
      [.node "identifier" "name" true (start + 1) (start + 7) [],
        .node "jsx_attribute" "" true (start + 8) (start + 22)
          [.node "property_identifier" "" true (start + 8) (start + 15) [],
            .node "jsx_expression" "" true (start + 16) (start + 22)
              [.node "identifier" "" true (start + 17) (start + 21) []]]]]

/-- What the grammar answers to the page. -/
def twiceOutline : Outline :=
  .node "program" "" true 0 88
    [.node "function_declaration" "" true 0 33
        [.node "identifier" "name" true 9 13 [],
          .node "formal_parameters" "parameters" true 13 15 [],
          .node "statement_block" "body" true 16 33
            [.node "expression_statement" "" true 20 31
              [.node "call_expression" "" true 20 30
                [.node "identifier" "function" true 20 28 [],
                  .node "arguments" "arguments" true 28 30 []]]]],
      clickOutline 34, clickOutline 61]

/-- The tree of the page. -/
def twiceTree : Node := twiceOutline.laidOver (Text.encode twiceText)

/-- The page made ready for the rules. -/
def twiceUnit : SourceUnit := ⟨"a.jsx", "javascript", some twiceTree, twiceText, none, 0, 0⟩

/-- A change that adds the request to the function. -/
def requestAdded : Text :=
  ("diff --git a/a.jsx b/a.jsx\n--- a/a.jsx\n+++ b/a.jsx\n@@ -1,2 +1,3 @@\n function save() \x7b\n" ++
    "+  postForm();\n \x7d\n").toList

/-- A change that adds the second button. -/
def buttonAdded : Text :=
  ("diff --git a/a.jsx b/a.jsx\n--- a/a.jsx\n+++ b/a.jsx\n@@ -4 +4,2 @@\n" ++
    " <Button onClick=\x7bsave\x7d />;\n+<Button onClick=\x7bsave\x7d />;\n").toList

/-- What the change of the function says. -/
def requestDiff : Diff := ⟨requestAdded, false, [⟨2, "  postForm();".toList⟩]⟩

/-- What the change of the buttons says. -/
def buttonDiff : Diff := ⟨buttonAdded, false, [⟨5, "<Button onClick=\x7bsave\x7d />;".toList⟩]⟩

set_option maxRecDepth 8000 in
/-- The difference that adds the request is read. -/
theorem read_requestAdded : Diff.read requestAdded = .ok requestDiff := by rfl

set_option maxRecDepth 8000 in
/-- The difference that adds the button is read. -/
theorem read_buttonAdded : Diff.read buttonAdded = .ok buttonDiff := by rfl

/-- The element of a button of the page. -/
def clickElement (line : Int) (start : Nat) : Element where
  name := "Button"
  attributes := [⟨"onClick", some "save", true, "onClick"⟩]
  line := line
  endLine := line
  start := start
  stop := start + 25
  origin := .tree
  hasSpread := false
  innerText := ""

def clickHandler (line : Int) (start : Nat) : Handler :=
  ⟨"save", line, clickElement line start, "onClick", false⟩

def twiceHandlers : List Handler := [clickHandler 4 34, clickHandler 5 61]

/-- The elements of the page. -/
theorem elements_twiceUnit : twiceUnit.elements = [clickElement 4 34, clickElement 5 61] := by
  have htree : twiceUnit.treeElements = [clickElement 4 34, clickElement 5 61] := by
    decide +kernel
  unfold SourceUnit.elements
  rw [htree]
  exact List.mergeSort_of_pairwise (by decide +kernel)

/-- The handlers of the page. -/
theorem discover_twiceUnit : Handler.discover twiceUnit.elements = .ok twiceHandlers := by
  have hclick (line : Int) (start : Nat) :
      Handler.ofAttribute? (clickElement line start) "onClick" Element.isButton =
        .ok (some (clickHandler line start)) := by
    have hattribute : (clickElement line start).attribute? "onClick" =
        some ⟨"onClick", some "save", true, "onClick"⟩ := by
      rfl
    unfold Handler.ofAttribute?
    rw [hattribute]
    dsimp only
    rw [show (clickElement line start).name = "Button" from rfl, show Element.isButton "Button" = true by decide,
      reference?_save]
    rfl
  have helement (line : Int) (start : Nat) :
      Handler.ofElement (clickElement line start) = .ok [clickHandler line start] := by
    unfold Handler.ofElement Handler.callbackAttributes
    rw [List.mapM_cons, hclick]
    with_unfolding_all rfl
  rw [elements_twiceUnit, Handler.discover, List.mapM_cons, List.mapM_cons, helement, helement]
  rfl

/-- What stands in the page for a function with two buttons. -/
def twiceFunction : Place := ((Place.root twiceTree).at? [0]).getD (.root twiceTree)

def twiceGroup : Group := ⟨twiceFunction, twiceHandlers⟩

/-- The groups of the page. -/
theorem groupsIn_twiceUnit :
    groupsIn (.plain 1) (.root twiceTree) twiceHandlers = [twiceGroup] := by
  with_unfolding_all rfl

section Judged

variable {m : Type → Type} [Monad m] [LawfulMonad m]

/-- The group of the page is reported at its first button. -/
theorem checkGroup_twiceGroup : checkGroup (.ofWords []) (none : Option (Lookup m)) "a.jsx" twiceUnit
    twiceUnit.elements twiceGroup = pure (some (unprotected "a.jsx" (clickHandler 4 34))) := by
  have hprotected : isProtected [clickElement 4 34, clickElement 5 61] twiceGroup (clickHandler 4 34)
      ((Classifier.ofWords []).requests twiceFunction) = false := by
    decide +kernel
  have hrequests : (Classifier.ofWords []).requests twiceFunction ≠ [] := by
    decide +kernel
  have hassignments : Loading.assignments twiceFunction.node = [] := by
    decide +kernel
  have hflags : Loading.definedFlags twiceFunction.node = [] := by
    refine List.eq_nil_iff_forall_not_mem.2 fun flag hflag => ?_
    obtain ⟨-, a, ha, -⟩ := Loading.mem_definedFlags_iff.1 hflag
    rw [hassignments] at ha
    cases ha
  rw [elements_twiceUnit, checkGroup_none rfl hrequests hprotected]
  unfold report
  rw [show twiceGroup.function = twiceFunction from rfl, hflags]
  rfl

/-- On a change that concerns the rule and touches the function or a button, the first button is reported. -/
theorem evaluate_twiceUnit {diff : Text} {d : Diff} (hread : Diff.read diff = .ok d)
    (hmentions : d.mentionsAny diffTokens = true) (htouched : touched twiceUnit d twiceGroup = true) :
    evaluate (.plain 1) (.ofWords []) (none : Option (Lookup m)) "a.jsx" twiceUnit diff =
      pure (some [unprotected "a.jsx" (clickHandler 4 34)]) := by
  have hgroups : groupsOf (.plain 1) twiceUnit (.root twiceTree) d twiceHandlers = [twiceGroup] := by
    change (groupsIn (.plain 1) (.root twiceTree) twiceHandlers).filter _ = _
    rw [groupsIn_twiceUnit, List.filter_cons, htouched, Bool.or_true]
    rfl
  rw [evaluate_eq_checkGroups rfl rfl rfl hread (by rw [hmentions, Bool.or_true]) discover_twiceUnit,
    hgroups]
  unfold checkGroups
  rw [checkGroup_twiceGroup, pure_bind]
  unfold checkGroups
  rw [pure_bind, map_pure, Option.toList_some, List.append_nil, List.mergeSort_singleton]

/-- Where the request is added, the first button is reported. -/
theorem evaluate_requestAdded :
    evaluate (.plain 1) (.ofWords []) (none : Option (Lookup m)) "a.jsx" twiceUnit requestAdded =
      pure (some [unprotected "a.jsx" (clickHandler 4 34)]) :=
  evaluate_twiceUnit read_requestAdded (by decide +kernel) (by decide +kernel)

/-- Where the second button is added, the first one is reported. -/
theorem evaluate_buttonAdded :
    evaluate (.plain 1) (.ofWords []) (none : Option (Lookup m)) "a.jsx" twiceUnit buttonAdded =
      pure (some [unprotected "a.jsx" (clickHandler 4 34)]) :=
  evaluate_twiceUnit read_buttonAdded (by decide +kernel) (by decide +kernel)

end Judged

/-- The change that adds the request touches the group of the two buttons, and the first one is reported. -/
theorem reported_touched_requestAdded :
    let first := unprotected "a.jsx" (clickHandler 4 34)
    Diff.read requestAdded = .ok requestDiff ∧ requestDiff.isNew = false ∧
      ((evaluate (.plain 1) (.ofWords []) (none : Option (Lookup (StateM Unit))) "a.jsx" twiceUnit
        requestAdded).run.run ()).1 = .ok (some [first]) ∧
      StandsAtTouched (.plain 1) twiceUnit requestDiff first := by
  intro first
  have hevaluate : ((evaluate (.plain 1) (.ofWords []) (none : Option (Lookup (StateM Unit))) "a.jsx"
      twiceUnit requestAdded).run.run ()).1 = .ok (some [first]) := by
    rw [evaluate_requestAdded]
    rfl
  exact ⟨read_requestAdded, rfl, hevaluate,
    (reported_touched (.plain 1) (.ofWords []) "a.jsx" twiceUnit read_requestAdded rfl).1 none ()
      [first] hevaluate first (List.mem_singleton_self first)⟩

/-- What is reported need not stand at an element that the change touches. A change that adds the request to the
function leaves the first button as it is, and so does a change that adds the second button; on both the first
button is reported. -/
theorem report_untouched :
    let found := fun diff =>
      (evaluate (.plain 1) (.ofWords []) (none : Option (Lookup Id)) "a.jsx" twiceUnit diff).run
    let touchesElementOf := fun (d : Diff) (v : Violation) =>
      ∃ e ∈ twiceUnit.elements, v.line = e.line ∧ d.AddsWithin e.line e.endLine
    SourceUnit.read? (fun _ _ => some twiceOutline) "a.jsx" twiceText = some twiceUnit ∧
      (∃ d v, Diff.read requestAdded = .ok d ∧ d.isNew = false ∧ found requestAdded = .ok (some [v]) ∧
        ¬touchesElementOf d v) ∧
      ∃ d v, Diff.read buttonAdded = .ok d ∧ d.isNew = false ∧ found buttonAdded = .ok (some [v]) ∧
        ¬touchesElementOf d v := by
  intro found touchesElementOf
  have hformat : Format.ofPath? "a.jsx" = some (.script .javascript) := by decide
  -- The only element on the line of the report is the first button.
  have huntouched (d : Diff) (hchanged : d.isNew = false) (h : d.touches 4 4 = false) :
      ¬touchesElementOf d (unprotected "a.jsx" (clickHandler 4 34)) := by
    rintro ⟨e, he, hline, hadds⟩
    rw [elements_twiceUnit] at he
    rcases List.mem_cons.1 he with rfl | he
    · have htouches : d.touches 4 4 = true := (Diff.touches_iff hchanged).2 hadds
      rw [htouches] at h
      cases h
    · rw [List.mem_singleton.1 he] at hline
      cases hline
  refine ⟨SourceUnit.read?_script hformat rfl,
    ⟨requestDiff, _, read_requestAdded, rfl, ?_, huntouched _ rfl (by decide)⟩,
    ⟨buttonDiff, _, read_buttonAdded, rfl, ?_, huntouched _ rfl (by decide)⟩⟩
  · exact congrArg ExceptT.run evaluate_requestAdded
  · exact congrArg ExceptT.run evaluate_buttonAdded

end DoubleSubmit

end UxLint
