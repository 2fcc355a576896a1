import UxLint.Proofs.Rule.Lists
import UxLint.Proofs.Rule.Tally

/-!
# What exempting more spares

Further words and paths on the lists of exemptions make a rule report less and nothing new. The rules ask for
exemptions at different grains: for the function around a callback, for the function around a request and the
method it calls, for the whole text of a file, for an element and the values of its attributes. Whatever the
grain, the violations that are left form a sublist of those before, and where the rule on loading states still
has something to report, it is not above what it reported before (`exempting_spares`).
-/

set_option autoImplicit false

namespace UxLint

/-! ## Lists of exemptions -/

namespace RuleSettings

/-- Settings exempt at least what others do, and are the same otherwise. -/
structure Widens (s s' : RuleSettings) : Prop where
  number : s'.number = s.number
  enabled : s'.enabled = s.enabled
  customKeywords : s'.customKeywords = s.customKeywords
  words : s.whitelistKeywords ⊆ s'.whitelistKeywords
  paths : s.whitelistPaths ⊆ s'.whitelistPaths

namespace Widens

variable {s s' : RuleSettings} {path : String}

/-- Wider settings have the same keywords. -/
theorem keywords_eq (h : s.Widens s') : s'.keywords = s.keywords := by
  funext name
  rw [keywords, keywords, h.customKeywords]

/-- Wider settings leave out the same paths, and perhaps more. -/
theorem isPathWhitelisted (h : s.Widens s') (hpath : s.isPathWhitelisted path = true) :
    s'.isPathWhitelisted path = true := by
  obtain ⟨pattern, hpattern, hmatches⟩ := List.any_eq_true.1 hpath
  exact List.any_eq_true.2 ⟨pattern, h.paths hpattern, hmatches⟩

/-- Wider settings find a keyword wherever there was one. -/
theorem matchingKeyword? (h : s.Widens s') {t : Text} (ht : (s.matchingKeyword? t).isSome = true) :
    (s'.matchingKeyword? t).isSome = true := by
  obtain ⟨word, hword, hholds⟩ := List.find?_isSome.1 ht
  exact List.find?_isSome.2 ⟨word, h.words hword, hholds⟩

/-- Wider settings exempt the same names, and perhaps more. -/
theorem exempts (h : s.Widens s') {name : String} (hname : s.exempts name = true) :
    s'.exempts name = true :=
  h.matchingKeyword? hname

/-- A rule that leaves a path alone still does. -/
theorem off (h : s.Widens s') (hoff : (!s.enabled || s.isPathWhitelisted path) = true) :
    (!s'.enabled || s'.isPathWhitelisted path) = true := by
  rw [h.enabled]
  rw [Bool.or_eq_true] at hoff ⊢
  exact hoff.imp_right h.isPathWhitelisted

end Widens

end RuleSettings

/-! ## What is left -/

/-- What a rule says once more is exempt, next to what it said before. -/
structure Spares (R : List Violation → List Violation → Prop) (diff : Text)
    (before after : Except Fault Findings) : Prop where
  /-- Where the rule came to a result it still does, and the violations that are left compare to those before. -/
  found : ∀ found, before = .ok found → ∃ left, after = .ok left ∧ R (left.getD []) (found.getD [])
  /-- On a difference that cannot be read nothing is found. -/
  unread : ∀ fault left, Diff.read diff = .error fault → after = .ok left → left.getD [] = []

namespace Spares

variable {R : List Violation → List Violation → Prop} {diff : Text} {before : Except Fault Findings}

/-- Nothing to report spares whatever there was. -/
theorem nothing (hR : ∀ vs, R [] vs) {left : Findings} (h : left.getD [] = []) :
    Spares R diff before (.ok left) where
  found found _ := ⟨left, rfl, by rw [h]; exact hR _⟩
  unread fault left' _ hleft' := by
    cases hleft'
    exact h

/-- A rule that fails either way says nothing to compare. -/
theorem failed (R : List Violation → List Violation → Prop) (diff : Text) (fault fault' : Fault) :
    Spares R diff (.error fault) (.error fault') where
  found found hfound := by cases hfound
  unread _ left _ hleft := by cases hleft

/-- A rule that reads the difference and then judges: it is enough to compare the judgements. -/
theorem of_read {judge judge' : Diff → Findings} (h : ∀ d, R ((judge' d).getD []) ((judge d).getD [])) :
    Spares R diff ((Diff.read diff).map judge) ((Diff.read diff).map judge') := by
  cases hread : Diff.read diff with
  | error fault => exact failed R diff fault fault
  | ok d =>
    refine ⟨fun found hfound => ⟨judge' d, rfl, ?_⟩, fun fault left hfault => ?_⟩
    · cases hfound
      exact h d
    · cases hread.symm.trans hfault

end Spares

section Rules

variable {s s' : RuleSettings} {classifier : Classifier} {path : String} {u : SourceUnit}

/-! ## Rules 3 to 5 -/

namespace SuccessToast

/-- A request that was exempt stays exempt. -/
theorem isExempt_of_widens (h : s.Widens s') {request : Place} (hexempt : isExempt s request = true) :
    isExempt s' request = true := by
  obtain ⟨name, hname, hholds⟩ := List.any_eq_true.1 hexempt
  rw [Bool.and_eq_true] at hholds
  refine List.any_eq_true.2 ⟨name, hname, ?_⟩
  rw [Bool.and_eq_true]
  exact hholds.imp_right h.exempts

/-- A request that is still reported was reported alike before. -/
theorem check?_of_widens (h : s.Widens s') {d : Diff} {request : Place} {v : Violation}
    (hv : check? s' classifier path u d request = some v) :
    check? s classifier path u d request = some v := by
  unfold check? reachesToast report at hv ⊢
  rw [h.keywords_eq] at hv
  cases hverb : classifier.mutationVerb? request.node with
  | none =>
    rw [hverb] at hv
    cases hv
  | some verb =>
    rw [hverb] at hv
    dsimp only at hv ⊢
    split at hv
    · cases hv
    · split at hv
      · cases hv
      · next htouched hexempt =>
        rw [if_neg htouched, if_neg (mt (isExempt_of_widens h) hexempt)]
        exact hv

/-- The third rule reports a part of what it reported. -/
theorem evaluate_spares (h : s.Widens s') (diff : Text) :
    Spares List.Sublist diff (evaluate s classifier path u diff) (evaluate s' classifier path u diff) := by
  unfold evaluate
  by_cases hoff : (!s'.enabled || s'.isPathWhitelisted path) = true
  · rw [if_pos hoff]
    exact .nothing List.nil_sublist rfl
  · rw [if_neg hoff, if_neg (mt h.off hoff)]
    cases u.root? with
    | none => exact .nothing List.nil_sublist rfl
    | some root => exact .of_read fun d => sublist_filterMap (fun _ _ hv => check?_of_widens h hv) _

end SuccessToast

namespace EmptyState

/-- The fourth rule reports a part of what it reported. -/
theorem evaluate_spares (h : s.Widens s') (diff : Text) :
    Spares List.Sublist diff (evaluate s path u diff) (evaluate s' path u diff) := by
  have hjudge : judge s' path u = judge s path u := by
    funext list d
    unfold judge emptyState? report
    rw [h.keywords_eq]
  unfold evaluate
  by_cases hoff : (!s'.enabled || s'.isPathWhitelisted path) = true
  · rw [if_pos hoff]
    exact .nothing List.nil_sublist rfl
  · rw [if_neg hoff, if_neg (mt h.off hoff)]
    by_cases hexempt : (s'.matchingKeyword? u.visibleText).isSome = true
    · rw [if_pos hexempt]
      split_ifs
      all_goals exact .nothing List.nil_sublist rfl
    · rw [if_neg hexempt, if_neg (mt h.matchingKeyword? hexempt), hjudge]
      split_ifs
      · exact .nothing List.nil_sublist rfl
      · exact .nothing List.nil_sublist rfl
      · cases rendering? u with
        | none => exact .nothing List.nil_sublist rfl
        | some list => exact .of_read fun d => List.Sublist.refl _

end EmptyState

namespace InputPlaceholder

/-- An element that was exempt stays exempt. -/
theorem isExempt_of_widens (h : s.Widens s') {e : Element} (hexempt : isExempt s e = true) :
    isExempt s' e = true := by
  unfold isExempt at hexempt ⊢
  rw [Bool.or_eq_true] at hexempt ⊢
  refine hexempt.imp h.exempts fun hany => ?_
  obtain ⟨a, ha, hvalue⟩ := List.any_eq_true.1 hany
  obtain ⟨v, hv, hholds⟩ := (Option.any_eq_true _ _).1 hvalue
  rw [Bool.and_eq_true] at hholds
  refine List.any_eq_true.2 ⟨a, ha, (Option.any_eq_true _ _).2 ⟨v, hv, ?_⟩⟩
  rw [Bool.and_eq_true]
  exact hholds.imp_right h.exempts

/-- An element that is reported under wider settings was reported before. -/
theorem isBad_of_widens (h : s.Widens s') {d : Diff} {e : Element} (hbad : isBad s' d e = true) :
    isBad s d e = true := by
  unfold isBad isInput hasPlaceholder at hbad ⊢
  rw [h.keywords_eq] at hbad
  simp only [Bool.and_eq_true, Bool.not_eq_true'] at hbad ⊢
  obtain ⟨⟨hinput, hexempt⟩, hplaceholder⟩ := hbad
  refine ⟨⟨hinput, ?_⟩, hplaceholder⟩
  rw [← Bool.not_eq_true] at hexempt ⊢
  exact mt (isExempt_of_widens h) hexempt

/-- The fifth rule reports a part of what it reported. -/
theorem evaluate_spares (h : s.Widens s') (diff : Text) :
    Spares List.Sublist diff (evaluate s path u diff) (evaluate s' path u diff) := by
  unfold evaluate
  by_cases hoff : (!s'.enabled || s'.isPathWhitelisted path) = true
  · rw [if_pos hoff]
    exact .nothing List.nil_sublist rfl
  · rw [if_neg hoff, if_neg (mt h.off hoff)]
    split_ifs
    · exact .nothing List.nil_sublist rfl
    · refine .of_read fun d => ?_
      unfold judge
      split_ifs
      · exact List.Sublist.refl _
      · exact (List.monotone_filter_right _ fun e he => isBad_of_widens h he).map _

end InputPlaceholder

/-! ## Rule 2 -/

namespace InitialLoading

/-- A hook that was exempt stays exempt. -/
theorem isExempt_of_widens (h : s.Widens s') {hook : Place} (hexempt : isExempt s hook = true) :
    isExempt s' hook = true := by
  unfold isExempt at hexempt ⊢
  rw [Bool.and_eq_true] at hexempt ⊢
  exact hexempt.imp_right h.exempts

/-- The callbacks that are left are among those before. -/
theorem sublist_hooks (h : s.Widens s') (hooks : List Place) :
    (hooks.filter fun hook => !isExempt s' hook).Sublist (hooks.filter fun hook => !isExempt s hook) := by
  refine List.monotone_filter_right _ fun hook hleft => ?_
  rw [Bool.not_eq_true', ← Bool.not_eq_true] at hleft ⊢
  exact mt (isExempt_of_widens h) hleft

section Lookups

variable {lookup : Option (Lookup Id)}

/-- What of a hook's requests is uncovered does not depend on the exempt names. -/
theorem uncoveredOf_widens (h : s.Widens s') (hook : Place) (requests : List Place) :
    uncoveredOf s' lookup u hook requests = uncoveredOf s lookup u hook requests := by
  induction requests with
  | nil => rfl
  | cons request rest ih =>
    unfold uncoveredOf evidence
    rw [ih, h.keywords_eq]

/-- If the requests without evidence can be gathered in some callbacks, they can in fewer ones. -/
theorem uncovered_sublist (h : s.Widens s') {hooks hooks' found : List Place} (hsub : hooks'.Sublist hooks)
    (hfound : (uncovered s classifier lookup u hooks).run = .ok found) :
    ∃ left, (uncovered s' classifier lookup u hooks').run = .ok left ∧ left.Sublist found := by
  induction hsub generalizing found with
  | slnil => exact ⟨[], rfl, List.nil_sublist _⟩
  | cons hook _ ih =>
    unfold uncovered at hfound
    obtain ⟨here, -, hfound⟩ := run_bind_eq_ok_iff.1 hfound
    obtain ⟨more, hmore, hfound⟩ := run_bind_eq_ok_iff.1 hfound
    cases hfound
    obtain ⟨left, hleft, hsub⟩ := ih hmore
    exact ⟨left, hleft, hsub.trans (List.sublist_append_right here more)⟩
  | cons_cons hook _ ih =>
    unfold uncovered at hfound
    obtain ⟨here, hhere, hfound⟩ := run_bind_eq_ok_iff.1 hfound
    obtain ⟨more, hmore, hfound⟩ := run_bind_eq_ok_iff.1 hfound
    cases hfound
    obtain ⟨left, hleft, hsub⟩ := ih hmore
    refine ⟨here ++ left, ?_, hsub.append_left here⟩
    unfold uncovered
    rw [uncoveredOf_widens h]
    exact run_bind_eq_ok_iff.2 ⟨here, hhere, run_bind_eq_ok_iff.2 ⟨left, hleft, rfl⟩⟩

/-- What the rule says of the requests that it gathered. -/
def reportOn (settings : RuleSettings) (path : String) (u : SourceUnit) : List Place → List Violation
  | [] => []
  | p :: rest => [report settings path u (leftmost (·.node.start) p rest) (rest.length + 1)]

/-- What the second rule judges is the report on what it gathers from the hooks that are not exempt. -/
theorem run_judgement_eq_ok_iff {root : Place} {found : Findings} :
    (judgement s classifier lookup path u root).run = .ok found ↔ ∃ gathered,
      (uncovered s classifier lookup u
        ((lifecycleCallbacks root).filter fun h => !isExempt s h)).run = .ok gathered ∧
        found = some (reportOn s path u gathered) := by
  unfold judgement
  rw [run_bind_eq_ok_iff]
  refine exists_congr fun gathered => and_congr_right fun _ => ?_
  cases gathered with
  | nil => exact ⟨fun h => (Except.ok.inj h).symm, fun h => congrArg Except.ok h.symm⟩
  | cons p rest => exact ⟨fun h => (Except.ok.inj h).symm, fun h => congrArg Except.ok h.symm⟩

end Lookups

/-- There are violations only where there were some, and in a file that was read none is above those. -/
def NotAbove (u : SourceUnit) (left found : List Violation) : Prop :=
  (found = [] → left = []) ∧ ∀ grammars path file, SourceUnit.read? grammars path file = some u →
    ∀ v ∈ left, ∃ w ∈ found, w.line ≤ v.line

/-- Where nothing is left, nothing is above what was found. -/
theorem notAbove_nil (found : List Violation) : NotAbove u [] found :=
  ⟨fun _ => rfl, fun _ _ _ _ => nofun⟩

/-- Of fewer requests in a tree the first one is not above. -/
theorem notAbove_reportOn {left found : List Place} (hsub : left.Sublist found) {tree : Node}
    (htree : u.tree = some tree) (hinside : ∀ p ∈ found, tree.Inside p.node) :
    NotAbove u (reportOn s' path u left) (reportOn s path u found) := by
  cases left with
  | nil => exact notAbove_nil _
  | cons q rest =>
    have hmem : leftmost (·.node.start) q rest ∈ found := hsub.subset (leftmost_mem _ q rest)
    cases found with
    | nil => cases hmem
    | cons p more =>
      refine ⟨nofun, fun grammars path' file hread v hv => ⟨_, List.mem_singleton_self _, ?_⟩⟩
      rw [List.mem_singleton.1 hv]
      have hlines : u.lineOf (leftmost (·.node.start) p more).node ≤
          u.lineOf (leftmost (·.node.start) q rest).node :=
        EmptyState.lineOf_le hread htree (hinside _ (leftmost_mem (·.node.start) p more)) (hinside _ hmem)
          (leftmost_start_le (·.node.start) p more _ hmem)
      exact Int.ofNat_le.2 hlines

/-- What the rule says of a tree, with the requests that it gathered in it. -/
theorem judgement_spares (h : s.Widens s') (lookup : Option (Lookup Id)) {root : Place} {tree : Node}
    (htree : u.tree = some tree) (hroot : root.node = tree) {found : Findings}
    (hfound : (judgement s classifier lookup path u root).run = .ok found) :
    ∃ left, (judgement s' classifier lookup path u root).run = .ok left ∧
      NotAbove u (left.getD []) (found.getD []) := by
  obtain ⟨gathered, hgathered, rfl⟩ := run_judgement_eq_ok_iff.1 hfound
  obtain ⟨left, hleft, hsub⟩ := uncovered_sublist h (sublist_hooks h (lifecycleCallbacks root)) hgathered
  have hinside : ∀ p ∈ gathered, tree.Inside p.node := by
    intro p hp
    rw [uncovered_eq hgathered] at hp
    obtain ⟨hook, hhook, hp⟩ := List.mem_flatMap.1 hp
    have hrequest := Classifier.mem_walk_of_mem_requests (List.mem_filter.1 hp).1
    rw [← hroot]
    exact (inside_of_mem_lifecycleCallbacks (List.mem_filter.1 hhook).1).trans
      (Place.inside_of_mem_walk hrequest)
  exact ⟨_, run_judgement_eq_ok_iff.2 ⟨left, hleft, rfl⟩, notAbove_reportOn hsub htree hinside⟩

/-- The second rule reports nothing where it reported nothing, and else nothing above what it reported. -/
theorem evaluate_spares (h : s.Widens s') (lookup : Option (Lookup Id)) (diff : Text) :
    Spares (NotAbove u) diff (evaluate s classifier lookup path u diff).run
      (evaluate s' classifier lookup path u diff).run := by
  by_cases hoff : (!s'.enabled || s'.isPathWhitelisted path) = true
  · have hnone : (evaluate s' classifier lookup path u diff).run = .ok none := by
      unfold evaluate
      rw [if_pos hoff]
      rfl
    rw [hnone]
    exact .nothing notAbove_nil rfl
  · have hon := Bool.eq_false_iff.2 (mt h.off hoff)
    rw [Bool.not_eq_true] at hoff
    cases htree : u.tree with
    | none =>
      have hnone : (evaluate s' classifier lookup path u diff).run = .ok none := by
        unfold evaluate
        rw [hoff, SourceUnit.root?, htree]
        rfl
      rw [hnone]
      exact .nothing notAbove_nil rfl
    | some tree =>
      have hroot : u.root? = some (.root tree) := by
        rw [SourceUnit.root?, htree]
        rfl
      cases hread : Diff.read diff with
      | error fault =>
        have hfails {r : RuleSettings} (hr : (!r.enabled || r.isPathWhitelisted path) = false) :
            (evaluate r classifier lookup path u diff).run = .error fault := by
          unfold evaluate
          rw [hr, hroot, hread]
          rfl
        rw [hfails hon, hfails hoff]
        exact .failed (NotAbove u) diff fault fault
      | ok d =>
        rw [evaluate_eq hon hroot hread, evaluate_eq hoff hroot hread]
        split_ifs
        · exact .nothing notAbove_nil rfl
        · refine ⟨fun found hfound => judgement_spares h lookup htree rfl hfound, fun fault left hfault => ?_⟩
          cases hread.symm.trans hfault

end InitialLoading

end Rules

/-- Further exemptions take violations away and add none. Under the rules on success messages, empty states and
placeholders, the violations that are left form a sublist of those before. The rule on loading states, which
reports the first request only, reports nothing where it reported nothing, and nothing above what it
reported. -/
theorem exempting_spares {s s' : RuleSettings} (h : s.Widens s') (classifier : Classifier)
    (lookup : Option (Lookup Id)) (path : String) (u : SourceUnit) (diff : Text) :
    Spares (InitialLoading.NotAbove u) diff
        (InitialLoading.evaluate s classifier lookup path u diff).run
        (InitialLoading.evaluate s' classifier lookup path u diff).run ∧
      Spares List.Sublist diff (SuccessToast.evaluate s classifier path u diff)
        (SuccessToast.evaluate s' classifier path u diff) ∧
      Spares List.Sublist diff (EmptyState.evaluate s path u diff) (EmptyState.evaluate s' path u diff) ∧
      Spares List.Sublist diff (InputPlaceholder.evaluate s path u diff)
        (InputPlaceholder.evaluate s' path u diff) :=
  ⟨InitialLoading.evaluate_spares h lookup diff, SuccessToast.evaluate_spares h diff,
    EmptyState.evaluate_spares h diff, InputPlaceholder.evaluate_spares h diff⟩

namespace InitialLoading

/-- Two components, each of which sends a request on page entry. -/
def entryText : Text :=
  ("const List = () => \x7b useEffect(() => getList(1)); \x7d;\n" ++
    "const Page = () => \x7b useEffect(() => getDetail(2)); \x7d;\n").toList

/-- What the grammar answers to a component at an offset that calls a function with a name of some length. -/
def componentOutline (start length : Nat) : Outline :=
  let stop := start + length + 40
  .node "lexical_declaration" "" true start (stop + 5)
    [.node "variable_declarator" "" true (start + 6) (stop + 4)
      [.node "identifier" "name" true (start + 6) (start + 10) [],
        .node "arrow_function" "value" true (start + 13) (stop + 4)
          [.node "formal_parameters" "parameters" true (start + 13) (start + 15) [],
            .node "statement_block" "body" true (start + 19) (stop + 4)
              [.node "expression_statement" "" true (start + 21) (stop + 2)
                [.node "call_expression" "" true (start + 21) (stop + 1)
                  [.node "identifier" "function" true (start + 21) (start + 30) [],
                    .node "arguments" "arguments" true (start + 30) (stop + 1)
                      [.node "arrow_function" "" true (start + 31) stop
                        [.node "formal_parameters" "parameters" true (start + 31) (start + 33) [],
                          .node "call_expression" "body" true (start + 37) stop
                            [.node "identifier" "function" true (start + 37) (start + 37 + length) [],
                              .node "arguments" "arguments" true (start + 37 + length) stop
                                [.node "number" "" true (start + 38 + length) (start + 39 + length)
                                  []]]]]]]]]]]

/-- What the grammar answers to the page. -/
def entryOutline : Outline :=
  .node "program" "" true 0 108 [componentOutline 0 7, componentOutline 53 9]

/-- The tree of the page. -/
def entryTree : Node := entryOutline.laidOver (Text.encode entryText)

/-- The page made ready for the rules. -/
def entryUnit : SourceUnit := ⟨"a.js", "javascript", some entryTree, entryText, none, 0, 0⟩

/-- The settings that exempt lists. -/
def listsExempt : RuleSettings := { RuleSettings.plain 2 with whitelistKeywords := ["list"] }

/-- The settings of the example are wider than the plain ones. -/
theorem widens_listsExempt : (RuleSettings.plain 2).Widens listsExempt :=
  ⟨rfl, rfl, rfl, List.nil_subset _, List.Subset.refl _⟩

/-- The file of the example is looked at. -/
theorem lookedAt_entry : LooksAt (.plain 2) "a.js" entryUnit :=
  lookedAt_of_token rfl (show "getDetail" ∈ pageTokens by decide) (by decide +kernel)

/-- The rule reports as many requests of the page as the tally holds. -/
theorem evaluate_entryUnit {settings : RuleSettings} (hlooks : LooksAt settings "a.js" entryUnit) {n : Nat}
    (hlength : (tally settings (.ofWords []) none entryUnit (.root entryTree)).length = n + 1) :
    ∃ first, (evaluate settings (.ofWords []) (none : Option (Lookup Id)) "a.js" entryUnit []).run =
      .ok (some [report settings "a.js" entryUnit first (n + 1)]) := by
  have hroot : entryUnit.root? = some (.root entryTree) := rfl
  obtain ⟨vs, hvs⟩ := exists_run (.ofWords []) hlooks
  rcases found_of_run hroot hvs with hnone | ⟨gathered, hgathered, hfound⟩
  · cases hnone
  · rw [length_tally, ← hgathered] at hlength
    obtain ⟨p, rest, rfl⟩ := List.exists_of_length_succ gathered hlength
    rw [List.length_cons, Nat.add_right_cancel_iff] at hlength
    subst hlength
    rw [hvs, hfound]
    exact ⟨leftmost (·.node.start) p rest, rfl⟩

/-- Once lists are exempt, the rule reports one request of the page instead of two, and not above the first. -/
theorem exempting_spares_entryUnit :
    (RuleSettings.plain 2).Widens listsExempt ∧
      SourceUnit.read? (fun _ _ => some entryOutline) "a.js" entryText = some entryUnit ∧
      ∃ first next, (evaluate (.plain 2) (.ofWords []) (none : Option (Lookup Id)) "a.js" entryUnit
            []).run = .ok (some [report (.plain 2) "a.js" entryUnit first 2]) ∧
        (evaluate listsExempt (.ofWords []) (none : Option (Lookup Id)) "a.js" entryUnit []).run =
          .ok (some [report listsExempt "a.js" entryUnit next 1]) ∧
        (report (.plain 2) "a.js" entryUnit first 2).line ≤
          (report listsExempt "a.js" entryUnit next 1).line := by
  have hformat : Format.ofPath? "a.js" = some (.script .javascript) := by decide
  have hread : SourceUnit.read? (fun _ _ => some entryOutline) "a.js" entryText = some entryUnit :=
    SourceUnit.read?_script hformat rfl
  have hlooks : LooksAt listsExempt "a.js" entryUnit :=
    ⟨rfl, rfl, rfl, lookedAt_entry.page⟩
  obtain ⟨first, hfirst⟩ := evaluate_entryUnit lookedAt_entry (n := 1) (by decide +kernel)
  obtain ⟨next, hnext⟩ := evaluate_entryUnit hlooks (n := 0) (by decide +kernel)
  obtain ⟨hspares, -⟩ := exempting_spares widens_listsExempt (.ofWords []) none "a.js" entryUnit []
  obtain ⟨left, hleft, -, hlines⟩ := hspares.found _ hfirst
  cases hnext.symm.trans hleft
  obtain ⟨w, hw, hline⟩ := hlines _ _ _ hread _ (List.mem_singleton_self _)
  rw [List.mem_singleton.1 hw] at hline
  exact ⟨widens_listsExempt, hread, first, next, hfirst, hnext, hline⟩

end InitialLoading

end UxLint
