import UxLint.Proofs.Rule.Narrowing
import UxLint.Proofs.Run.Containment

/-!
# Differences narrow a report

A run over files with their differences finds what it finds where every file counts as added as a whole,
or less, in the same order: `diff_narrows` says so for each rule and for a run. A difference that cannot
be read adds a fault of its own, and with it a violation if faults are reported
(`not_sublist_of_unreadable`), so a run that reports faults must be able to read the differences.
-/

set_option autoImplicit false

namespace UxLint

/-- The file as one that counts as added as a whole. -/
def StagedFile.asNew (f : StagedFile) : StagedFile := { f with diff := [] }

/-- The pair with its file counting as added as a whole. -/
def Pair.asNew (p : Pair) : Pair := { p with file := p.file.asNew }

/-- The outcome of a pair is what its rule answers. -/
theorem Pair.outcome_ofExcept {f : StagedFile} {u : SourceUnit} {rule : Int}
    {judge : String → SourceUnit → Text → Except Fault Findings} {outcome : Except Fault Findings}
    (h : judge f.path u f.diff = outcome) :
    (Pair.mk f u ⟨rule, fun path u diff => MonadExcept.ofExcept (judge path u diff)⟩).outcome =
      outcome := by
  unfold Pair.outcome
  dsimp only
  rw [h]
  cases outcome <;> rfl

/-- What a pair adds with its difference, it adds without it. -/
theorem Pair.violations_sublist {p : Pair} {failOnError : Bool}
    (h : Narrows p.file.diff p.outcome p.asNew.outcome)
    (hread : failOnError = true → Diff.Readable p.file.diff) :
    (p.violations failOnError).Sublist (p.asNew.violations failOnError) := by
  cases houtcome : p.outcome with
  | ok found =>
    have hfound : p.violations failOnError = found.getD [] := by
      unfold violations
      rw [houtcome]
      cases found <;> rfl
    rw [hfound]
    rcases h.found found houtcome with hnone | ⟨all, hall, hsub⟩
    · rw [hnone]
      exact List.nil_sublist _
    · have hasNew : p.asNew.violations failOnError = all.getD [] := by
        unfold violations
        rw [hall]
        cases all <;> rfl
      rw [hasNew]
      exact hsub
  | error fault =>
    rw [violations_of_error houtcome]
    cases failOnError with
    | false => exact List.nil_sublist _
    | true =>
      rcases h.fault fault houtcome with hsame | hunread
      · rw [violations_of_error hsame]
        exact List.Sublist.refl _
      · obtain ⟨d, hd⟩ := hread rfl
        rw [hd] at hunread
        cases hunread

/-- The pairs of files that are taken as new are the pairs, taken as new. -/
theorem Checker.pairs_asNew (c : Checker Id) (files : List StagedFile) :
    c.pairs (files.map StagedFile.asNew) = (c.pairs files).map Pair.asNew := by
  have hfile : ∀ f : StagedFile, c.pairsOf f.asNew = (c.pairsOf f).map Pair.asNew := by
    intro f
    unfold pairsOf
    rw [show c.accepts f.asNew = c.accepts f from rfl, show c.unit? f.asNew = c.unit? f from rfl]
    split
    · split
      · rfl
      · rw [List.map_map]
        rfl
    · rfl
  unfold pairs
  rw [List.flatMap_map, List.map_flatMap]
  exact congrArg (List.flatMap · files) (funext hfile)

/-- Under each of the five rules, a difference only narrows what is found, and so it does in a run: the
violations with the differences are those without them, with some left out. -/
theorem diff_narrows (s : Settings) :
    (∀ (lookup : Option (Lookup Id)) (e : Evaluator Id) (path : String) (u : SourceUnit)
      (diff : Text), e ∈ Evaluator.all s lookup → (∀ l ∈ lookup, l.Answers u) →
      Narrows diff (e.evaluate path u diff).run (e.evaluate path u []).run) ∧
    ∀ (reader : SourceReader) (r : Resolver) (files : List StagedFile), reader.KeepsPath →
      SamePathSameText files →
      (∀ u, Resolver.UnitOf reader files u → r.forgetful.Answers u) →
      (s.failOnError = true → ∀ f ∈ files, Diff.Readable f.diff) →
      (r.runFrom s reader [] files).1.violations.Sublist
        (r.runFrom s reader [] (files.map StagedFile.asNew)).1.violations := by
  refine ⟨fun lookup e path u diff he h => all_narrow he h path diff, ?_⟩
  intro reader r files hreader hfiles hanswers hread
  have hfiles' : SamePathSameText (files.map StagedFile.asNew) := by
    intro f' hf' g' hg' hpath
    obtain ⟨f, hf, rfl⟩ := List.mem_map.1 hf'
    obtain ⟨g, hg, rfl⟩ := List.mem_map.1 hg'
    exact hfiles f hf g hg hpath
  rw [Resolver.runFrom_nil hreader hfiles, Resolver.runFrom_nil hreader hfiles',
    Resolver.runForgetful, Resolver.runForgetful, Checker.violations_check,
    Checker.violations_check, Checker.pairs_asNew, List.flatMap_map]
  refine List.Sublist.flatMap_right _ fun p hp => ?_
  obtain ⟨hfile, hunit, hrule⟩ := Checker.mem_pairs hp
  refine Pair.violations_sublist (all_narrow hrule ?_ _ _) fun hfail => hread hfail _ hfile
  rintro l ⟨⟩
  exact hanswers _ (Resolver.unitOf_of_unit? hfile hunit)

/-- Where no file may declare an action, a resolver answers every question. -/
theorem Resolver.answers_of_candidates_nil {r : Resolver} {u : SourceUnit}
    (h : r.candidates u = .ok []) : r.forgetful.Answers u := by
  intro strict action
  by_cases hempty : (action == "") = true
  · exact ⟨none, if_pos hempty⟩
  · have hfind : r.find? action u = .ok none := by
      unfold find?
      rw [h]
      rfl
    refine ⟨allowed strict none, (if_neg hempty).trans ?_⟩
    rw [hfind]
    rfl

/-- A resolver in an empty project. -/
def Resolver.inEmptyProject : Resolver :=
  ⟨fun _ _ => none, .empty [], Project.complete [], Settings.defaultDeclareFunction⟩

/-- In an empty project, no file may declare the actions of a page. -/
theorem Resolver.candidates_inEmptyProject (t : Text) :
    inEmptyProject.candidates (.ofPage "a.html" t) = .ok [] := by
  have hwalk : Entry.walk Entry.linkLimit [] (.dir []) ["src"] = .ok ⟨["src"], none⟩ := by
    unfold Entry.walk
    rfl
  have hland : inEmptyProject.project.land (.ofString "/src") = .ok ⟨["src"], none⟩ := hwalk
  have htop : Entry.walk Entry.linkLimit [] (.dir []) [] = .ok ⟨[], some (.dir [])⟩ := by
    unfold Entry.walk
    rfl
  have hlandTop : inEmptyProject.project.land (.ofString "/") = .ok ⟨[], some (.dir [])⟩ := htop
  have hsources : inEmptyProject.project.search (inEmptyProject.root.under "src").toString
      scriptEndings [] = .ok [] := by
    rw [show (inEmptyProject.root.under "src").toString = "/src" by decide +kernel]
    unfold Project.search Project.lookUp Project.entryAt
    rw [hland]
    rfl
  have hrooted (words : List String) : inEmptyProject.project.search "/" scriptEndings words = .ok [] := by
    unfold Project.search Project.lookUp Project.entryAt
    rw [hlandTop]
    rfl
  have hbeside : (inEmptyProject.directoryOf "a.html").toString = "/" := by decide +kernel
  have hroot : inEmptyProject.root.toString = "/" := by decide +kernel
  have hsearched : inEmptyProject.searchedFiles (.ofPage "a.html" t) = .ok [] := by
    unfold searchedFiles
    rw [show (SourceUnit.ofPage "a.html" t).path = "a.html" from rfl, hbeside, hsources, hroot, hrooted, hrooted]
    rfl
  unfold candidates
  rw [hsearched]
  rfl

/-- A page is read whatever its text is. -/
theorem SourceReader.ofGrammars_page (grammars : Grammars) (t : Text) :
    ofGrammars grammars "a.html" t = .ok (some (.ofPage "a.html" t)) := by
  have hformat : Format.ofPath? "a.html" = some .page := by decide +kernel
  unfold ofGrammars SourceUnit.read?
  rw [hformat]

/-- The page is checked as the unit of a page. -/
theorem Checker.unit?_page {m : Type → Type} [Monad m] (s : Settings) (grammars : Grammars)
    (lookup : Option (Lookup m)) (t diff : Text) :
    (ofRules s (.ofGrammars grammars) lookup).unit? ⟨"a.html", t, diff⟩ =
      some (.ofPage "a.html" t) := by
  unfold unit? ofRules
  dsimp only
  rw [SourceReader.ofGrammars_page]

/-- A resolver in an empty project answers for the page. -/
theorem Resolver.answers_inEmptyProject {grammars : Grammars} {diff t : Text} {u : SourceUnit}
    (h : UnitOf (SourceReader.ofGrammars grammars) [⟨"a.html", t, diff⟩] u) :
    inEmptyProject.forgetful.Answers u := by
  obtain ⟨f, hf, hu⟩ := h
  obtain rfl := List.mem_singleton.1 hf
  rw [SourceReader.ofGrammars_page] at hu
  obtain rfl := Option.some.inj (Except.ok.inj hu)
  exact answers_of_candidates_nil (candidates_inEmptyProject t)

/-- One file has one text for its path. -/
theorem samePathSameText_singleton (f : StagedFile) : SamePathSameText [f] := by
  intro a ha b hb _
  rw [List.mem_singleton.1 ha, List.mem_singleton.1 hb]

/-- A page of which a difference adds one line, in an empty project. -/
theorem diff_narrows_page :
    let s : Settings := ⟨[⟨5, true, [], [], [("inputComponents", ["input"])]⟩], [], [],
      "declareRequest", true⟩
    let reader := SourceReader.ofGrammars fun _ _ => none
    let r := Resolver.inEmptyProject
    let file : StagedFile := ⟨"a.html", "<input>\n<input>".toList, "@@ -1 +2 @@\n+<input>".toList⟩
    reader.KeepsPath ∧ SamePathSameText [file] ∧
      (∀ u, Resolver.UnitOf reader [file] u → r.forgetful.Answers u) ∧ Diff.Readable file.diff ∧
      (r.runFrom s reader [] [file]).1.violations.Sublist
        (r.runFrom s reader [] ([file].map StagedFile.asNew)).1.violations := by
  intro s reader r file
  have hreader : reader.KeepsPath := SourceReader.keepsPath_ofGrammars _
  have hfiles : SamePathSameText [file] := samePathSameText_singleton file
  have hanswers : ∀ u, Resolver.UnitOf reader [file] u → r.forgetful.Answers u :=
    fun u => Resolver.answers_inEmptyProject
  have hread : Diff.Readable file.diff := by
    have herror : (Text.lines file.diff).findSome? Diff.hunkError? = none := by decide +kernel
    refine ⟨Diff.ofText file.diff, ?_⟩
    unfold Diff.read
    rw [herror]
  refine ⟨hreader, hfiles, hanswers, hread, ?_⟩
  refine (diff_narrows s).2 reader r [file] hreader hfiles hanswers fun _ f hf => ?_
  obtain rfl := List.mem_singleton.1 hf
  exact hread

/-- A page with a difference that cannot be read, where faults are reported: the run over the page as a
new file does not find the fault of reading. -/
theorem not_sublist_of_unreadable :
    let s : Settings := ⟨[⟨4, false, [], [], []⟩], [], [], "declareRequest", true⟩
    let reader := SourceReader.ofGrammars fun _ _ => none
    let r := Resolver.inEmptyProject
    let file : StagedFile := ⟨"a.html", "<p></p>\n".toList, Diff.header (List.replicate 4301 '1')⟩
    reader.KeepsPath ∧ SamePathSameText [file] ∧
      (∀ u, Resolver.UnitOf reader [file] u → r.forgetful.Answers u) ∧
      ¬ (r.runFrom s reader [] [file]).1.violations.Sublist
        (r.runFrom s reader [] ([file].map StagedFile.asNew)).1.violations := by
  intro s reader r file
  have hreader : reader.KeepsPath := SourceReader.keepsPath_ofGrammars _
  refine ⟨hreader, samePathSameText_singleton file,
    fun u => Resolver.answers_inEmptyProject, fun hsub => ?_⟩
  rw [Resolver.runFrom_nil hreader (samePathSameText_singleton file), List.map_singleton,
    Resolver.runFrom_nil hreader (samePathSameText_singleton file.asNew), Resolver.runForgetful,
    Resolver.runForgetful, Checker.violations_check, Checker.violations_check] at hsub
  let c := Checker.ofRules s reader (some r.forgetful)
  let page : SourceUnit := .ofPage "a.html" file.text
  have hpairs : c.pairs [file] = c.evaluators.map fun e => ⟨file, page, e⟩ :=
    c.pairs_singleton (by decide +kernel) (Checker.unit?_page s _ _ _ _)
  have hpairs' : c.pairs [file.asNew] = c.evaluators.map fun e => ⟨file.asNew, page, e⟩ :=
    c.pairs_singleton (by decide +kernel) (Checker.unit?_page s _ _ _ _)
  -- The rule on placeholders reads the difference of every page.
  let rule : Evaluator Id := ⟨5, fun path u diff =>
    MonadExcept.ofExcept (InputPlaceholder.evaluate (s.rule 5) path u diff)⟩
  have hrule : rule ∈ c.evaluators := by
    simp [c, Checker.ofRules, Evaluator.all, rule]
  have hread : Diff.read file.diff = .error (.numeral (.tooLong 4301)) := by
    refine (Diff.read_header (fun c hc => List.eq_of_mem_replicate hc) ?_).trans ?_
    · rw [List.length_replicate]
      decide
    · rw [List.length_replicate]
  have hevaluate : InputPlaceholder.evaluate (s.rule 5) "a.html" page file.diff =
      .error (.numeral (.tooLong 4301)) := by
    have hjudged : InputPlaceholder.evaluate (s.rule 5) "a.html" page file.diff =
        (Diff.read file.diff).map (InputPlaceholder.judge (s.rule 5) "a.html" page) := rfl
    rw [hjudged, hread]
    rfl
  have hfault : (Pair.mk file page rule).outcome = .error (.numeral (.tooLong 4301)) :=
    Pair.outcome_ofExcept hevaluate
  have hleft : Violation.ofFault "a.html" 5 (.numeral (.tooLong 4301)) ∈
      (c.pairs [file]).flatMap (Pair.violations true) := by
    refine List.mem_flatMap.2 ⟨⟨file, page, rule⟩, ?_, ?_⟩
    · rw [hpairs]
      exact List.mem_map_of_mem hrule
    · rw [Pair.violations_of_error hfault]
      exact List.mem_singleton_self _
  obtain ⟨p, hp, hv⟩ := List.mem_flatMap.1 (hsub.subset hleft)
  -- Without a difference no rule breaks down on the page.
  have hcalm : p.crashes = false := by
    rw [hpairs'] at hp
    obtain ⟨e, he, rfl⟩ := List.mem_map.1 hp
    simp only [c, Checker.ofRules, Evaluator.all, List.mem_cons, List.not_mem_nil, or_false] at he
    rcases he with rfl | rfl | rfl | rfl | rfl
    all_goals rfl
  rcases Pair.fault_or_reported (Checker.mem_pairs hp).2.2 hv with ⟨fault, houtcome, _⟩ | hreported
  · unfold Pair.crashes at hcalm
    rw [houtcome] at hcalm
    cases hcalm
  · exact Int.lt_irrefl 0 hreported.rule_pos

end UxLint
