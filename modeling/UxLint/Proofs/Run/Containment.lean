import UxLint.Proofs.Run.Forgetful
import UxLint.Proofs.Run.Pairs

/-!
# A fault stays with its pair

A rule that breaks down on a file costs a run that pair and nothing else: all other pairs add what they
add anyway, the pair itself adds the report of its fault or nothing, and the run counts it. Since no pair
knows of another one, a run over two rows of files is the runs over both, put together, and this holds
for the rules that share a memo too. `run_contained` is the top.
-/

set_option autoImplicit false

namespace UxLint

/-- What a result says if every fault stays with its pair. -/
structure Checker.Contained (c : Checker Id) (files : List StagedFile) (result : CheckResult) :
    Prop where
  /-- The violations are those of the pairs, by files and then by rules. -/
  violations : result.violations =
    (c.pairs files).flatMap (Pair.violations c.settings.failOnError)
  /-- The accepted files are checked or skipped. -/
  counted : result.filesChecked + result.filesSkipped = (files.countP c.accepts : Int)
  /-- The pairs that break down are counted. -/
  crashed : result.crashedPairs = ((c.pairs files).countP Pair.crashes : Int)
  /-- A pair that breaks down adds one violation, which names its file and its rule, or nothing. -/
  sentinel : ∀ p ∈ c.pairs files, ∀ fault, p.outcome = .error fault →
    p.violations false = [] ∧ ∃ v, p.violations true = [v] ∧ v.rule = 0 ∧
      v.symbol = "evaluator-crashed" ∧ v.file = p.file.path ∧
      v.message = "rule " ++ toString p.evaluator.rule ++ " crashed: " ++ fault.kind ++ ": " ++
        fault.message
  /-- If faults are reported, a result without violations has no fault behind it. -/
  silent : c.settings.failOnError = true → result.violations = [] → result.crashedPairs = 0

namespace Pair

/-- A rule that breaks down yields a violation of its own, or none. -/
theorem violations_of_error {p : Pair} {fault : Fault} (h : p.outcome = .error fault)
    (failOnError : Bool) : p.violations failOnError =
      if failOnError then [.ofFault p.file.path p.evaluator.rule fault] else [] := by
  unfold violations
  rw [h]

/-- A pair that adds nothing although faults are reported has not broken down. -/
theorem not_crashes_of_violations_nil {p : Pair} (h : p.violations true = []) :
    p.crashes = false := by
  unfold crashes
  cases houtcome : p.outcome with
  | ok found => rfl
  | error fault =>
    rw [violations_of_error houtcome] at h
    cases h

end Pair

namespace Checker

/-- A run without violations has no fault behind it if faults are reported. -/
theorem crashedPairs_eq_zero (c : Checker Id) (files : List StagedFile)
    (hfail : c.settings.failOnError = true) (h : (Id.run (c.check files)).violations = []) :
    (Id.run (c.check files)).crashedPairs = 0 := by
  rw [violations_check, hfail, List.flatMap_eq_nil_iff] at h
  rw [crashedPairs_check]
  have hcount : (c.pairs files).countP Pair.crashes = 0 := by
    rw [List.countP_eq_zero]
    intro p hp
    rw [Pair.not_crashes_of_violations_nil (h p hp)]
    exact Bool.false_ne_true
  rw [hcount]
  rfl

/-- A run contains what its pairs of files and rules find. -/
theorem contained_check (c : Checker Id) (files : List StagedFile) :
    c.Contained files (Id.run (c.check files)) where
  violations := c.violations_check files
  counted := c.files_check files
  crashed := c.crashedPairs_check files
  sentinel := by
    intro p _ fault hfault
    refine ⟨Pair.violations_of_error hfault false, _, Pair.violations_of_error hfault true, ?_⟩
    exact ⟨rfl, rfl, rfl, rfl⟩
  silent := c.crashedPairs_eq_zero files

end Checker

namespace Resolver

variable {r : Resolver} {s : Settings} {reader : SourceReader}

/-- A run with an empty memo comes to what a forgetful run comes to. -/
theorem runFrom_nil (hreader : reader.KeepsPath) {files : List StagedFile}
    (hfiles : SamePathSameText files) :
    (r.runFrom s reader [] files).1 = r.runForgetful s reader files :=
  (runFrom_agrees hreader hfiles (List.Subset.refl files) sound_nil).1

/-- A run over some more files: with the memo of the files before, or with an empty one. -/
theorem runFrom_more (hreader : reader.KeepsPath) {files more : List StagedFile}
    (hfiles : SamePathSameText (files ++ more)) :
    (r.runFrom s reader [] files).1 = r.runForgetful s reader files ∧
      (r.runFrom s reader [] more).1 = r.runForgetful s reader more ∧
      (r.runFrom s reader (r.runFrom s reader [] files).2 more).1 =
        r.runForgetful s reader more := by
  have hfirst := runFrom_agrees (r := r) (s := s) hreader hfiles
    (List.subset_append_left files more) sound_nil
  have halone := runFrom_agrees (r := r) (s := s) hreader hfiles
    (List.subset_append_right files more) sound_nil
  have hafter := runFrom_agrees (r := r) (s := s) hreader hfiles
    (List.subset_append_right files more) hfirst.2
  exact ⟨hfirst.1, halone.1, hafter.1⟩

end Resolver

/-- Every run keeps faults to their pairs and is put together from the runs over the parts of its files:
a run of any rules with any reader, and, where files of one path have one text, a run of the five rules
that share the memo of a resolver. -/
theorem run_contained (c : Checker Id) (s : Settings) (reader : SourceReader) (r : Resolver)
    (files more : List StagedFile) :
    (c.Contained files (Id.run (c.check files)) ∧
      Id.run (c.check (files ++ more)) = Id.run (c.check files) ++ Id.run (c.check more)) ∧
    (reader.KeepsPath → SamePathSameText (files ++ more) →
      (Checker.ofRules s reader (some r.forgetful)).Contained (files ++ more)
        (r.runFrom s reader [] (files ++ more)).1 ∧
      (r.runFrom s reader [] (files ++ more)).1 =
        (r.runFrom s reader [] files).1 ++ (r.runFrom s reader [] more).1 ∧
      (r.runFrom s reader (r.runFrom s reader [] files).2 more).1 =
        (r.runFrom s reader [] more).1) := by
  refine ⟨⟨c.contained_check files, c.check_append files more⟩, fun hreader hfiles => ?_⟩
  obtain ⟨hfirst, halone, hafter⟩ := Resolver.runFrom_more (r := r) (s := s) hreader hfiles
  have hall := Resolver.runFrom_nil (r := r) (s := s) hreader hfiles
  refine ⟨?_, ?_, ?_⟩
  · rw [hall]
    exact Checker.contained_check _ _
  · rw [hall, hfirst, halone]
    exact Checker.check_append _ files more
  · rw [hafter, halone]

/-- Two pages under a rule that always breaks down, and under the five rules. -/
theorem run_contained_pages :
    let s : Settings := ⟨[], [".html"], [], "declareRequest", true⟩
    let reader := SourceReader.ofGrammars fun _ _ => none
    let r : Resolver := ⟨fun _ _ => none, .empty [], Project.complete [], "declareRequest"⟩
    let c : Checker Id := ⟨s, reader, [⟨7, fun _ _ _ => throw .missingOwner⟩]⟩
    let files : List StagedFile := [⟨"a.html", "<input>".toList, []⟩, ⟨"notes.txt", [], []⟩]
    let more : List StagedFile := [⟨"b.html", [], []⟩]
    (Id.run (c.check files)).violations = [.ofFault "a.html" 7 .missingOwner] ∧
      c.Contained files (Id.run (c.check files)) ∧
      reader.KeepsPath ∧ SamePathSameText (files ++ more) ∧
      (r.runFrom s reader [] (files ++ more)).1 =
        (r.runFrom s reader [] files).1 ++ (r.runFrom s reader [] more).1 := by
  intro s reader r c files more
  have hreader : reader.KeepsPath := SourceReader.keepsPath_ofGrammars _
  have hfiles : SamePathSameText (files ++ more) := by
    simp [SamePathSameText, files, more]
  obtain ⟨⟨hcontained, _⟩, hmemo⟩ := run_contained c s reader r files more
  exact ⟨by decide, hcontained, hreader, hfiles, (hmemo hreader hfiles).2.1⟩

end UxLint
