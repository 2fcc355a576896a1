import UxLint.Check
import UxLint.Proofs.Rule.Findings

/-!
# The pairs of a run

A run comes down to its pairs: every accepted file that can be read, with every rule, in the order of
the files and then of the rules. Each pair adds its own violations, or the report of its fault, and
no pair knows of another one. `violations_check`, `crashedPairs_check` and `check_append` are what
other files use.
-/

set_option autoImplicit false

namespace UxLint

namespace CheckResult

variable (a b c : CheckResult)

/-- Two results have the violations of both. -/
@[simp] theorem violations_append : (a ++ b).violations = a.violations ++ b.violations := rfl

/-- Two results count the checked files of both. -/
@[simp] theorem filesChecked_append : (a ++ b).filesChecked = a.filesChecked + b.filesChecked := rfl

/-- Two results count the skipped files of both. -/
@[simp] theorem filesSkipped_append : (a ++ b).filesSkipped = a.filesSkipped + b.filesSkipped := rfl

/-- Two results count the crashes of both. -/
@[simp] theorem crashedPairs_append : (a ++ b).crashedPairs = a.crashedPairs + b.crashedPairs := rfl

/-- Two results list the checked files of both. -/
@[simp] theorem checked_append : (a ++ b).checked = a.checked ++ b.checked := rfl

/-- Results are the same if they agree in all fields. -/
theorem eq_of_fields {a b : CheckResult} (hv : a.violations = b.violations)
    (hc : a.filesChecked = b.filesChecked) (hs : a.filesSkipped = b.filesSkipped)
    (hp : a.crashedPairs = b.crashedPairs) (hl : a.checked = b.checked) : a = b := by
  cases a
  cases b
  simp only at hv hc hs hp hl
  rw [hv, hc, hs, hp, hl]

/-- The empty result adds nothing. -/
@[simp] theorem empty_append : empty ++ a = a := by
  refine eq_of_fields ?_ ?_ ?_ ?_ ?_ <;> simp [empty]

/-- Results may be put together in any grouping. -/
theorem append_assoc : a ++ b ++ c = a ++ (b ++ c) := by
  refine eq_of_fields ?_ ?_ ?_ ?_ ?_ <;> simp [Int.add_assoc]

end CheckResult

/-- An accepted file that could be read, with one of the rules. -/
structure Pair where
  file : StagedFile
  unit : SourceUnit
  evaluator : Evaluator Id

namespace Pair

/-- What comes of the rule on the file. -/
def outcome (p : Pair) : Except Fault Findings :=
  (p.evaluator.evaluate p.file.path p.unit p.file.diff).run

/-- Whether the rule breaks down on the file. -/
def crashes (p : Pair) : Bool :=
  match p.outcome with
  | .ok _ => false
  | .error _ => true

/-- The violations that the pair adds to a run: those found, or the report of the fault if faults are
reported. -/
def violations (failOnError : Bool) (p : Pair) : List Violation :=
  match p.outcome with
  | .ok none => []
  | .ok (some found) => found
  | .error fault => if failOnError then [.ofFault p.file.path p.evaluator.rule fault] else []

/-- The result of one pair is what the pair adds, and whether it crashes. -/
theorem ofFindings_outcome (failOnError : Bool) (p : Pair) :
    (CheckResult.ofFindings failOnError p.file.path p.evaluator.rule p.outcome).violations =
        p.violations failOnError ∧
      (CheckResult.ofFindings failOnError p.file.path p.evaluator.rule p.outcome).crashedPairs =
        if p.crashes then 1 else 0 := by
  unfold violations crashes
  cases p.outcome with
  | error fault => exact ⟨rfl, rfl⟩
  | ok found => cases found <;> exact ⟨rfl, rfl⟩

/-- The result of one rule on one file counts no files. -/
theorem ofFindings_files (failOnError : Bool) (path : String) (rule : Int)
    (outcome : Except Fault Findings) :
    (CheckResult.ofFindings failOnError path rule outcome).filesChecked = 0 ∧
      (CheckResult.ofFindings failOnError path rule outcome).filesSkipped = 0 := by
  cases outcome <;> exact ⟨rfl, rfl⟩

/-- A violation of a pair reports the fault of the pair, or is one of those that the rule finds. -/
theorem fault_or_found {P : Violation → Prop} {p : Pair}
    (h : Ensures (AllFound P) (p.evaluator.evaluate p.file.path p.unit p.file.diff))
    {failOnError : Bool} {v : Violation} (hv : v ∈ p.violations failOnError) :
    (∃ fault, p.outcome = .error fault ∧ v = .ofFault p.file.path p.evaluator.rule fault) ∨ P v := by
  unfold violations at hv
  cases houtcome : p.outcome with
  | error fault =>
    rw [houtcome] at hv
    dsimp only at hv
    split at hv
    · exact .inl ⟨fault, rfl, List.mem_singleton.1 hv⟩
    · cases hv
  | ok found =>
    rw [houtcome] at hv
    have hall : AllFound P found := h.of_ok houtcome
    cases found with
    | none => cases hv
    | some vs => exact .inr (hall vs rfl v hv)

section FiveRules

variable {s : Settings} {lookup : Option (Lookup Id)} {p : Pair} {failOnError : Bool} {v : Violation}

/-- A violation of a pair of the five rules reports the fault of the pair or something of its unit. -/
theorem fault_or_reported (hp : p.evaluator ∈ Evaluator.all s lookup)
    (hv : v ∈ p.violations failOnError) :
    (∃ fault, p.outcome = .error fault ∧ v = .ofFault p.file.path p.evaluator.rule fault) ∨
      Reported s p.file.path p.unit v :=
  fault_or_found (found_reported hp p.file.path p.unit p.file.diff) hv

/-- The violations of a pair of the five rules are of the file of the pair. -/
theorem file_of_mem_violations (hp : p.evaluator ∈ Evaluator.all s lookup)
    (hv : v ∈ p.violations failOnError) : v.file = p.file.path := by
  rcases fault_or_reported hp hv with ⟨fault, _, rfl⟩ | hreported
  · rfl
  · exact hreported.file_eq

/-- The violations of a pair of the five rules bear the number of the rule, or that of a fault. -/
theorem rule_of_mem_violations (hp : p.evaluator ∈ Evaluator.all s lookup)
    (hv : v ∈ p.violations failOnError) : v.rule = p.evaluator.rule ∨ v.rule = 0 := by
  rcases fault_or_found (found_rule hp p.file.path p.unit p.file.diff) hv with
    ⟨fault, _, rfl⟩ | hrule
  · exact .inr rfl
  · exact .inl hrule

end FiveRules

end Pair

namespace Checker

variable (c : Checker Id)

/-- Whether a file is one that the run looks at. -/
def accepts (c : Checker Id) (f : StagedFile) : Bool := c.settings.accepts f.path

/-- The pairs of one file. -/
def pairsOf (f : StagedFile) : List Pair :=
  if c.accepts f then
    match c.unit? f with
    | none => []
    | some u => c.evaluators.map fun e => ⟨f, u, e⟩
  else []

/-- The pairs of a run, in the order of the files and then of the rules. -/
def pairs (files : List StagedFile) : List Pair := files.flatMap c.pairsOf

variable {c} in
/-- A pair of a run has one of its files, the unit of this file and one of its rules. -/
theorem mem_pairs {files : List StagedFile} {p : Pair} (h : p ∈ c.pairs files) :
    p.file ∈ files ∧ c.unit? p.file = some p.unit ∧ p.evaluator ∈ c.evaluators := by
  obtain ⟨f, hf, hp⟩ := List.mem_flatMap.1 h
  unfold pairsOf at hp
  split at hp
  · split at hp
    · cases hp
    · next u hu =>
      obtain ⟨e, he, rfl⟩ := List.mem_map.1 hp
      exact ⟨hf, hu, he⟩
  · cases hp

/-- The pairs of an accepted file with a unit. -/
theorem pairs_singleton {f : StagedFile} {u : SourceUnit} (haccepts : c.accepts f = true)
    (hunit : c.unit? f = some u) : c.pairs [f] = c.evaluators.map fun e => ⟨f, u, e⟩ := by
  unfold pairs pairsOf
  rw [List.flatMap_singleton, if_pos haccepts, hunit]

/-- To check no files yields the empty result. -/
theorem check_nil : Id.run (c.check []) = .empty := rfl

/-- To check files is to check the first one and then the others. -/
theorem check_cons (f : StagedFile) (rest : List StagedFile) :
    Id.run (c.check (f :: rest)) = Id.run (c.checkFile f) ++ Id.run (c.check rest) := rfl

/-- The rules on one unit: each adds what its pair adds, and no file is counted. -/
theorem evaluateAll_fields (f : StagedFile) (u : SourceUnit) (es : List (Evaluator Id)) :
    (Id.run (c.evaluateAll f u es)).violations =
        (es.map fun e => (⟨f, u, e⟩ : Pair)).flatMap (Pair.violations c.settings.failOnError) ∧
      (Id.run (c.evaluateAll f u es)).crashedPairs =
        ((es.map fun e => (⟨f, u, e⟩ : Pair)).countP Pair.crashes : Int) ∧
      (Id.run (c.evaluateAll f u es)).filesChecked = 0 ∧
      (Id.run (c.evaluateAll f u es)).filesSkipped = 0 := by
  induction es with
  | nil => exact ⟨rfl, rfl, rfl, rfl⟩
  | cons e es ih =>
    obtain ⟨hv, hp, hc, hs⟩ := ih
    obtain ⟨hv', hp'⟩ := Pair.ofFindings_outcome c.settings.failOnError ⟨f, u, e⟩
    obtain ⟨hc', hs'⟩ := Pair.ofFindings_files c.settings.failOnError f.path e.rule
      (Pair.outcome ⟨f, u, e⟩)
    have hstep : Id.run (c.evaluateAll f u (e :: es)) =
        CheckResult.ofFindings c.settings.failOnError f.path e.rule (Pair.outcome ⟨f, u, e⟩) ++
          Id.run (c.evaluateAll f u es) := rfl
    rw [hstep]
    refine ⟨?_, ?_, ?_, ?_⟩
    · rw [CheckResult.violations_append, hv, List.map_cons, List.flatMap_cons, ← hv']
    · rw [CheckResult.crashedPairs_append, hp, List.map_cons, List.countP_cons]
      rw [show (CheckResult.ofFindings c.settings.failOnError f.path e.rule
        (Pair.outcome ⟨f, u, e⟩)).crashedPairs = _ from hp']
      split <;> simp [Int.add_comm]
    · rw [CheckResult.filesChecked_append, hc, hc', Int.add_zero]
    · rw [CheckResult.filesSkipped_append, hs, hs', Int.add_zero]

/-- One file: its pairs are added, and it is counted once if it is accepted. -/
theorem checkFile_fields (f : StagedFile) :
    (Id.run (c.checkFile f)).violations =
        (c.pairsOf f).flatMap (Pair.violations c.settings.failOnError) ∧
      (Id.run (c.checkFile f)).crashedPairs = ((c.pairsOf f).countP Pair.crashes : Int) ∧
      (Id.run (c.checkFile f)).filesChecked =
        (if c.accepts f && (c.unit? f).isSome then 1 else 0) ∧
      (Id.run (c.checkFile f)).filesSkipped =
        (if c.accepts f && (c.unit? f).isNone then 1 else 0) := by
  unfold checkFile pairsOf accepts
  cases c.settings.accepts f.path with
  | false => exact ⟨rfl, rfl, rfl, rfl⟩
  | true =>
    cases c.unit? f with
    | none => exact ⟨rfl, rfl, rfl, rfl⟩
    | some u =>
      obtain ⟨hv, hp, hc, hs⟩ := c.evaluateAll_fields f u c.evaluators
      refine ⟨?_, ?_, ?_, ?_⟩
      · exact hv
      · exact (Int.zero_add _).trans hp
      · exact congrArg (1 + ·) hc
      · exact congrArg (0 + ·) hs

/-- The violations of a run are those of its pairs, in the order of the pairs. -/
theorem violations_check (files : List StagedFile) :
    (Id.run (c.check files)).violations =
      (c.pairs files).flatMap (Pair.violations c.settings.failOnError) := by
  induction files with
  | nil => rfl
  | cons f rest ih =>
    rw [check_cons, CheckResult.violations_append, ih, (c.checkFile_fields f).1, pairs, pairs,
      List.flatMap_cons, List.flatMap_append]

/-- A run counts the pairs that crash. -/
theorem crashedPairs_check (files : List StagedFile) :
    (Id.run (c.check files)).crashedPairs = ((c.pairs files).countP Pair.crashes : Int) := by
  induction files with
  | nil => rfl
  | cons f rest ih =>
    rw [check_cons, CheckResult.crashedPairs_append, ih, (c.checkFile_fields f).2.1, pairs, pairs,
      List.flatMap_cons, List.countP_append, Int.natCast_add]

/-- A run checks the accepted files that can be read. -/
theorem filesChecked_check (files : List StagedFile) :
    (Id.run (c.check files)).filesChecked =
      (files.countP fun f => c.accepts f && (c.unit? f).isSome : Int) := by
  induction files with
  | nil => rfl
  | cons f rest ih =>
    rw [check_cons, CheckResult.filesChecked_append, ih, (c.checkFile_fields f).2.2.1,
      List.countP_cons]
    split <;> simp [Int.add_comm]

/-- A run skips the accepted files that cannot be read. -/
theorem filesSkipped_check (files : List StagedFile) :
    (Id.run (c.check files)).filesSkipped =
      (files.countP fun f => c.accepts f && (c.unit? f).isNone : Int) := by
  induction files with
  | nil => rfl
  | cons f rest ih =>
    rw [check_cons, CheckResult.filesSkipped_append, ih, (c.checkFile_fields f).2.2.2,
      List.countP_cons]
    split <;> simp [Int.add_comm]

/-- Every accepted file is either checked or skipped. -/
theorem files_check (files : List StagedFile) :
    (Id.run (c.check files)).filesChecked + (Id.run (c.check files)).filesSkipped =
      (files.countP c.accepts : Int) := by
  rw [filesChecked_check, filesSkipped_check, ← Int.natCast_add]
  congr 1
  induction files with
  | nil => rfl
  | cons f rest ih =>
    simp only [List.countP_cons]
    cases c.accepts f <;> cases c.unit? f <;> simp <;> omega

/-- A run over two rows of files is the runs over both, put together. -/
theorem check_append (files more : List StagedFile) :
    Id.run (c.check (files ++ more)) = Id.run (c.check files) ++ Id.run (c.check more) := by
  induction files with
  | nil => rw [List.nil_append, check_nil, CheckResult.empty_append]
  | cons f rest ih =>
    rw [List.cons_append, check_cons, check_cons, ih, CheckResult.append_assoc]

end Checker

end UxLint
