import UxLint.CommandLine.Session
import UxLint.Proofs.Run.Containment

/-!
# Switching one rule

Turning a rule on or off, or exempting more or less from it, changes what that rule finds and nothing
else. The rules share a classifier and, from file to file, the memo of a resolver. The classifier is made
of word lists, which such a change leaves alone, and what the memo holds cannot be seen, so two runs have
the same pairs but for those of the switched rule (`pairs_of_others`). What a pair adds bears the number
of its rule or that of a fault, and so the violations of the other rules are those of the same pairs.
`check_switched` is the top.
-/

set_option autoImplicit false

namespace UxLint

/-- Settings that differ at most in whether one rule is on and in what is exempt from it. -/
structure Settings.SwitchedAt (number : Nat) (s s' : Settings) : Prop where
  fileExtensions : s.fileExtensions = s'.fileExtensions
  ignore : s.ignore = s'.ignore
  declareFunction : s.declareFunction = s'.declareFunction
  failOnError : s.failOnError = s'.failOnError
  others : ∀ n, n ≠ number → s.rule n = s'.rule n
  /-- The word lists of the rule are not part of what is switched. -/
  words : (s.rule number).customKeywords = (s'.rule number).customKeywords

/-- Whether a violation is neither one of the given rule nor the report of a fault. -/
def Violation.isOfOther (number : Nat) (v : Violation) : Bool := v.rule != number && v.rule != 0

/-- Whether a rule is another one than that of the given number. -/
def Evaluator.isOther {m : Type → Type} (number : Nat) (e : Evaluator m) : Bool := e.rule != number

/-- Two rows of rules that differ at most in the rule of one number. -/
theorem Evaluator.filter_isOther {m : Type → Type} {number : Nat} {es es' : List (Evaluator m)}
    (h : List.Forall₂
      (fun e e' : Evaluator m => e.rule = e'.rule ∧ (e.rule ≠ number → e = e')) es es') :
    es.filter (isOther number) = es'.filter (isOther number) := by
  induction h with
  | nil => rfl
  | @cons e e' _ _ he _ ih =>
    obtain ⟨hrule, heq⟩ := he
    by_cases hnumber : e.rule = number
    · have hout : isOther number e = false := by simp [isOther, hnumber]
      have hout' : isOther number e' = false := by simp [isOther, ← hrule, hnumber]
      simp [hout, hout', ih]
    · rw [heq hnumber, List.filter_cons, List.filter_cons, ih]

namespace Settings.SwitchedAt

variable {number : Nat} {s s' : Settings}

/-- Settings that differ at a switch have the same keywords. -/
theorem keywords (h : s.SwitchedAt number s') (n : Nat) (name : String) :
    (s.rule n).keywords name = (s'.rule n).keywords name := by
  have hwords : (s.rule n).customKeywords = (s'.rule n).customKeywords := by
    by_cases hn : n = number
    · rw [hn, h.words]
    · rw [h.others n hn]
  unfold RuleSettings.keywords
  rw [hwords]

/-- Settings that differ at a switch classify requests alike. -/
theorem classifier (h : s.SwitchedAt number s') : Evaluator.classifier s = Evaluator.classifier s' := by
  unfold Evaluator.classifier Evaluator.requestWords
  rw [h.keywords 1, h.keywords 2]

/-- Settings that differ at a switch accept the same files. -/
theorem accepts (h : s.SwitchedAt number s') (path : String) : s.accepts path = s'.accepts path := by
  unfold Settings.accepts
  rw [h.fileExtensions, h.ignore]

/-- The rules but the switched one are the same rules under both settings. -/
theorem evaluators_of_others {m : Type → Type} [Monad m] (h : s.SwitchedAt number s')
    (lookup : Option (Lookup m)) :
    (Evaluator.all s lookup).filter (Evaluator.isOther number) =
      (Evaluator.all s' lookup).filter (Evaluator.isOther number) := by
  have hsettings (n : Nat) (hn : (n : Int) ≠ number) : s.rule n = s'.rule n :=
    h.others n fun heq => hn (congrArg Int.ofNat heq)
  apply Evaluator.filter_isOther
  unfold Evaluator.all
  rw [h.classifier]
  refine .cons ⟨rfl, ?_⟩ (.cons ⟨rfl, ?_⟩ (.cons ⟨rfl, ?_⟩ (.cons ⟨rfl, ?_⟩ (.cons ⟨rfl, ?_⟩ .nil))))
  · intro hn
    rw [hsettings 1 hn]
  · intro hn
    rw [hsettings 2 hn]
  · intro hn
    rw [hsettings 3 hn]
  · intro hn
    rw [hsettings 4 hn]
  · intro hn
    rw [hsettings 5 hn]

end Settings.SwitchedAt

/-! ## Pairs -/

/-- Whether the rule of a pair is another one than that of the given number. -/
def Pair.isOfOther (number : Nat) (p : Pair) : Bool := p.evaluator.isOther number

section Pairs

variable {number : Nat} {s s' : Settings} {reader : SourceReader} {lookup : Option (Lookup Id)}

/-- Two runs have the same pairs, but for those of the switched rule. -/
theorem Checker.pairs_of_others (h : s.SwitchedAt number s') (files : List StagedFile) :
    ((ofRules s reader lookup).pairs files).filter (Pair.isOfOther number) =
      ((ofRules s' reader lookup).pairs files).filter (Pair.isOfOther number) := by
  have hfile (f : StagedFile) :
      ((ofRules s reader lookup).pairsOf f).filter (Pair.isOfOther number) =
        ((ofRules s' reader lookup).pairsOf f).filter (Pair.isOfOther number) := by
    have haccepts : (ofRules s reader lookup).accepts f = (ofRules s' reader lookup).accepts f :=
      h.accepts f.path
    have hunit : (ofRules s reader lookup).unit? f = (ofRules s' reader lookup).unit? f := rfl
    unfold pairsOf
    rw [haccepts, hunit]
    split
    · split
      · rfl
      · next u _ =>
        have hevaluators := congrArg (List.map fun e => (⟨f, u, e⟩ : Pair))
          (h.evaluators_of_others lookup)
        rw [List.filter_map, List.filter_map]
        exact hevaluators
    · rfl
  unfold pairs
  rw [List.filter_flatMap, List.filter_flatMap]
  exact congrArg (List.flatMap · files) (funext hfile)

/-- A pair of the switched rule adds nothing under the number of another rule. -/
theorem Pair.filter_violations {p : Pair} (hp : p.evaluator ∈ Evaluator.all s lookup)
    (hnumber : p.isOfOther number = false) (failOnError : Bool) :
    (p.violations failOnError).filter (Violation.isOfOther number) = [] := by
  rw [List.filter_eq_nil_iff]
  intro v hv
  have hrule : p.evaluator.rule = number := by
    simpa [isOfOther, Evaluator.isOther] using hnumber
  rcases rule_of_mem_violations hp hv with hv | hv
  · simp [Violation.isOfOther, hv, hrule]
  · simp [Violation.isOfOther, hv]

/-- What a run finds under the numbers of other rules, it finds in the pairs of other rules. -/
theorem Checker.filter_violations_check (files : List StagedFile) :
    (Id.run ((ofRules s reader lookup).check files)).violations.filter (Violation.isOfOther number) =
      ((((ofRules s reader lookup).pairs files).filter (Pair.isOfOther number)).flatMap
        (Pair.violations s.failOnError)).filter (Violation.isOfOther number) := by
  rw [violations_check]
  have hmem : ∀ p ∈ (ofRules s reader lookup).pairs files,
      p.evaluator ∈ Evaluator.all s lookup := fun p hp => (mem_pairs hp).2.2
  change ((((ofRules s reader lookup).pairs files).flatMap
    (Pair.violations s.failOnError)).filter _) = _
  generalize (ofRules s reader lookup).pairs files = ps at hmem
  induction ps with
  | nil => rfl
  | cons p rest ih =>
    obtain ⟨hp, hrest⟩ := List.forall_mem_cons.1 hmem
    rw [List.flatMap_cons, List.filter_append, ih hrest, List.filter_cons]
    cases hother : p.isOfOther number with
    | false =>
      rw [Pair.filter_violations hp hother]
      rfl
    | true => rw [if_pos rfl, List.flatMap_cons, List.filter_append]

end Pairs

/-! ## Runs -/

namespace CommandLine.Environment

variable (env : Environment) {number : Nat} {s s' : Settings}

/-- A check with a memo finds what a run without one finds. -/
theorem check_eq_runForgetful {files : List StagedFile} (hfiles : SamePathSameText files)
    (s : Settings) : env.check s files =
      (env.resolver s).runForgetful s (SourceReader.ofGrammars env.grammars) files :=
  Resolver.runFrom_nil (SourceReader.keepsPath_ofGrammars env.grammars) hfiles

/-- Whether a rule is on and what is exempt from it has no part in which files are checked and skipped, nor
in what the other rules find. -/
theorem check_switched (h : s.SwitchedAt number s') {files : List StagedFile}
    (hfiles : SamePathSameText files) :
    (env.check s files).filesChecked = (env.check s' files).filesChecked ∧
      (env.check s files).filesSkipped = (env.check s' files).filesSkipped ∧
      (env.check s files).violations.filter (Violation.isOfOther number) =
        (env.check s' files).violations.filter (Violation.isOfOther number) := by
  have hresolver : env.resolver s = env.resolver s' := by
    unfold resolver
    rw [h.declareFunction]
  have haccepts (lookup : Option (Lookup Id)) (f : StagedFile) :
      (Checker.ofRules s (SourceReader.ofGrammars env.grammars) lookup).accepts f =
        (Checker.ofRules s' (SourceReader.ofGrammars env.grammars) lookup).accepts f :=
    h.accepts f.path
  rw [env.check_eq_runForgetful hfiles s, env.check_eq_runForgetful hfiles s', hresolver]
  unfold Resolver.runForgetful
  refine ⟨?_, ?_, ?_⟩
  · rw [Checker.filesChecked_check, Checker.filesChecked_check]
    simp only [haccepts]
    rfl
  · rw [Checker.filesSkipped_check, Checker.filesSkipped_check]
    simp only [haccepts]
    rfl
  · rw [Checker.filter_violations_check, Checker.filter_violations_check,
      Checker.pairs_of_others h, h.failOnError]

/-- Two pages with inputs and a list, once with the rule on lists and once without it. -/
theorem check_switched_pages :
    let env : Environment := ⟨fun _ _ => none, ⟨fun _ => .error "no reader", fun _ => none⟩,
      fun _ => .missing, .packaged, .empty []⟩
    let inputs : RuleSettings := ⟨5, true, [], [], [("inputComponents", ["input"])]⟩
    let s : Settings := ⟨[⟨4, true, [], [], []⟩, inputs], [], [], "declareRequest", true⟩
    let s' : Settings := ⟨[⟨4, false, [], ["src/**"], []⟩, inputs], [], [], "declareRequest", true⟩
    let files : List StagedFile := [⟨"a.html", "<p v-for='x'></p><input>".toList, []⟩,
      ⟨"b.html", "<input>".toList, []⟩]
    s.SwitchedAt 4 s' ∧ (s.rule 4).enabled = true ∧ (s'.rule 4).enabled = false ∧
      SamePathSameText files ∧
      (env.check s files).filesChecked = (env.check s' files).filesChecked ∧
      (env.check s files).filesSkipped = (env.check s' files).filesSkipped ∧
      (env.check s files).violations.filter (Violation.isOfOther 4) =
        (env.check s' files).violations.filter (Violation.isOfOther 4) := by
  intro env inputs s s' files
  have hswitched : s.SwitchedAt 4 s' := by
    refine ⟨rfl, rfl, rfl, rfl, fun n hn => ?_, rfl⟩
    have hfour : (4 == n) = false := by simpa using Ne.symm hn
    unfold Settings.rule
    simp only [s, s', List.find?_cons, hfour]
  have hfiles : SamePathSameText files := by
    simp [SamePathSameText, files]
  exact ⟨hswitched, rfl, rfl, hfiles, env.check_switched hswitched hfiles⟩

end CommandLine.Environment

end UxLint
