import UxLint.CommandLine.Session
import UxLint.Proofs.Run.Containment
import UxLint.Proofs.StableSort
import Mathlib.Data.List.Nodup
import Mathlib.Data.Prod.Lex
import Mathlib.Data.String.Basic

/-!
# Reports do not depend on the order of the files

A report sorts violations by a place in which the file takes part. Two violations that tie are
therefore of one file, and where no two files share a path, they were found in an order in which the
order of the files has no say. Sorting being stable, the same violations are listed in the same order
however the files come. `report_eq_of_perm` is the top.
-/

set_option autoImplicit false

namespace UxLint

open StableSort

namespace Violation

/-- Where a report by rules lists a violation. -/
def place (v : Violation) : Lex (Int × Lex (String × Int)) :=
  toLex (v.rule, toLex (v.file, v.line))

/-- Where a report lists a violation if the symbols count too. -/
def placeAndSymbol (v : Violation) : Lex (Int × Lex (String × Lex (Int × String))) :=
  toLex (v.rule, toLex (v.file, toLex (v.line, v.symbol)))

/-- Violations are compared by their places. -/
theorem byPlace_iff (a b : Violation) : byPlace a b ↔ a.place ≤ b.place := by
  unfold byPlace place
  rw [Prod.Lex.toLex_le_toLex, Prod.Lex.toLex_le_toLex]
  by_cases hrule : a.rule = b.rule
  · by_cases hfile : a.file = b.file
    · simp [hrule, hfile]
    · simp [hrule, hfile]
  · simp [hrule]

/-- Violations are compared by their places and then by their symbols. -/
theorem byPlaceAndSymbol_iff (a b : Violation) :
    byPlaceAndSymbol a b ↔ a.placeAndSymbol ≤ b.placeAndSymbol := by
  unfold byPlaceAndSymbol placeAndSymbol
  rw [Prod.Lex.toLex_le_toLex, Prod.Lex.toLex_le_toLex, Prod.Lex.toLex_le_toLex]
  by_cases hrule : a.rule = b.rule
  · by_cases hfile : a.file = b.file
    · by_cases hline : a.line = b.line
      · simp [hrule, hfile, hline]
      · simp [hrule, hfile, hline]
    · simp [hrule, hfile]
  · simp [hrule]

/-- Violations that tie in a report by rules are of one file. -/
theorem file_eq_of_ties_byPlace {a b : Violation} (h : ties byPlace a b) : a.file = b.file :=
  congrArg (fun k => (ofLex (ofLex k).2).1) (key_eq_of_ties byPlace_iff h)

/-- Violations that tie in a report where symbols count are of one file. -/
theorem file_eq_of_ties_byPlaceAndSymbol {a b : Violation} (h : ties byPlaceAndSymbol a b) :
    a.file = b.file :=
  congrArg (fun k => (ofLex (ofLex k).2).1) (key_eq_of_ties byPlaceAndSymbol_iff h)

end Violation

/-! ## Blocks of one file -/

section Blocks

variable {found : StagedFile → List Violation} {files files' : List StagedFile}

/-- What is chosen from two blocks of different files, when only violations of one file are chosen: the
order of the blocks does not matter. -/
theorem filter_swap_blocks {f g : StagedFile} {chosen : Violation → Bool}
    (hfound : ∀ f, ∀ v ∈ found f, v.file = f.path) (hpath : f.path ≠ g.path)
    (hchosen : ∀ v w, chosen v → chosen w → v.file = w.file) :
    (found f).filter chosen ++ (found g).filter chosen =
      (found g).filter chosen ++ (found f).filter chosen := by
  by_cases hnone : (found f).filter chosen = []
  · rw [hnone, List.nil_append, List.append_nil]
  · obtain ⟨v, hv⟩ := List.exists_mem_of_ne_nil _ hnone
    obtain ⟨hvf, hv⟩ := List.mem_filter.1 hv
    have hother : (found g).filter chosen = [] := by
      rw [List.filter_eq_nil_iff]
      intro w hwg hw
      apply hpath
      rw [← hfound f v hvf, ← hfound g w hwg, hchosen v w hv hw]
    rw [hother, List.nil_append, List.append_nil]

/-- Whatever the order of the files, the violations chosen from one file come in one order. -/
theorem filter_flatMap_of_perm (hperm : files.Perm files') (hpaths : (files.map (·.path)).Nodup)
    (hfound : ∀ f, ∀ v ∈ found f, v.file = f.path) {chosen : Violation → Bool}
    (hchosen : ∀ v w, chosen v → chosen w → v.file = w.file) :
    (files.flatMap found).filter chosen = (files'.flatMap found).filter chosen := by
  induction hperm with
  | nil => rfl
  | cons f _ ih =>
    rw [List.map_cons, List.nodup_cons] at hpaths
    rw [List.flatMap_cons, List.flatMap_cons, List.filter_append, List.filter_append,
      ih hpaths.2]
  | swap f g rest =>
    rw [List.map_cons, List.map_cons, List.nodup_cons, List.mem_cons, not_or] at hpaths
    have hswap := filter_swap_blocks hfound hpaths.1.1 hchosen
    simp only [List.flatMap_cons, List.filter_append]
    rw [← List.append_assoc, ← List.append_assoc, hswap]
  | trans hfirst _ ih ih' =>
    rw [ih hpaths]
    exact ih' ((hfirst.map _).nodup_iff.1 hpaths)

/-- Sorting by a comparison under which only violations of one file tie forgets the order of the
files. -/
theorem mergeSort_flatMap_of_perm {le : Violation → Violation → Bool} (hle : Comparison le)
    (hties : ∀ v w, ties le v w → v.file = w.file) (hperm : files.Perm files')
    (hpaths : (files.map (·.path)).Nodup) (hfound : ∀ f, ∀ v ∈ found f, v.file = f.path) :
    (files.flatMap found).mergeSort le = (files'.flatMap found).mergeSort le := by
  refine mergeSort_eq_of_perm hle (hperm.flatMap_right found) fun a => ?_
  refine filter_flatMap_of_perm hperm hpaths hfound fun v w hv hw => ?_
  rw [← hties a v hv, hties a w hw]

end Blocks

/-! ## Reports of a run -/

/-- The violations that a run adds for one file. -/
def Checker.violationsOf (c : Checker Id) (f : StagedFile) : List Violation :=
  (c.pairsOf f).flatMap (Pair.violations c.settings.failOnError)

/-- The violations that a run of the five rules adds for one file are of that file. -/
theorem Checker.file_of_mem_violationsOf (s : Settings) (reader : SourceReader)
    (lookup : Option (Lookup Id)) (f : StagedFile) :
    ∀ v ∈ (Checker.ofRules s reader lookup).violationsOf f, v.file = f.path := by
  intro v hv
  obtain ⟨p, hp, hv⟩ := List.mem_flatMap.1 hv
  have hpair : p ∈ (Checker.ofRules s reader lookup).pairs [f] := by
    rw [pairs, List.flatMap_singleton]
    exact hp
  obtain ⟨hfile, _, hrule⟩ := mem_pairs hpair
  rw [Pair.file_of_mem_violations hrule hv, List.mem_singleton.1 hfile]

/-- Files with different paths have one text for each path. -/
theorem samePathSameText_of_nodup {files : List StagedFile}
    (hpaths : (files.map (·.path)).Nodup) : SamePathSameText files := by
  intro f hf g hg hpath
  rw [List.inj_on_of_nodup_map hpaths hf hg hpath]

namespace CommandLine.Environment

variable (env : Environment) (s : Settings)

/-- A run of the program is a run of its resolver that starts with an empty memo. -/
theorem check_eq_runFrom (files : List StagedFile) :
    env.check s files =
      ((env.resolver s).runFrom s (SourceReader.ofGrammars env.grammars) [] files).1 := rfl

/-- The checker of the program if its resolver remembers nothing. -/
def forgetful (env : Environment) (s : Settings) : Checker Id :=
  .ofRules s (SourceReader.ofGrammars env.grammars) (some (env.resolver s).forgetful)

/-- The violations of a run over files with different paths, file by file. -/
theorem violations_check_of_nodup {files : List StagedFile}
    (hpaths : (files.map (·.path)).Nodup) :
    (env.check s files).violations = files.flatMap (env.forgetful s).violationsOf := by
  have hrun := Resolver.runFrom_nil (r := env.resolver s) (s := s)
    (SourceReader.keepsPath_ofGrammars env.grammars) (samePathSameText_of_nodup hpaths)
  rw [check_eq_runFrom, hrun]
  exact ((env.forgetful s).violations_check files).trans List.flatMap_assoc

/-- Files with different paths may come in any order: the report for machines is the same text, and
the report by rules has the same groups. -/
theorem report_eq_of_perm {files files' : List StagedFile} (hperm : files.Perm files')
    (hpaths : (files.map (·.path)).Nodup) :
    JsonReport.render (env.check s files).violations =
        JsonReport.render (env.check s files').violations ∧
      Violation.groups (env.check s files).violations =
        Violation.groups (env.check s files').violations := by
  have hfound : ∀ f, ∀ v ∈ (env.forgetful s).violationsOf f, v.file = f.path :=
    Checker.file_of_mem_violationsOf s _ _
  rw [violations_check_of_nodup env s hpaths,
    violations_check_of_nodup env s ((hperm.map _).nodup_iff.1 hpaths)]
  refine ⟨?_, ?_⟩
  · have hsort := mergeSort_flatMap_of_perm (Comparison.ofKey _ Violation.byPlaceAndSymbol_iff)
      (fun v w => Violation.file_eq_of_ties_byPlaceAndSymbol) hperm hpaths hfound
    have hempty := (hperm.flatMap_right (env.forgetful s).violationsOf).isEmpty_eq
    unfold JsonReport.render
    rw [hsort, hempty]
  · have hsort := mergeSort_flatMap_of_perm (Comparison.ofKey _ Violation.byPlace_iff)
      (fun v w => Violation.file_eq_of_ties_byPlace) hperm hpaths hfound
    unfold Violation.groups
    rw [hsort]

/-- Two pages with an input field each, in both orders. -/
theorem report_eq_of_perm_pages :
    let env : Environment := ⟨fun _ _ => none, ⟨fun _ => .error "no reader", fun _ => none⟩,
      fun _ => .missing, .packaged, .empty []⟩
    let s : Settings := ⟨[⟨5, true, [], [], [("inputComponents", ["input"])]⟩], [], [],
      "declareRequest", true⟩
    let a : StagedFile := ⟨"a.html", "<p>\n<input>".toList, []⟩
    let b : StagedFile := ⟨"b.html", "<input>".toList, []⟩
    [b, a].Perm [a, b] ∧ ([b, a].map (·.path)).Nodup ∧
      JsonReport.render (env.check s [b, a]).violations =
        JsonReport.render (env.check s [a, b]).violations ∧
      Violation.groups (env.check s [b, a]).violations =
        Violation.groups (env.check s [a, b]).violations := by
  intro env s a b
  have hperm : [b, a].Perm [a, b] := List.Perm.swap a b []
  have hpaths : ([b, a].map (·.path)).Nodup := by decide
  exact ⟨hperm, hpaths, report_eq_of_perm env s hperm hpaths⟩

end CommandLine.Environment

end UxLint
