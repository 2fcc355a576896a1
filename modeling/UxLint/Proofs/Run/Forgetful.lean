import UxLint.Proofs.Resolver.Memo

/-!
# A run with a memo is a run without one

The rules of a run share one resolver, and so its memo, from file to file. As long as files of one path
have one text, the memo never holds anything but what a search finds, and the run comes to what it comes
to with a resolver that forgets (`runFrom_agrees`). What a run knows from the files before it therefore
does not change what it says about the next ones.
-/

set_option autoImplicit false

namespace UxLint

/-- Whether a reader names every unit by the path of its file. -/
def SourceReader.KeepsPath (reader : SourceReader) : Prop :=
  ∀ path text u, reader path text = .ok (some u) → u.path = path

/-- The reader with the given grammars. -/
def SourceReader.ofGrammars (grammars : Grammars) : SourceReader :=
  fun path text => .ok (SourceUnit.read? grammars path text)

/-- Whether files of one path have one text. -/
def SamePathSameText (files : List StagedFile) : Prop :=
  ∀ f ∈ files, ∀ g ∈ files, f.path = g.path → f.text = g.text

/-- A unit that is read has the path that it is read from. -/
theorem SourceUnit.path_read? {grammars : Grammars} {path : String} {t : Text} {u : SourceUnit}
    (h : read? grammars path t = some u) : u.path = path := by
  unfold read? at h
  split at h
  · cases h
  · cases h
    rfl
  · unfold ofComponent? at h
    split at h
    · cases h
      rfl
    · obtain ⟨tree, _, rfl⟩ := Option.map_eq_some_iff.mp h
      rfl
  · obtain ⟨tree, _, rfl⟩ := Option.map_eq_some_iff.mp h
    rfl

/-- A reader with grammars keeps paths. -/
theorem SourceReader.keepsPath_ofGrammars (grammars : Grammars) :
    (ofGrammars grammars).KeepsPath := by
  intro path text u h
  exact SourceUnit.path_read? (Except.ok.inj h)

/-- The checker of the five rules under the given settings. -/
def Checker.ofRules {m : Type → Type} [Monad m] (s : Settings) (reader : SourceReader)
    (lookup : Option (Lookup m)) : Checker m := ⟨s, reader, Evaluator.all s lookup⟩

section Agreement

variable {σ : Type} {I : σ → Prop} {s : Settings} {reader : SourceReader}
  {lookup : Option (Lookup (StateM σ))} {lookup' : Option (Lookup Id)}

/-- One file under rules that agree: what is found, and the invariant of the state. -/
theorem evaluateAll_agrees {c : Checker (StateM σ)} {c' : Checker Id}
    (hsettings : c.settings = c'.settings) (f : StagedFile) (u : SourceUnit)
    {es : List (Evaluator (StateM σ))} {es' : List (Evaluator Id)}
    (h : List.Forall₂ (fun e e' => e.rule = e'.rule ∧
      ∀ path diff, Agrees I (e.evaluate path u diff) (e'.evaluate path u diff)) es es') :
    Yields I (c.evaluateAll f u es) (Id.run (c'.evaluateAll f u es')) := by
  induction h with
  | nil => exact Yields.pure _
  | @cons e e' _ _ he _ ih =>
    obtain ⟨hrule, he⟩ := he
    have hrun : Yields I (e.evaluate f.path u f.diff).run (e'.evaluate f.path u f.diff).run :=
      he f.path f.diff
    unfold Checker.evaluateAll
    rw [hrule, hsettings]
    exact hrun.bind (ih.bind (Yields.pure _))

/-- A run over lookups that agree: what is found, and the invariant of the state. -/
theorem check_agrees {files : List StagedFile}
    (h : ∀ f ∈ files, ∀ u, (Checker.ofRules s reader lookup').unit? f = some u →
      LookupsAgree I u lookup lookup') :
    Yields I ((Checker.ofRules s reader lookup).check files)
      (Id.run ((Checker.ofRules s reader lookup').check files)) := by
  induction files with
  | nil => exact Yields.pure _
  | cons f rest ih =>
    have hrest := ih fun g hg => h g (List.mem_cons_of_mem f hg)
    have hfile : Yields I ((Checker.ofRules s reader lookup).checkFile f)
        (Id.run ((Checker.ofRules s reader lookup').checkFile f)) := by
      unfold Checker.checkFile
      by_cases hskip : (!s.accepts f.path) = true
      · rw [show (Checker.ofRules s reader lookup).settings = s from rfl,
          show (Checker.ofRules s reader lookup').settings = s from rfl, if_pos hskip, if_pos hskip]
        exact Yields.pure _
      · rw [show (Checker.ofRules s reader lookup).settings = s from rfl,
          show (Checker.ofRules s reader lookup').settings = s from rfl, if_neg hskip, if_neg hskip]
        rw [show (Checker.ofRules s reader lookup).unit? f =
          (Checker.ofRules s reader lookup').unit? f from rfl]
        cases hu : (Checker.ofRules s reader lookup').unit? f with
        | none => exact Yields.pure _
        | some u =>
          have hall := all_agree (h f List.mem_cons_self u hu) s
          exact (evaluateAll_agrees rfl f u hall).bind (Yields.pure _)
    exact hfile.bind (hrest.bind (Yields.pure _))

end Agreement

namespace Resolver

variable (r : Resolver) (s : Settings) (reader : SourceReader)

/-- A run of the five rules that starts with a memo: what it found, and the memo it leaves. -/
def runFrom (memo : Memo) (files : List StagedFile) : CheckResult × Memo :=
  ((Checker.ofRules s reader (some r.asLookup)).check files).run memo

/-- A run of the five rules that remembers nothing. -/
def runForgetful (files : List StagedFile) : CheckResult :=
  Id.run ((Checker.ofRules s reader (some r.forgetful)).check files)

/-- The units of some files. -/
def UnitOf (files : List StagedFile) (u : SourceUnit) : Prop :=
  ∃ f ∈ files, reader f.path f.text = .ok (some u)

variable {r s reader}

/-- Where a path has one text, the units of a run are told apart by their paths. -/
theorem toldApart_unitOf (hreader : reader.KeepsPath) {files : List StagedFile}
    (hfiles : SamePathSameText files) : ToldApart (UnitOf reader files) := by
  rintro u v ⟨f, hf, hu⟩ ⟨g, hg, hv⟩ huv
  have hpath : f.path = g.path := by
    rw [← hreader _ _ _ hu, ← hreader _ _ _ hv, huv]
  rw [hpath, hfiles f hf g hg hpath, hv] at hu
  cases hu
  rfl

/-- A unit that a run checks is one of its units. -/
theorem unitOf_of_unit? {m : Type → Type} [Monad m] {lookup : Option (Lookup m)}
    {files : List StagedFile} {f : StagedFile} {u : SourceUnit} (hf : f ∈ files)
    (h : (Checker.ofRules s reader lookup).unit? f = some u) : UnitOf reader files u := by
  refine ⟨f, hf, ?_⟩
  unfold Checker.unit? Checker.ofRules at h
  dsimp only at h
  cases hread : reader f.path f.text with
  | error fault =>
    rw [hread] at h
    cases h
  | ok found =>
    rw [hread] at h
    exact congrArg Except.ok h

/-- A run over some of the files, started with a sound memo: it comes to what the forgetful run comes
to, and leaves a sound memo. -/
theorem runFrom_agrees (hreader : reader.KeepsPath) {files some : List StagedFile}
    (hfiles : SamePathSameText files) (hsome : some ⊆ files) {memo : Memo}
    (hmemo : r.Sound (UnitOf reader files) memo) :
    (r.runFrom s reader memo some).1 = r.runForgetful s reader some ∧
      r.Sound (UnitOf reader files) (r.runFrom s reader memo some).2 := by
  refine check_agrees (fun f hf u hu => ?_) memo hmemo
  exact asLookup_agrees (toldApart_unitOf hreader hfiles) (unitOf_of_unit? (hsome hf) hu)

end Resolver

end UxLint
