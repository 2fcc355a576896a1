import UxLint.Proofs.Resolver.Memo

/-!
# A resolver that is asked again and again

However often a resolver has been asked, and told to forget, it answers the next question as one that has
just been made: with nothing for no action, and else with what a search finds, as far as the question
accepts it. The memo is sound at the start, every call keeps it sound (`call_agrees`), and from a sound
memo the answer is the one worked out anew (`runCalls_agrees`). Strictness has no part in what is
remembered (`resolve_cases`), so that asking strictly first comes to asking once (`ask_eq_loose`).
`runCalls_answers` is the top.
-/

set_option autoImplicit false

namespace UxLint.Resolver

variable {r : Resolver}

/-! ## One question -/

/-- A loose question allows every answer. -/
theorem allowed_loose (found : Option Binding) : allowed false found = found := by
  cases found <;> rfl

/-- What a strict question accepts is what was found. -/
theorem allowed_strict (found : Option Binding) :
    allowed true found = none ∨ allowed true found = found := by
  cases found with
  | none => exact .inl rfl
  | some b =>
    by_cases hflag : b.flag = usualFlag
    · exact .inr (by simp [allowed, hflag])
    · exact .inl (by simp [allowed, hflag])

/-- A question for an action raises a fault and leaves the memo as it is, or it comes to something found, of
which the answer is what the question accepts; then the memo it leaves gives that answer again. Which of it
happens, and the memo, do not depend on strictness. -/
theorem resolve_cases (memo : Memo) (action : String) (u : SourceUnit) :
    (∃ fault, ∀ strict, r.resolve strict action u memo = (.error fault, memo)) ∨
      ∃ found memo', ∀ strict,
        r.resolve strict action u memo = (.ok (allowed strict found), memo') ∧
          r.resolve strict action u memo' = (.ok (allowed strict found), memo') := by
  by_cases haction : action = ""
  · subst haction
    exact .inr ⟨none, memo, fun strict => ⟨rfl, rfl⟩⟩
  · cases hmem : remembered? memo action u.path with
    | some found =>
      refine .inr ⟨found, memo, fun strict => ?_⟩
      have hanswer : r.resolve strict action u memo = (.ok (allowed strict found), memo) := by
        simp [resolve, haction, hmem]
      exact ⟨hanswer, hanswer⟩
    | none =>
      cases hfind : r.find? action u with
      | error fault => exact .inl ⟨fault, fun strict => by simp [resolve, haction, hmem, hfind]⟩
      | ok found =>
        have hagain : remembered? (((action, u.path), found) :: memo) action u.path = some found := by
          rw [remembered?_cons, if_pos ⟨rfl, rfl⟩]
        refine .inr ⟨found, ((action, u.path), found) :: memo, fun strict => ⟨?_, ?_⟩⟩
        · simp [resolve, haction, hmem, hfind]
        · simp [resolve, haction, hagain]

/-- A resolver that has just been made answers with what a search finds, if the question accepts it. -/
theorem resolve_fresh (strict : Bool) (action : String) (u : SourceUnit) :
    (r.resolve strict action u []).1 =
      if action = "" then .ok none
      else (r.find? action u).map fun found =>
        found.bind fun b => if strict ∧ b.flag ≠ "loading" then none else some b := by
  by_cases haction : action = ""
  · subst haction
    rfl
  · rw [if_neg haction]
    unfold resolve
    rw [if_neg (by simpa using haction)]
    cases r.find? action u with
    | error fault => rfl
    | ok found =>
      cases found with
      | none => rfl
      | some b =>
        by_cases hflag : b.flag = "loading" <;> cases strict <;>
          simp [remembered?, allowed, usualFlag, Except.map, hflag]

/-- The answer to a strict question is nothing, or the answer to the same question if it is not strict. -/
theorem resolve_strict (memo : Memo) (action : String) (u : SourceUnit) :
    (r.resolve true action u memo).1 = .ok none ∨
      (r.resolve true action u memo).1 = (r.resolve false action u memo).1 := by
  rcases r.resolve_cases memo action u with ⟨fault, h⟩ | ⟨found, memo', h⟩
  · exact .inr (by rw [h true, h false])
  · rw [(h true).1, (h false).1, allowed_loose]
    exact (allowed_strict found).imp (congrArg Except.ok) (congrArg Except.ok)

/-- What asking strictly first comes to, step by step. -/
theorem ask_apply (action : String) (u : SourceUnit) (memo : Memo) :
    r.asLookup.ask action u memo =
      match r.resolve true action u memo with
      | (.error fault, memo') => (.error fault, memo')
      | (.ok (some b), memo') => (.ok (some b), memo')
      | (.ok none, memo') => r.resolve false action u memo' := by
  rcases hstrict : r.resolve true action u memo with ⟨answer, memo'⟩
  unfold Lookup.ask
  simp only [bind, ExceptT.bind, ExceptT.mk, StateT.bind]
  have hstrict' : r.asLookup true action u memo = (answer, memo') := hstrict
  rw [hstrict']
  cases answer with
  | error fault => rfl
  | ok found => cases found <;> rfl

/-- Asking strictly, and once more if that is answered by nothing, is asking not strictly. -/
theorem ask_eq_loose (action : String) (u : SourceUnit) :
    r.asLookup.ask action u = r.asLookup false action u := by
  funext memo
  rw [ask_apply]
  change _ = r.resolve false action u memo
  rcases r.resolve_cases memo action u with ⟨fault, h⟩ | ⟨found, memo', h⟩
  · rw [h true, h false]
  · rw [(h true).1, (h false).1]
    rcases allowed_strict found with hnone | hfound
    · rw [hnone]
      exact (h false).2
    · rw [hfound, allowed_loose]
      cases found with
      | none => exact (h false).2
      | some b => rfl

/-! ## A row of calls -/

/-- Whether a call asks for one of the given units, if it asks at all. -/
def Call.AsksFor (units : SourceUnit → Prop) : Call → Prop
  | .resolve _ _ u => units u
  | .clear => True

/-- The units for which a row of calls asks. -/
def AskedBy (calls : List Call) (u : SourceUnit) : Prop :=
  ∃ strict action, Call.resolve strict action u ∈ calls

/-- A call asks for what its row asks for. -/
theorem asksFor_askedBy {calls : List Call} {c : Call} (hc : c ∈ calls) :
    c.AsksFor (AskedBy calls) := by
  cases c with
  | resolve strict action u => exact ⟨strict, action, hc⟩
  | clear => trivial

variable {units : SourceUnit → Prop} {memo : Memo}

/-- One call with a sound memo: the answer of a resolver that has just been made, and a sound memo. -/
theorem call_agrees (hapart : ToldApart units) (hmemo : r.Sound units memo) {c : Call}
    (hc : c.AsksFor units) :
    (r.call memo c).1 = (r.call [] c).1 ∧ r.Sound units (r.call memo c).2 := by
  cases c with
  | resolve strict action u =>
    obtain ⟨hanswer, hsound⟩ := resolve_agrees hapart hmemo hc strict action
    obtain ⟨hfresh, -⟩ := resolve_agrees (r := r) hapart sound_nil hc strict action
    exact ⟨congrArg some (hanswer.trans hfresh.symm), hsound⟩
  | clear => exact ⟨rfl, sound_nil⟩

/-- A row of calls with a sound memo: the answers of resolvers that have just been made, and a sound
memo. -/
theorem runCalls_agrees (hapart : ToldApart units) (hmemo : r.Sound units memo) {calls : List Call}
    (hcalls : ∀ c ∈ calls, c.AsksFor units) :
    (r.runCalls memo calls).1 = calls.map (fun c => (r.call [] c).1) ∧
      r.Sound units (r.runCalls memo calls).2 := by
  induction calls generalizing memo with
  | nil => exact ⟨rfl, hmemo⟩
  | cons c rest ih =>
    obtain ⟨hc, hrest⟩ := List.forall_mem_cons.1 hcalls
    obtain ⟨hanswer, hsound⟩ := call_agrees hapart hmemo hc
    obtain ⟨hanswers, hend⟩ := ih hsound hrest
    refine ⟨?_, hend⟩
    rw [List.map_cons, ← hanswer, ← hanswers]
    rfl

/-- As long as units of one path are one unit, every question in a row of calls is answered as by a
resolver that has just been made: by nothing for no action, and else by what a search finds, unless the
question is strict and the flag another one. Whatever is remembered, a strict answer is nothing or the
answer that is not strict, and asking strictly first is asking not strictly. -/
theorem runCalls_answers (r : Resolver) {calls : List Call} (h : ToldApart (AskedBy calls)) :
    (r.runCalls [] calls).1 = calls.map (fun c =>
        match c with
        | .resolve strict action u => some (r.resolve strict action u []).1
        | .clear => none) ∧
      (∀ strict action u, (r.resolve strict action u []).1 =
        if action = "" then .ok none
        else (r.find? action u).map fun found =>
          found.bind fun b => if strict ∧ b.flag ≠ "loading" then none else some b) ∧
      (∀ memo action u, (r.resolve true action u memo).1 = .ok none ∨
        (r.resolve true action u memo).1 = (r.resolve false action u memo).1) ∧
      ∀ action u, r.asLookup.ask action u = r.asLookup false action u := by
  refine ⟨?_, resolve_fresh, resolve_strict, ask_eq_loose⟩
  obtain ⟨hanswers, -⟩ := runCalls_agrees h (r.sound_nil) fun c hc => asksFor_askedBy hc
  rw [hanswers]
  refine List.map_congr_left fun c _ => ?_
  cases c <;> rfl

/-! A project of one script, which declares an action, and a page beside it. -/

/-- A script that declares an action with another flag than the usual one. -/
def declaringScript : Text := "const save = declareRequest('saving')".toList

/-- The outline of the script, as far as the declaration goes. -/
def declaringOutline : Outline :=
  .node "program" "" true 0 37 [.node "variable_declarator" "" true 6 37
    [.node "identifier" "name" true 6 10 [], .node "call_expression" "value" true 13 37
      [.node "identifier" "function" true 13 27 [],
        .node "arguments" "arguments" true 27 37 [.node "string" "" true 28 36 []]]]]

/-- A resolver in the project. -/
def inDeclaringProject : Resolver :=
  ⟨fun _ _ => some declaringOutline,
    ⟨.dir [("save.js", .file (Text.encode declaringScript))], []⟩, Project.complete [],
    Settings.defaultDeclareFunction⟩

/-- The page. -/
def askingPage : SourceUnit := .ofPage "page.html" []

/-- A search from the page finds the script. -/
theorem candidates_inDeclaringProject :
    inDeclaringProject.candidates askingPage = .ok ["/save.js"] := by
  let p := inDeclaringProject.project
  have htop : p.land (.ofString "/") = .ok ⟨[], some p.top⟩ := by
    change p.top.walk Entry.linkLimit [] [] = _
    rw [Entry.walk]
    rfl
  have hsources : p.land (.ofString "/src") = .ok ⟨["src"], none⟩ := by
    change p.top.walk Entry.linkLimit [] ["src"] = _
    unfold Entry.walk
    rfl
  have hsearch (words : List String) : p.search "/" scriptEndings words =
      .ok ((p.top.search scriptEndings words words.isEmpty).map (Project.below (.ofString "/"))) := by
    unfold Project.search Project.lookUp Project.entryAt
    rw [htop]
    rfl
  have hnone : p.search "/src" scriptEndings [] = .ok [] := by
    unfold Project.search Project.lookUp Project.entryAt
    rw [hsources]
    rfl
  have hsearched : inDeclaringProject.searchedFiles askingPage = .ok ["/save.js"] := by
    unfold searchedFiles
    rw [show (inDeclaringProject.directoryOf askingPage.path).toString = "/" by decide +kernel,
      show (inDeclaringProject.root.under "src").toString = "/src" by decide +kernel,
      show inDeclaringProject.root.toString = "/" by decide +kernel, hsearch, hsearch, hnone]
    exact congrArg Except.ok (by decide +kernel)
  unfold candidates
  rw [hsearched]
  exact congrArg Except.ok (by decide +kernel)

/-- The script is read as it was written. -/
theorem read_inDeclaringProject :
    inDeclaringProject.project.read "/save.js" = .ok declaringScript := by
  let p := inDeclaringProject.project
  have hland : p.land (.ofString "/save.js") =
      .ok ⟨["save.js"], some (.file (Text.encode declaringScript))⟩ := by
    change p.top.walk Entry.linkLimit [] ["save.js"] = _
    unfold Entry.walk
    change Entry.walk Entry.linkLimit [("save.js", p.top)] (.file _) [] = _
    unfold Entry.walk
    rfl
  unfold Project.read Project.octets Project.octetsOf Project.entryAt
  rw [hland]
  exact congrArg Except.ok (by decide +kernel)

/-- The search finds the declaration. -/
theorem find?_inDeclaringProject :
    inDeclaringProject.find? "save" askingPage = .ok (some ⟨"save", "saving", "/save.js"⟩) := by
  have htext : inDeclaringProject.bindingInText? "save" "/save.js" declaringScript =
      some ⟨"save", "saving", "/save.js"⟩ := by
    decide +kernel
  have hbinding : inDeclaringProject.bindingIn? "save" "/save.js" =
      .ok (some ⟨"save", "saving", "/save.js"⟩) := by
    unfold bindingIn? Project.readable?
    rw [read_inDeclaringProject]
    exact congrArg Except.ok htext
  unfold find?
  rw [candidates_inDeclaringProject]
  change inDeclaringProject.firstBinding? "save" ["/save.js"] = _
  unfold firstBinding?
  rw [hbinding]
  rfl

/-- A page that asks strictly, not strictly, and again after all was forgotten. -/
theorem runCalls_answers_page :
    let calls : List Call := [.resolve true "save" askingPage, .resolve false "save" askingPage,
      .clear, .resolve false "save" askingPage]
    let saving : Binding := ⟨"save", "saving", "/save.js"⟩
    ToldApart (AskedBy calls) ∧ (inDeclaringProject.runCalls [] calls).1 =
      [some (.ok none), some (.ok (some saving)), none, some (.ok (some saving))] := by
  intro calls saving
  have hpage : ∀ u, AskedBy calls u → u = askingPage := by
    rintro u ⟨strict, action, hu⟩
    simp only [calls, List.mem_cons, Call.resolve.injEq, reduceCtorEq, List.not_mem_nil] at hu
    rcases hu with ⟨-, -, rfl⟩ | ⟨-, -, rfl⟩ | hu | ⟨-, -, rfl⟩ | hu
    · rfl
    · rfl
    · exact hu.elim
    · rfl
    · exact hu.elim
  have hapart : ToldApart (AskedBy calls) := fun u v hu hv _ => by
    rw [hpage u hu, hpage v hv]
  obtain ⟨hanswers, hfresh, -⟩ := runCalls_answers inDeclaringProject hapart
  refine ⟨hapart, ?_⟩
  rw [hanswers]
  simp only [calls, List.map_cons, List.map_nil, hfresh, find?_inDeclaringProject]
  rfl

end UxLint.Resolver
