import UxLint.Proofs.Loading.Flow
import UxLint.Proofs.Markup.Binding
import UxLint.Proofs.Rule.Ensures
import UxLint.Proofs.Rule.Groups
import UxLint.Proofs.Rule.Narrowing

/-!
# What the first rule says about a handler

The first rule puts the handlers of a file into groups, one for each stretch of the source that is a
function, and reports a group at most once. Which of its three reports it makes is decided by the flags of
the function and by what the actions declare. `Diagnosed` says what each report tells about its group, and
`evaluate_reportsOn` what a run makes of all groups. That a run speaks of no function twice, in the
order of lines, and that the expression which it names as a wrong binding does not refer to the declared
flag, is read off.
-/

set_option autoImplicit false

namespace UxLint.DoubleSubmit

/-! ## Verdicts -/

/-- What a wrong binding says about the actions that some requests call: one of them declares the flag
that it names, and the expression that it names stands on an element without referring to that flag. -/
structure WrongBinding (declares : String → String → Prop) (elements : List Element)
    (requests : List Place) (action flag expression : String) : Prop where
  called : ∃ c ∈ requests, Request.actionName? c.node = some action
  declared : declares action flag
  bound : ∃ e ∈ elements, expression ∈ e.boundValues busyAttributes
  wrong : refersTo expression flag = false

/-- Whatever a verdict names is a wrong binding. -/
def ActionVerdict.Sound (declares : String → String → Prop) (elements : List Element)
    (requests : List Place) (verdict : ActionVerdict) : Prop :=
  ∀ action flag expression, verdict = .wrong action flag expression →
    WrongBinding declares elements requests action flag expression

section Judging

variable {declares : String → String → Prop} {elements : List Element} {requests : List Place}
  {action flag : String}

/-- To know nothing is sound. -/
theorem ActionVerdict.Sound.unknown :
    ActionVerdict.Sound declares elements requests .unknown := by
  intro a f e h
  cases h

/-- To find a flag bound is sound. -/
theorem ActionVerdict.Sound.bound : ActionVerdict.Sound declares elements requests .bound := by
  intro a f e h
  cases h

/-- To judge a flag that is declared for a called action is sound. -/
theorem sound_judgeFlag (hcalled : ∃ c ∈ requests, Request.actionName? c.node = some action)
    (hdeclares : declares action flag) :
    (judgeFlag elements action flag).Sound declares elements requests := by
  unfold judgeFlag
  split
  · exact .bound
  · next hbound =>
    split
    · exact .unknown
    · next v rest hvalues =>
      intro a f e h
      cases h
      obtain ⟨e, he, hv⟩ : ∃ e ∈ elements, v ∈ e.boundValues busyAttributes :=
        List.mem_flatMap.1 (hvalues ▸ List.mem_cons_self)
      refine ⟨hcalled, hdeclares, ⟨e, he, hv⟩, ?_⟩
      cases hrefers : refersTo v flag with
      | false => rfl
      | true =>
        exact absurd (List.any_eq_true.2 ⟨e, he, Element.bindsFlag_of_mem hv hrefers⟩) hbound

variable {m : Type → Type} [Monad m] [LawfulMonad m] {lookup : Option (Lookup m)} {u : SourceUnit}

/-- Every answer of the lookup about the flag of an action is one that the action declares. -/
def Answers (declares : String → String → Prop) (lookup : Option (Lookup m)) (u : SourceUnit) : Prop :=
  ∀ l ∈ lookup, ∀ action, Ensures (fun o => ∀ flag ∈ o, declares action flag) (l.flag? action u)

/-- Every lookup answers something. -/
theorem answers_anything (lookup : Option (Lookup m)) (u : SourceUnit) : Answers (fun _ _ => True) lookup u := by
  intro l _ action
  exact (Ensures.true (l.flag? action u)).imp fun _ _ _ _ => trivial

/-- To judge one of the requests is sound. -/
theorem judgeRequest_sound (hlookup : Answers declares lookup u) {request : Place}
    (hrequest : request ∈ requests) :
    Ensures (ActionVerdict.Sound declares elements requests)
      (judgeRequest lookup u elements request.node) := by
  unfold judgeRequest
  split
  · next l action haction =>
    refine (hlookup l rfl action).bind fun o ho => ?_
    cases o with
    | none => exact Ensures.pure .unknown
    | some flag => exact Ensures.pure (sound_judgeFlag ⟨request, hrequest, haction⟩ (ho flag rfl))
  · exact Ensures.pure .unknown

/-- To judge the requests one after the other is sound. -/
theorem judgeRequests_sound (hlookup : Answers declares lookup u) {found : ActionVerdict}
    {rest : List Place} (hfound : found.Sound declares elements requests) (hrest : rest ⊆ requests) :
    Ensures (ActionVerdict.Sound declares elements requests)
      (judgeRequests lookup u elements found rest) := by
  induction rest generalizing found with
  | nil => exact Ensures.pure hfound
  | cons request rest ih =>
    have hmore := List.subset_of_cons_subset hrest
    unfold judgeRequests
    refine (judgeRequest_sound hlookup (hrest List.mem_cons_self)).bind fun verdict hverdict => ?_
    split
    · exact Ensures.pure .bound
    · exact ih hverdict hmore
    · exact ih hfound hmore

end Judging

/-! ## Reports -/

/-- The three reports: on a flag of the function that no element shows; else on a wrong binding; else on a
handler without protection. -/
theorem report_cases (path : String) (function : Node) (elements : List Element) (first : Handler)
    (verdict : ActionVerdict) :
    (∃ flag ∈ Loading.definedFlags function, isBound elements flag = false ∧
        report path function elements first verdict = unboundFlag path first flag) ∨
      (∀ flag ∈ Loading.definedFlags function, isBound elements flag = true) ∧
        ((∃ action flag expression, verdict = .wrong action flag expression ∧
            report path function elements first verdict =
              wrongFlag path first action flag expression) ∨
          report path function elements first verdict = unprotected path first) := by
  unfold report
  split
  · next flag rest hunbound =>
    have hmem : flag ∈ (Loading.definedFlags function).filter fun f => !isBound elements f :=
      hunbound ▸ List.mem_cons_self
    obtain ⟨hdefined, hflag⟩ := List.mem_filter.1 hmem
    exact .inl ⟨flag, hdefined, by simpa using hflag, rfl⟩
  · next hunbound =>
    refine .inr ⟨fun flag hflag => ?_, ?_⟩
    · simpa using List.filter_eq_nil_iff.1 hunbound flag hflag
    · split
      · exact .inl ⟨_, _, _, rfl, rfl⟩
      · exact .inr rfl

/-- How a report on a group comes about: on its first handler, when its function sends requests and nothing
protects it, with a verdict that names wrong bindings only. -/
inductive ReportsOn (classifier : Classifier) (declares : String → String → Prop) (path : String)
    (u : SourceUnit) (g : Group) : Violation → Prop where
  | intro {first : Handler} {rest : List Handler} {verdict : ActionVerdict}
      (function : IsFunctionOf u g.function) (handlers : g.handlers = first :: rest)
      (requests : classifier.requests g.function ≠ [])
      (unprotected : isProtected u.elements g first (classifier.requests g.function) = false)
      (sound : verdict.Sound declares (targets u.elements g.handlers)
        (classifier.requests g.function)) :
      ReportsOn classifier declares path u g
        (report path g.function.node (targets u.elements g.handlers) first verdict)

/-- What the symbol of a report tells about the group that it is on. -/
structure Diagnosed (classifier : Classifier) (u : SourceUnit) (g : Group) (v : Violation) : Prop where
  /-- The group stands for a function of the file. -/
  function : IsFunctionOf u g.function
  /-- The function sends a request. -/
  requests : classifier.requests g.function ≠ []
  /-- A flag that is not bound is reported exactly if there is one. -/
  unbound_iff : v.symbol = "loading-flag-not-bound" ↔
    ∃ flag ∈ Loading.definedFlags g.function.node,
      ∀ e ∈ targets u.elements g.handlers, e.bindsFlag flag busyAttributes = false
  /-- If anything else is reported, then no request is protected by a flag. -/
  unprotected : v.symbol = "wrong-loading-flag" ∨ v.symbol = "missing-double-submit-guard" →
    ∀ c ∈ classifier.requests g.function, Loading.protectedFlags c g.function.node = []

/-- A flag is not bound exactly if no element binds it. -/
theorem isBound_eq_false_iff {elements : List Element} {flag : String} :
    isBound elements flag = false ↔ ∀ e ∈ elements, e.bindsFlag flag busyAttributes = false := by
  rw [isBound, List.any_eq_false]
  simp only [Bool.not_eq_true]

/-- If nothing protects a group, then no flag that protects a request is bound. -/
theorem isBound_of_isProtected {elements : List Element} {g : Group} {first : Handler}
    {requests : List Place} (h : isProtected elements g first requests = false) {c : Place}
    (hc : c ∈ requests) {flag : String} (hflag : flag ∈ Loading.protectedFlags c g.function.node) :
    isBound (targets elements g.handlers) flag = false := by
  have hnone : (requests.flatMap fun r => Loading.protectedFlags r g.function.node).any
      (isBound (targets elements g.handlers)) = false := (Bool.or_eq_false_iff.1 h).2
  simpa using List.any_eq_false.1 hnone flag (List.mem_flatMap.2 ⟨c, hc, hflag⟩)

namespace ReportsOn

variable {classifier : Classifier} {declares : String → String → Prop} {path : String}
  {u : SourceUnit} {g : Group} {v : Violation}

/-- What a group reports is diagnosed. -/
theorem diagnosed (h : ReportsOn classifier declares path u g v) : Diagnosed classifier u g v := by
  obtain @⟨first, rest, verdict, function, handlers, requests, unprotected, -⟩ := h
  -- A flag that protects a request is one of the function and bound to no target.
  have hnone : (∀ flag ∈ Loading.definedFlags g.function.node,
      isBound (targets u.elements g.handlers) flag = true) →
      ∀ c ∈ classifier.requests g.function, Loading.protectedFlags c g.function.node = [] := by
    intro hall c hc
    refine List.eq_nil_iff_forall_not_mem.2 fun flag hflag => ?_
    have hbound := hall flag (Loading.flagsSetBefore_subset function.isFunction hc
      (Loading.protectedFlags_subset c _ hflag))
    rw [isBound_of_isProtected unprotected hc hflag] at hbound
    cases hbound
  have hbound : (∀ flag ∈ Loading.definedFlags g.function.node,
      isBound (targets u.elements g.handlers) flag = true) →
      ¬ ∃ flag ∈ Loading.definedFlags g.function.node,
        ∀ e ∈ targets u.elements g.handlers, e.bindsFlag flag busyAttributes = false := by
    rintro hall ⟨flag, hflag, hunbound⟩
    have hshown := hall flag hflag
    rw [isBound_eq_false_iff.2 hunbound] at hshown
    cases hshown
  rcases report_cases path g.function.node (targets u.elements g.handlers) first verdict with
    ⟨flag, hflag, hunbound, hreport⟩ | ⟨hall, ⟨action, flag, expression, -, hreport⟩ | hreport⟩
  · refine ⟨function, requests, ?_, ?_⟩
    · rw [hreport]
      exact ⟨fun _ => ⟨flag, hflag, isBound_eq_false_iff.1 hunbound⟩, fun _ => rfl⟩
    · rw [hreport]
      rintro (h | h)
      · exact absurd h (show "loading-flag-not-bound" ≠ "wrong-loading-flag" by decide)
      · exact absurd h (show "loading-flag-not-bound" ≠ "missing-double-submit-guard" by decide)
  · refine ⟨function, requests, ?_, fun _ => hnone hall⟩
    rw [hreport]
    refine ⟨fun h => ?_, fun h => absurd h (hbound hall)⟩
    exact absurd h (show "wrong-loading-flag" ≠ "loading-flag-not-bound" by decide)
  · refine ⟨function, requests, ?_, fun _ => hnone hall⟩
    rw [hreport]
    refine ⟨fun h => ?_, fun h => absurd h (hbound hall)⟩
    exact absurd h (show "missing-double-submit-guard" ≠ "loading-flag-not-bound" by decide)

/-- A report is made on the first handler of the group. -/
theorem exists_first (h : ReportsOn classifier declares path u g v) :
    ∃ first verdict, g.handlers.head? = some first ∧
      v = report path g.function.node (targets u.elements g.handlers) first verdict := by
  obtain @⟨first, rest, verdict, -, handlers, -, -, -⟩ := h
  exact ⟨first, verdict, by rw [handlers]; rfl, rfl⟩

/-- What is reported as a wrong binding is one. -/
theorem wrongBinding (h : ReportsOn classifier declares path u g v)
    (hsymbol : v.symbol = "wrong-loading-flag") :
    ∃ first action flag expression, g.handlers.head? = some first ∧
      v = wrongFlag path first action flag expression ∧
      WrongBinding declares (targets u.elements g.handlers) (classifier.requests g.function) action
        flag expression := by
  obtain @⟨first, rest, verdict, -, handlers, -, -, sound⟩ := h
  rcases report_cases path g.function.node (targets u.elements g.handlers) first verdict with
    ⟨flag, -, -, hreport⟩ | ⟨-, ⟨action, flag, expression, hwrong, hreport⟩ | hreport⟩
  · rw [hreport] at hsymbol
    exact absurd hsymbol (show "loading-flag-not-bound" ≠ "wrong-loading-flag" by decide)
  · exact ⟨first, action, flag, expression, by rw [handlers]; rfl, hreport,
      sound action flag expression hwrong⟩
  · rw [hreport] at hsymbol
    exact absurd hsymbol (show "missing-double-submit-guard" ≠ "wrong-loading-flag" by decide)

end ReportsOn

/-! ## Runs -/

/-- The reports of a run, each with the group that it is on: each group is one of those that the run goes through and
is reported once at most, and no two groups stand for one stretch of the source. -/
structure Reports (P : Group → Violation → Prop) (groups : List Group) (vs : List Violation)
    (reports : List (Group × Violation)) : Prop where
  perm : (reports.map (·.2)).Perm vs
  among : (reports.map (·.1)).Sublist groups
  apart : (reports.map (·.1)).Pairwise Apart
  each : ∀ r ∈ reports, P r.1 r.2

/-- What a run finds: reports on groups of the file, those that the difference makes the rule look at. -/
inductive ReportsGroups (P : Group → Violation → Prop) (settings : RuleSettings) (u : SourceUnit) (diff : Text)
    (vs : List Violation) : Prop where
  | intro {d : Diff} {root : Place} {handlers : List Handler} {reports : List (Group × Violation)}
      (read : Diff.read diff = .ok d) (tree : u.root? = some root)
      (discovered : Handler.discover u.elements = .ok handlers)
      (made : Reports P (groupsOf settings u root d handlers) vs reports)
      (groups : ∀ r ∈ reports, IsGroupOf settings u root handlers r.1 ∧ (d.isNew = true ∨ Touches d u r.1))

/-- Groups that report one thing report what follows from it. -/
theorem ReportsGroups.imp {P Q : Group → Violation → Prop} {settings : RuleSettings} {u : SourceUnit} {diff : Text}
    {vs : List Violation} (h : ∀ g v, P g v → Q g v) (hvs : ReportsGroups P settings u diff vs) :
    ReportsGroups Q settings u diff vs := by
  obtain ⟨read, tree, discovered, ⟨perm, among, apart, each⟩, groups⟩ := hvs
  exact ⟨read, tree, discovered, ⟨perm, among, apart, fun r hr => h r.1 r.2 (each r hr)⟩, groups⟩

section Monadic

variable {m : Type → Type} [Monad m] [LawfulMonad m] {classifier : Classifier}
  {declares : String → String → Prop} {lookup : Option (Lookup m)} {path : String} {u : SourceUnit}

/-- To check a group of a function reports on that group. -/
theorem checkGroup_reportsOn (hlookup : Answers declares lookup u) {g : Group}
    (hf : IsFunctionOf u g.function) :
    Ensures (fun o => ∀ v ∈ o, ReportsOn classifier declares path u g v)
      (checkGroup classifier lookup path u u.elements g) := by
  unfold checkGroup
  dsimp only
  split
  next first rest request requests hfirst hrequests =>
    split
    · exact Ensures.pure (by simp)
    · next hprotected =>
      refine (judgeRequests_sound hlookup .unknown
        (List.Subset.refl (classifier.requests g.function))).bind fun verdict hverdict => ?_
      have hreport : ReportsOn classifier declares path u g
          (report path g.function.node (targets u.elements g.handlers) first verdict) :=
        .intro hf hfirst (by rw [hrequests]; exact List.cons_ne_nil _ _) (by simpa using hprotected)
          hverdict
      cases verdict with
      | bound => exact Ensures.pure (by simp)
      | unknown => exact Ensures.pure (by simpa using hreport)
      | wrong a f e => exact Ensures.pure (by simpa using hreport)
  next => exact Ensures.pure (by simp)

/-- To check groups reports on some of them, one by one and in their order. -/
theorem checkGroups_reportsOn (hlookup : Answers declares lookup u) {groups : List Group}
    (hf : ∀ g ∈ groups, IsFunctionOf u g.function) :
    Ensures (fun vs => ∃ reports : List (Group × Violation), reports.map (·.2) = vs ∧
        (reports.map (·.1)).Sublist groups ∧
        ∀ r ∈ reports, ReportsOn classifier declares path u r.1 r.2)
      (checkGroups classifier lookup path u u.elements groups) := by
  induction groups with
  | nil => exact Ensures.pure ⟨[], rfl, List.Sublist.refl _, by simp⟩
  | cons g rest ih =>
    unfold checkGroups
    refine (checkGroup_reportsOn hlookup (hf g List.mem_cons_self)).bind fun found hfound => ?_
    have hrest : ∀ g' ∈ rest, IsFunctionOf u g'.function :=
      fun g' hg' => hf g' (List.mem_cons_of_mem g hg')
    refine (ih hrest).bind fun more hmore => Ensures.pure ?_
    obtain ⟨reports, rfl, hgroups, heach⟩ := hmore
    cases found with
    | none => exact ⟨reports, rfl, hgroups.cons g, heach⟩
    | some v =>
      refine ⟨(g, v) :: reports, rfl, hgroups.cons_cons g, fun r hr => ?_⟩
      rcases List.mem_cons.1 hr with rfl | hr
      · exact hfound v rfl
      · exact heach r hr

/-- What a run finds comes in the order of lines, and is a report on one group of the file after the other. -/
theorem evaluate_reportsOn (settings : RuleSettings) (hlookup : Answers declares lookup u)
    (diff : Text) :
    Ensures (fun found => ∀ vs, found = some vs → vs.Pairwise (fun v w => v.line ≤ w.line) ∧
        ReportsGroups (ReportsOn classifier declares path u) settings u diff vs)
      (evaluate settings classifier lookup path u diff) := by
  unfold evaluate
  split
  · exact Ensures.pure (by simp)
  · cases hroot : u.root? with
    | none => exact Ensures.pure (by simp)
    | some root =>
      refine (Ensures.ofExcept fun d hread => hread).bind fun d hread => ?_
      split
      · exact Ensures.pure (by simp)
      · refine (Ensures.ofExcept fun handlers h => h).bind fun handlers hdiscovered => ?_
        have hgroup : ∀ g ∈ groupsOf settings u root d handlers,
            IsGroupOf settings u root handlers g ∧ (d.isNew = true ∨ Touches d u g) :=
          fun g hg => (mem_groupsOf_iff hroot hdiscovered).1 hg
        refine (checkGroups_reportsOn hlookup fun g hg => (hgroup g hg).1.isFunctionOf).bind
          fun found hfound => Ensures.pure ?_
        obtain ⟨reports, rfl, hamong, heach⟩ := hfound
        intro vs hvs
        cases hvs
        refine ⟨?_, .intro hread hroot hdiscovered ⟨(List.mergeSort_perm _ _).symm, hamong,
          (pairwise_groupsOf settings u root d handlers).sublist hamong, heach⟩ fun r hr => ?_⟩
        · exact (List.pairwise_mergeSort comparison_line.trans comparison_line.total _).imp
            of_decide_eq_true
        · exact hgroup r.1 (hamong.subset (List.mem_map_of_mem hr))

/-- A file that the rule is on for and that a difference concerns: what the rule finds are the violations of its
groups, in the order of lines. -/
theorem evaluate_eq_checkGroups {settings : RuleSettings} {diff : Text} {d : Diff} {root : Place}
    {handlers : List Handler} (hon : settings.enabled = true)
    (hchecked : settings.isPathWhitelisted path = false) (hroot : u.root? = some root)
    (hread : Diff.read diff = .ok d) (hconcerned : (d.isNew || d.mentionsAny diffTokens) = true)
    (hdiscovered : Handler.discover u.elements = .ok handlers) :
    evaluate settings classifier lookup path u diff =
      (fun found => some (found.mergeSort fun a b => a.line ≤ b.line)) <$>
        checkGroups classifier lookup path u u.elements (groupsOf settings u root d handlers) := by
  have hgo : ¬(!settings.enabled || settings.isPathWhitelisted path) = true := by
    rw [hon, hchecked]
    decide
  have hlook : ¬(!d.isNew && !d.mentionsAny diffTokens) = true := by
    rw [← Bool.not_or, hconcerned]
    decide
  unfold evaluate
  rw [if_neg hgo, hroot, hread]
  change (pure d >>= fun d => _) = _
  rw [pure_bind, if_neg hlook]
  dsimp only
  rw [hdiscovered]
  change (pure handlers >>= fun handlers => _) = _
  rw [pure_bind, map_eq_pure_bind]

end Monadic

/-- From some state the lookup answers that an action is declared with a flag. -/
def Declares {σ : Type} (lookup : Option (Lookup (StateM σ))) (u : SourceUnit)
    (action flag : String) : Prop :=
  ∃ l ∈ lookup, ∃ state, ((l.flag? action u).run.run state).1 = .ok (some flag)

/-- A lookup answers what it declares. -/
theorem answers_declares {σ : Type} (lookup : Option (Lookup (StateM σ))) (u : SourceUnit) :
    Answers (Declares lookup u) lookup u := by
  intro l hl action
  refine (Ensures.exists_state (l.flag? action u)).imp ?_
  rintro o ⟨state, ho⟩ flag hflag
  exact ⟨l, hl, state, by rw [ho, Option.mem_def.1 hflag]⟩

/-!
## A page with a button

The page is `function save() { postAction(); } <Button onClick={save} loading={busy} />`. The action it
calls is declared with the flag `saving`, so the button shows another flag than it should.
-/

open Node (onFirstRow)

def saveCall : Node :=
  onFirstRow "call_expression" "" "postAction()" 18
    [onFirstRow "identifier" "function" "postAction" 18 [],
      onFirstRow "arguments" "arguments" "()" 28 []]

def saveStatement : Node := onFirstRow "expression_statement" "" "postAction();" 18 [saveCall]

def saveBody : Node :=
  onFirstRow "statement_block" "body" "\x7b postAction(); \x7d" 16 [saveStatement]

def saveFunction : Node :=
  onFirstRow "function_declaration" "" "function save() \x7b postAction(); \x7d" 0
    [onFirstRow "identifier" "name" "save" 9 [],
      onFirstRow "formal_parameters" "parameters" "()" 13 [], saveBody]

def saveTag : Node :=
  onFirstRow "jsx_self_closing_element" "" "<Button onClick=\x7bsave\x7d loading=\x7bbusy\x7d />" 34
    [onFirstRow "identifier" "name" "Button" 35 [],
      onFirstRow "jsx_attribute" "" "onClick=\x7bsave\x7d" 42
        [onFirstRow "property_identifier" "" "onClick" 42 [],
          onFirstRow "jsx_expression" "" "\x7bsave\x7d" 50 [onFirstRow "identifier" "" "save" 51 []]],
      onFirstRow "jsx_attribute" "" "loading=\x7bbusy\x7d" 57
        [onFirstRow "property_identifier" "" "loading" 57 [],
          onFirstRow "jsx_expression" "" "\x7bbusy\x7d" 65 [onFirstRow "identifier" "" "busy" 66 []]]]

def savePage : Node :=
  onFirstRow "program" ""
    "function save() \x7b postAction(); \x7d <Button onClick=\x7bsave\x7d loading=\x7bbusy\x7d />" 0
    [saveFunction, onFirstRow "expression_statement" ""
      "<Button onClick=\x7bsave\x7d loading=\x7bbusy\x7d />" 34 [saveTag]]

def saveUnit : SourceUnit := ⟨"a.tsx", "tsx", some savePage, savePage.text.toList, none, 0, 0⟩

def saveButton : Element where
  name := "Button"
  attributes :=
    [⟨"onClick", some "save", true, "onClick"⟩, ⟨"loading", some "busy", true, "loading"⟩]
  line := 1
  endLine := 1
  start := 34
  stop := 74
  origin := .tree
  hasSpread := false
  innerText := ""

def saveHandler : Handler := ⟨"save", 1, saveButton, "onClick", false⟩

def saveGroup : Group := ⟨⟨saveFunction, [savePage]⟩, [saveHandler]⟩

def savePlace : Place := ⟨saveCall, [saveStatement, saveBody, saveFunction, savePage]⟩

/-- A lookup by which every action declares one flag. -/
def savingLookup : Lookup (StateM Unit) := fun _ action _ => pure (some ⟨action, "saving", "b.js"⟩)

/-- The elements of the page. -/
theorem elements_saveUnit : saveUnit.elements = [saveButton] := by decide +kernel

/-- The handler that the button refers to. -/
theorem reference?_save : Handler.reference? "save" = .ok (some ⟨"save", false⟩) :=
  eq_ok_of_toOption (by decide +kernel)

/-- The handlers of the button. -/
theorem discover_saveButton : Handler.discover [saveButton] = .ok [saveHandler] := by
  have hclick : Handler.ofAttribute? saveButton "onClick" Element.isButton =
      .ok (some saveHandler) := by
    have hattribute : saveButton.attribute? "onClick" =
        some ⟨"onClick", some "save", true, "onClick"⟩ := by decide
    unfold Handler.ofAttribute?
    rw [hattribute]
    dsimp only
    rw [if_neg (by decide), reference?_save]
    rfl
  unfold Handler.discover
  rw [List.mapM_cons, List.mapM_nil]
  unfold Handler.ofElement Handler.callbackAttributes
  rw [List.mapM_cons, hclick]
  rfl

/-- The groups of the page. -/
theorem groupsOf_savePage :
    groupsOf (.plain 1) saveUnit (.root savePage) .whole [saveHandler] = [saveGroup] := by
  with_unfolding_all rfl

/-- The requests of the function of the page. -/
theorem requests_saveGroup : (Classifier.ofWords []).requests saveGroup.function = [savePlace] := by
  with_unfolding_all rfl

/-- The button shows another flag than the one that is declared. -/
theorem judgeFlag_saveButton :
    judgeFlag [saveButton] "postAction" "saving" = .wrong "postAction" "saving" "busy" := by
  have hbound : isBound [saveButton] "saving" = false := by decide +kernel
  have hvalues : saveButton.boundValues busyAttributes = ["busy"] := by decide +kernel
  unfold judgeFlag
  rw [hbound, List.flatMap_singleton, hvalues]
  rfl

/-- The group of the page is reported for the wrong flag. -/
theorem checkGroup_saveGroup :
    checkGroup (.ofWords []) (some savingLookup) "a.tsx" saveUnit [saveButton] saveGroup =
      pure (some (wrongFlag "a.tsx" saveHandler "postAction" "saving" "busy")) := by
  have hprotected : isProtected [saveButton] saveGroup saveHandler [savePlace] = false := by
    with_unfolding_all rfl
  have hrequest : judgeRequest (some savingLookup) saveUnit [saveButton] saveCall =
      pure (.wrong "postAction" "saving" "busy") := by
    have haction : Request.actionName? saveCall = some "postAction" := by decide
    unfold judgeRequest
    rw [haction, ← judgeFlag_saveButton]
    rfl
  have hrequests : judgeRequests (some savingLookup) saveUnit [saveButton] .unknown [savePlace] =
      pure (.wrong "postAction" "saving" "busy") := by
    unfold judgeRequests
    change judgeRequest (some savingLookup) saveUnit [saveButton] saveCall >>= _ = _
    rw [hrequest]
    rfl
  unfold checkGroup
  rw [requests_saveGroup]
  change (if isProtected [saveButton] saveGroup saveHandler [savePlace] = true then pure none
    else judgeRequests (some savingLookup) saveUnit [saveButton] .unknown [savePlace] >>= _) = _
  rw [if_neg (by rw [hprotected]; decide), hrequests, pure_bind]
  with_unfolding_all rfl

/-- The button is reported to show another flag than the action declares. -/
theorem evaluate_savePage :
    ((evaluate (.plain 1) (.ofWords []) (some savingLookup) "a.tsx" saveUnit []).run.run ()).1 =
      .ok (some [wrongFlag "a.tsx" saveHandler "postAction" "saving" "busy"]) := by
  have hroot : saveUnit.root? = some (.root savePage) := rfl
  unfold evaluate
  rw [if_neg (by decide), hroot]
  dsimp only
  rw [elements_saveUnit, discover_saveButton, Diff.read_nil]
  change ((checkGroups (.ofWords []) (some savingLookup) "a.tsx" saveUnit [saveButton]
    (groupsOf (.plain 1) saveUnit (.root savePage) .whole [saveHandler]) >>= _ :
      ExceptT Fault (StateM Unit) Findings).run.run ()).1 = _
  rw [groupsOf_savePage]
  unfold checkGroups
  rw [checkGroup_saveGroup]
  with_unfolding_all rfl

/-- What the rule tells of flags is consistent: those that protect a request are switched on before it, and
those are switched by its function. A run reports, in the order of lines, on groups of the file that the difference
makes it look at, on none twice and on no function twice. Each report is made on its group by the rule, with a symbol
that says which flags of the function are bound on the elements of the group. -/
theorem diagnosis_consistent (classifier : Classifier) :
    (∀ f c : Place, f.node.isFunction = true → c ∈ classifier.requests f →
        Loading.Nested c f.node) ∧
      ∀ {σ : Type} (settings : RuleSettings) (lookup : Option (Lookup (StateM σ))) (path : String)
        (u : SourceUnit) (diff : Text) (state : σ) (vs : List Violation),
        ((evaluate settings classifier lookup path u diff).run.run state).1 = .ok (some vs) →
        vs.Pairwise (fun v w => v.line ≤ w.line) ∧
          ReportsGroups (fun g v => ReportsOn classifier (Declares lookup u) path u g v ∧
            Diagnosed classifier u g v) settings u diff vs := by
  refine ⟨fun f c => Loading.nested, ?_⟩
  intro σ settings lookup path u diff state vs hevaluate
  obtain ⟨hsorted, hreports⟩ :=
    (evaluate_reportsOn settings (answers_declares lookup u) diff).of_state_ok hevaluate vs rfl
  exact ⟨hsorted, hreports.imp fun g v h => ⟨h, h.diagnosed⟩⟩

/-- The page with a button, and the one call of its handler. -/
theorem diagnosis_consistent_savePage :
    Loading.Nested savePlace saveFunction ∧
      ((evaluate (.plain 1) (.ofWords []) (some savingLookup) "a.tsx" saveUnit []).run.run ()).1 =
        .ok (some [wrongFlag "a.tsx" saveHandler "postAction" "saving" "busy"]) ∧
      ReportsGroups (fun g v => ReportsOn (.ofWords []) (Declares (some savingLookup) saveUnit) "a.tsx" saveUnit g v ∧
          Diagnosed (.ofWords []) saveUnit g v)
        (.plain 1) saveUnit [] [wrongFlag "a.tsx" saveHandler "postAction" "saving" "busy"] := by
  have hmem : savePlace ∈ (Classifier.ofWords []).requests saveGroup.function := by
    rw [requests_saveGroup]
    exact List.mem_singleton_self savePlace
  have hboth := diagnosis_consistent (.ofWords [])
  exact ⟨hboth.1 saveGroup.function savePlace (by decide +kernel) hmem, evaluate_savePage,
    (hboth.2 (.plain 1) (some savingLookup) "a.tsx" saveUnit [] () _ evaluate_savePage).2⟩

/-- An element binds an identifier exactly if it is bound to an expression that refers to it, and so the
expression that is reported as a wrong binding does not refer to the flag that its action declares. -/
theorem bindings_agree :
    (∀ (e : Element) (names : List String) (flag : String), flag ≠ "" →
        (∀ c ∈ flag.toList, Text.isIdentifier c = true) →
        (e.bindsFlag flag names = true ↔ ∃ v ∈ e.boundValues names, refersTo v flag = true)) ∧
      ∀ {σ : Type} (settings : RuleSettings) (classifier : Classifier)
        (lookup : Option (Lookup (StateM σ))) (path : String) (u : SourceUnit) (diff : Text)
        (state : σ) (vs : List Violation) (v : Violation),
        ((evaluate settings classifier lookup path u diff).run.run state).1 = .ok (some vs) →
        v ∈ vs → v.symbol = "wrong-loading-flag" →
        ∃ (g : Group) (first : Handler) (action flag expression : String),
          g.handlers.head? = some first ∧ v = wrongFlag path first action flag expression ∧
            WrongBinding (Declares lookup u) (targets u.elements g.handlers)
              (classifier.requests g.function) action flag expression := by
  refine ⟨fun e names flag => Element.bindsFlag_iff, ?_⟩
  intro σ settings classifier lookup path u diff state vs v hevaluate hv hsymbol
  obtain ⟨-, @⟨d, root, handlers, reports, -, -, -, hreports, -⟩⟩ :=
    (evaluate_reportsOn settings (answers_declares lookup u) diff).of_state_ok hevaluate vs rfl
  obtain ⟨r, hr, rfl⟩ := List.mem_map.1 (hreports.perm.mem_iff.2 hv)
  exact ⟨r.1, (hreports.each r hr).wrongBinding hsymbol⟩

/-- The page with a button that shows another flag than the action declares. -/
theorem bindings_agree_savePage :
    ("busy" ≠ "" ∧ (∀ c ∈ "busy".toList, Text.isIdentifier c = true) ∧
      (saveButton.bindsFlag "busy" busyAttributes = true ↔
        ∃ v ∈ saveButton.boundValues busyAttributes, refersTo v "busy" = true)) ∧
      ((evaluate (.plain 1) (.ofWords []) (some savingLookup) "a.tsx" saveUnit []).run.run ()).1 =
        .ok (some [wrongFlag "a.tsx" saveHandler "postAction" "saving" "busy"]) ∧
      ∃ (g : Group) (first : Handler) (action flag expression : String),
        g.handlers.head? = some first ∧
          wrongFlag "a.tsx" saveHandler "postAction" "saving" "busy" =
            wrongFlag "a.tsx" first action flag expression ∧
          WrongBinding (Declares (some savingLookup) saveUnit) (targets saveUnit.elements g.handlers)
            ((Classifier.ofWords []).requests g.function) action flag expression := by
  have hflag : ∀ c ∈ "busy".toList, Text.isIdentifier c = true :=
    List.all_eq_true.1 (by decide +kernel)
  exact ⟨⟨by decide, hflag, bindings_agree.1 saveButton busyAttributes "busy" (by decide) hflag⟩,
    evaluate_savePage, bindings_agree.2 (.plain 1) (.ofWords []) (some savingLookup) "a.tsx" saveUnit
      [] () _ _ evaluate_savePage (List.mem_singleton_self _) rfl⟩

end UxLint.DoubleSubmit
