import UxLint.Proofs.Rule.Diagnosis

/-!
# What excuses a function

The first rule asks of each protection whether anything in a group has it. A function is therefore reported
exactly if it sends a request and nothing excuses it: no guard, no limiter, and not one callback or element of
the whole group (`NewFile.reports_iff`).
-/

set_option autoImplicit false

namespace UxLint.DoubleSubmit

/-! ## Excuses -/

/-- What the rule reads of a function that handlers mean. -/
structure Reading where
  /-- Whether it sends a request. -/
  sends : Bool
  /-- The actions that its requests call. -/
  actions : List String
  /-- Whether a guard comes before its first request. -/
  guarded : Bool
  /-- Whether it is wrapped by a rate limiter. -/
  limited : Bool
  /-- The flags that protect one of its requests. -/
  flags : List String
  deriving DecidableEq

/-- What the rule reads of a function. -/
def readingOf (classifier : Classifier) (f : Place) : Reading where
  sends := !(classifier.requests f).isEmpty
  actions := (classifier.requests f).filterMap fun c => Request.actionName? c.node
  guarded := (classifier.requests f).head?.any (hasLeadingGuard f.node)
  limited := isRateLimited f
  flags := (classifier.requests f).flatMap fun c => Loading.protectedFlags c f.node

/-- An element protects a function: it can be disabled, or shows a flag that is on during a request. -/
inductive Protects (reading : Reading) (declared : String → Option String) (name : String)
    (e : Element) : Prop where
  | disabling (disabled : isDisabling name e = true)
  | flag {flag : String} (mem : flag ∈ reading.flags) (binds : e.bindsFlag flag busyAttributes = true)
  | declared {action flag : String} (called : action ∈ reading.actions)
      (declares : declared action = some flag) (binds : e.bindsFlag flag busyAttributes = true)

/-- A function is excused: it protects itself, or any of its callbacks limits its rate, or any of the
elements on which they stand protects it. -/
inductive Excused (reading : Reading) (declared : String → Option String) (elements : List Element)
    (handlers : List Handler) (name : String) : Prop where
  | guarded (h : reading.guarded = true)
  | limited (h : reading.limited = true)
  | callback {h : Handler} (mem : h ∈ handlers) (limits : h.rateLimited = true)
  | element {e : Element} (mem : e ∈ targets elements handlers)
      (protects : Protects reading declared name e)

section Checking

variable {lookup : Option (Lookup Id)} {u : SourceUnit} {classifier : Classifier}
  {elements : List Element} {g : Group}

/-- The flag that a lookup finds declared for an action. -/
def declaredFlag? (lookup : Option (Lookup Id)) (u : SourceUnit) (action : String) : Option String :=
  lookup.bind fun l => (l.flag? action u).run.toOption.join

/-- A flag is bound exactly if an element binds it. -/
theorem isBound_iff {flag : String} :
    isBound elements flag = true ↔ ∃ e ∈ elements, e.bindsFlag flag busyAttributes = true :=
  List.any_eq_true

/-- A flag is judged to be bound exactly if it is. -/
theorem judgeFlag_eq_bound_iff {action flag : String} :
    judgeFlag elements action flag = .bound ↔ isBound elements flag = true := by
  unfold judgeFlag
  split
  · next h => exact ⟨fun _ => h, fun _ => rfl⟩
  · next h =>
    refine ⟨fun hbound => ?_, fun hbound => absurd hbound h⟩
    split at hbound <;> cases hbound

/-- What a request says, if the lookup answers. -/
theorem judgeRequest_run (h : ∀ l ∈ lookup, l.Answers u) (elements : List Element) (request : Node) :
    ∃ verdict, (judgeRequest lookup u elements request).run = .ok verdict ∧
      (verdict = .bound ↔ ∃ action flag, Request.actionName? request = some action ∧
        declaredFlag? lookup u action = some flag ∧ isBound elements flag = true) := by
  unfold judgeRequest
  cases lookup with
  | none => exact ⟨.unknown, rfl, by simp [declaredFlag?]⟩
  | some l =>
    cases haction : Request.actionName? request with
    | none => exact ⟨.unknown, rfl, by simp⟩
    | some action =>
      obtain ⟨flag, hflag⟩ := flag?_succeeds (h l rfl) action
      have hdeclared : declaredFlag? (some l) u action = flag := by
        rw [declaredFlag?, Option.bind_some, hflag]
        rfl
      rw [ExceptT.run_bind, hflag]
      cases flag with
      | none => exact ⟨.unknown, rfl, by simp [hdeclared]⟩
      | some flag => exact ⟨judgeFlag elements action flag, rfl, by simp [judgeFlag_eq_bound_iff, hdeclared]⟩

/-- What requests say, if the lookup answers: a flag is bound if one declared for one of them is. -/
theorem judgeRequests_run (h : ∀ l ∈ lookup, l.Answers u) (elements : List Element)
    (requests : List Place) {found : ActionVerdict} (hfound : found ≠ .bound) :
    ∃ verdict, (judgeRequests lookup u elements found requests).run = .ok verdict ∧
      (verdict = .bound ↔ ∃ c ∈ requests, ∃ action flag,
        Request.actionName? c.node = some action ∧ declaredFlag? lookup u action = some flag ∧
          isBound elements flag = true) := by
  induction requests generalizing found with
  | nil => exact ⟨found, rfl, by simp [hfound]⟩
  | cons request rest ih =>
    obtain ⟨here, hrun, hhere⟩ := judgeRequest_run h elements request.node
    unfold judgeRequests
    rw [ExceptT.run_bind, hrun]
    simp only [List.mem_cons, exists_eq_or_imp, ← hhere]
    cases here with
    | bound => exact ⟨.bound, rfl, by simp⟩
    | unknown =>
      obtain ⟨verdict, hverdict, hiff⟩ := ih hfound
      exact ⟨verdict, hverdict, by simpa using hiff⟩
    | wrong a f e =>
      cases found with
      | bound => exact absurd rfl hfound
      | unknown =>
        have hwrong : ActionVerdict.wrong a f e ≠ .bound := nofun
        obtain ⟨verdict, hverdict, hiff⟩ := ih hwrong
        exact ⟨verdict, hverdict, by simpa using hiff⟩
      | wrong a' f' e' =>
        obtain ⟨verdict, hverdict, hiff⟩ := ih hfound
        exact ⟨verdict, hverdict, by simpa using hiff⟩

/-- A function is excused if its group counts as protected, or a flag that is declared for one of its
actions is bound. -/
theorem excused_iff {first : Handler} :
    Excused (readingOf classifier g.function) (declaredFlag? lookup u) elements g.handlers first.name ↔
      isProtected elements g first (classifier.requests g.function) = true ∨
        ∃ c ∈ classifier.requests g.function, ∃ action flag,
          Request.actionName? c.node = some action ∧ declaredFlag? lookup u action = some flag ∧
            isBound (targets elements g.handlers) flag = true := by
  simp only [isProtected, Bool.or_eq_true, List.any_eq_true, isBound_iff, or_assoc]
  constructor
  · intro h
    cases h with
    | guarded h => exact .inr (.inl h)
    | limited h => exact .inr (.inr (.inl h))
    | callback mem limits => exact .inl ⟨_, mem, limits⟩
    | @element e mem protects =>
      cases protects with
      | disabling disabled => exact .inr (.inr (.inr (.inl ⟨e, mem, disabled⟩)))
      | @flag flag hflag binds => exact .inr (.inr (.inr (.inr (.inl ⟨flag, hflag, e, mem, binds⟩))))
      | @declared action flag called declares binds =>
        obtain ⟨c, hc, haction⟩ := List.mem_filterMap.1 called
        exact .inr (.inr (.inr (.inr (.inr
          ⟨c, hc, action, flag, haction, declares, e, mem, binds⟩))))
  · rintro (⟨h, mem, limits⟩ | h | h | ⟨e, mem, disabled⟩ | ⟨flag, hflag, e, mem, binds⟩ |
      ⟨c, hc, action, flag, haction, declares, e, mem, binds⟩)
    · exact .callback mem limits
    · exact .guarded h
    · exact .limited h
    · exact .element mem (.disabling disabled)
    · exact .element mem (.flag hflag binds)
    · exact .element mem (.declared (List.mem_filterMap.2 ⟨c, hc, haction⟩) declares binds)

/-- A function sends nothing exactly if it has no requests. -/
theorem sends_eq_false_iff {f : Place} :
    (readingOf classifier f).sends = false ↔ classifier.requests f = [] := by
  rw [readingOf, Bool.not_eq_false', List.isEmpty_iff]

/-- A group is passed over exactly if its function sends no request or is excused. -/
theorem checkGroup_eq_none_iff (h : ∀ l ∈ lookup, l.Answers u) {path : String} {first : Handler}
    {rest : List Handler} (hhandlers : g.handlers = first :: rest) :
    (checkGroup classifier lookup path u elements g).run = .ok none ↔
      (readingOf classifier g.function).sends = false ∨ Excused (readingOf classifier g.function)
        (declaredFlag? lookup u) elements g.handlers first.name := by
  rw [sends_eq_false_iff, excused_iff]
  have hunknown : ActionVerdict.unknown ≠ .bound := nofun
  obtain ⟨verdict, hrun, hverdict⟩ := judgeRequests_run h (targets elements g.handlers)
    (classifier.requests g.function) hunknown
  rw [← hverdict]
  unfold checkGroup
  rw [hhandlers] at hrun ⊢
  cases hrequests : classifier.requests g.function with
  | nil => exact ⟨fun _ => .inl rfl, fun _ => rfl⟩
  | cons request more =>
    rw [hrequests] at hrun
    dsimp only
    by_cases hprotected : isProtected elements g first (request :: more) = true
    · rw [if_pos hprotected]
      exact ⟨fun _ => .inr (.inl hprotected), fun _ => rfl⟩
    · rw [if_neg hprotected, ExceptT.run_bind, hrun]
      cases verdict with
      | bound => exact ⟨fun _ => .inr (.inr rfl), fun _ => rfl⟩
      | _ =>
        refine ⟨nofun, ?_⟩
        rintro (hnil | hisProtected | hbound)
        · cases hnil
        · exact absurd hisProtected hprotected
        · cases hbound

end Checking

/-! ## Files that are checked as a whole -/

/-- A file that the rule checks as a whole, with the tree and the handlers that it goes through. -/
structure NewFile where
  settings : RuleSettings
  path : String
  unit : SourceUnit
  diff : Text
  root : Place
  handlers : List Handler
  enabled : settings.enabled = true
  checked : settings.isPathWhitelisted path = false
  rooted : unit.root? = some root
  isNew : ∃ d, Diff.read diff = .ok d ∧ d.isNew = true
  discovered : Handler.discover unit.elements = .ok handlers

namespace NewFile

variable (classifier : Classifier) (lookup : Option (Lookup Id)) (n : NewFile) (f : Place)

/-- The groups of the file: one for each function that a handler means which is not exempt. -/
def groups : List Group :=
  groupHandlers n.root.functionIndex (n.handlers.filter fun h => !h.isWhitelisted n.settings)

/-- The handlers that mean a function and are not exempt. -/
def handlersOf : List Handler :=
  (n.handlers.filter fun h => !h.isWhitelisted n.settings).filter (means n.root.functionIndex f)

/-- The elements on which a function may be protected. -/
def targetsOf : List Element := targets n.unit.elements (n.handlersOf f)

/-- The rule reports a function: what it finds in the file holds a violation of its group. -/
def Reports : Prop :=
  ∃ g ∈ n.groups, g.function = f ∧
    ∃ v, (checkGroup classifier lookup n.path n.unit n.unit.elements g).run = .ok (some v) ∧
      ∃ vs, (evaluate n.settings classifier lookup n.path n.unit n.diff).run = .ok (some vs) ∧ v ∈ vs

/-- What the rule finds in the file: the violations of its groups in the order of lines. -/
theorem evaluate_run : (evaluate n.settings classifier lookup n.path n.unit n.diff).run =
    (checkGroups classifier lookup n.path n.unit n.unit.elements n.groups).run.map
      fun found => some (found.mergeSort fun a b => a.line ≤ b.line) := by
  obtain ⟨d, hread, hnew⟩ := n.isNew
  have hgroups : groupsOf n.settings n.unit n.root d n.handlers = n.groups := by
    rw [groupsOf, groups, hnew]
    exact List.filter_true _
  rw [evaluate_eq_checkGroups n.enabled n.checked n.rooted hread (by rw [hnew]; rfl) n.discovered, hgroups,
    ExceptT.run_map]
  rfl

variable {classifier lookup n f}

/-- A function is reported exactly if it is meant by the first of its handlers, sends a request, and is
not excused. -/
theorem reports_iff (hanswers : ∀ l ∈ lookup, l.Answers n.unit) : n.Reports classifier lookup f ↔
    ∃ first rest, n.handlersOf f = first :: rest ∧
      matchFunction? n.root.functionIndex first.name = some f ∧
      (readingOf classifier f).sends = true ∧
      ¬ Excused (readingOf classifier f) (declaredFlag? lookup n.unit) n.unit.elements
        (n.handlersOf f) first.name := by
  have hgrouped := grouped_groupHandlers n.root.functionIndex
    (n.handlers.filter fun h => !h.isWhitelisted n.settings)
  obtain ⟨judge, hjudge, hfound⟩ := exists_checkGroups classifier n.path n.unit.elements hanswers
  constructor
  · rintro ⟨g, hg, rfl, v, hv, -⟩
    obtain ⟨first, rest, hfirst, hmeant⟩ := hgrouped.meant g hg
    have hhandlers : n.handlersOf g.function = g.handlers := (hgrouped.handlers g hg).symm
    have hsome : (checkGroup classifier lookup n.path n.unit n.unit.elements g).run ≠ .ok none := by
      rw [hv]
      exact nofun
    rw [Ne, checkGroup_eq_none_iff hanswers hfirst, not_or, Bool.not_eq_false] at hsome
    exact ⟨first, rest, hhandlers.trans hfirst, hmeant, hsome.1, hhandlers ▸ hsome.2⟩
  · rintro ⟨first, rest, hhandlers, hmeant, hsends, hexcused⟩
    have hfirst : first ∈ n.handlersOf f := hhandlers ▸ List.mem_cons_self
    obtain ⟨g, hg, hcovers⟩ := hgrouped.present first (List.mem_filter.1 hfirst).1 f hmeant
    have hsame : g.handlers = first :: rest := by
      rw [hgrouped.handlers g hg, means_congr hcovers]
      exact hhandlers
    have hfunction : g.function = f := by
      obtain ⟨first', rest', hfirst', hmeant'⟩ := hgrouped.meant g hg
      obtain rfl : first' = first := (List.cons.inj (hfirst'.symm.trans hsame)).1
      exact Option.some.inj (hmeant'.symm.trans hmeant)
    subst hfunction
    have hsome : (checkGroup classifier lookup n.path n.unit n.unit.elements g).run ≠ .ok none := by
      rw [Ne, checkGroup_eq_none_iff hanswers hsame, hsends, hsame, ← hhandlers]
      simpa using hexcused
    obtain ⟨v, hv⟩ : ∃ v, judge g = some v :=
      Option.ne_none_iff_exists'.1 fun hnone => hsome (by rw [hjudge, hnone])
    have hv' : v ∈ n.groups.flatMap fun g => (judge g).toList :=
      List.mem_flatMap.2 ⟨g, hg, by rw [hv]; exact List.mem_singleton_self v⟩
    have hrun := n.evaluate_run classifier lookup
    rw [hfound] at hrun
    exact ⟨g, hg, rfl, v, by rw [hjudge, hv], _, hrun, List.mem_mergeSort.2 hv'⟩

end NewFile

end UxLint.DoubleSubmit
