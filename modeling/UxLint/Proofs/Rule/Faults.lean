import UxLint.Proofs.Diff.Reading
import UxLint.Proofs.Rule.Calm
import UxLint.Proofs.Rule.Limiters

/-!
# When a rule breaks down

As long as every number in a difference and in a callback is short enough to be read, and the lookup raises
nothing, four of the five rules never break down. The first rule does, and there is exactly one reason: a
callback whose first telling call is that of `bind` alone, for which the owner of the bound method is asked
(`calledHandler?_failsIff`). One such callback in the file is enough, whatever else the file holds, once the
rule looks at its handlers (`faults_iff`).
-/

set_option autoImplicit false

namespace UxLint

/-! ## Computations with one fault -/

/-- A computation fails for want of an owner if `P` holds, and comes to a result otherwise. -/
structure FailsIff {α : Type} (P : Prop) (x : Except Fault α) : Prop where
  fails : P → x = .error .missingOwner
  succeeds : ¬P → ∃ a, x = .ok a

namespace FailsIff

variable {α β : Type} {P Q : Prop}

/-- What yields a value fails under no condition. -/
theorem never (h : ¬P) (a : α) : FailsIff P (.ok a) where
  fails hP := absurd hP h
  succeeds _ := ⟨a, rfl⟩

/-- Conditions that are equivalent are told by the same failure. -/
theorem congr {x : Except Fault α} (h : FailsIff P x) (hiff : Q ↔ P) : FailsIff Q x where
  fails hQ := h.fails (hiff.1 hQ)
  succeeds hQ := h.succeeds fun hP => hQ (hiff.2 hP)

/-- What goes on without failing fails under the same condition. -/
theorem bind {x : Except Fault α} {f : α → Except Fault β} (h : FailsIff P x)
    (hf : ∀ a, ∃ b, f a = .ok b) : FailsIff P (x >>= f) where
  fails hP := by rw [h.fails hP]; rfl
  succeeds hP := by
    obtain ⟨a, ha⟩ := h.succeeds hP
    rw [ha]
    exact hf a

/-- A row of computations fails if one of them does. -/
theorem mapM {f : α → Except Fault β} {P : α → Prop} {l : List α} (h : ∀ x ∈ l, FailsIff (P x) (f x)) :
    FailsIff (∃ x ∈ l, P x) (l.mapM f) := by
  induction l with
  | nil => exact .never (by simp) []
  | cons a l ih =>
    have ha := h a List.mem_cons_self
    have hl := ih fun x hx => h x (List.mem_cons_of_mem a hx)
    rw [List.mapM_cons]
    by_cases hP : P a
    · refine ⟨fun _ => by rw [ha.fails hP]; rfl, fun hnone => ?_⟩
      exact absurd ⟨a, List.mem_cons_self, hP⟩ hnone
    · obtain ⟨b, hb⟩ := ha.succeeds hP
      rw [hb]
      apply (hl.bind fun bs => ⟨b :: bs, rfl⟩).congr
      simp [hP]

end FailsIff

namespace Handler

open Pattern Text

/-! ## The called handler -/

/-- The calls that are passed on the way to a handler. -/
def passedCallees : List String :=
  ["preventDefault", "stopPropagation", "function", "debounce", "throttle"]

/-- The first call of a name that is not passed. -/
def tellingCall? (names : List Text) : Option Text :=
  names.find? fun name => !passedCallees.contains (lastName name)

/-- A bound name has no owner exactly if it has no dot. -/
theorem boundOwner?_eq_none_iff {name : Text} : boundOwner? name = none ↔ '.' ∉ name := by
  constructor
  · intro hnone hdot
    obtain ⟨p, hname, hlast⟩ := exists_lastPiece hdot
    obtain ⟨q, qs, hpieces⟩ := exists_pieces_append '.' p (lastPiece '.' name)
    rw [← hname, pieces_of_not_mem hlast] at hpieces
    unfold boundOwner? at hnone
    rw [hpieces, List.reverse_append, List.reverse_singleton, List.singleton_append] at hnone
    cases hrev : (q :: qs).reverse with
    | nil => simp at hrev
    | cons owner more =>
      rw [hrev] at hnone
      cases hnone
  · intro hdot
    rw [boundOwner?, pieces_of_not_mem hdot]
    rfl

/-- But for `bind`, the names that are passed are those that are ignored and those of limiters. -/
theorem passed_iff {name : String} (hbind : name ≠ "bind") :
    (ignoredCallees.contains name || rateLimiters.contains name) = passedCallees.contains name := by
  unfold ignoredCallees rateLimiters passedCallees
  simp [hbind, Bool.or_assoc]

/-- A name without a dot is its last part. -/
theorem lastName_of_not_mem {name : Text} (hdot : '.' ∉ name) : lastName name = String.ofList name := by
  rw [lastName, lastPiece_of_not_mem hdot]

/-- The handler is missed if the first telling call is that of `bind` alone. -/
theorem calledHandler?_failsIff (names : List Text) :
    FailsIff (tellingCall? names = some "bind".toList) (calledHandler? names) := by
  have hbind : lastName "bind".toList = "bind" := by decide
  induction names with
  | nil => exact .never nofun none
  | cons name rest ih =>
    rw [calledHandler?, tellingCall?, List.find?_cons]
    by_cases hname : lastName name = "bind"
    · have htelling : (!passedCallees.contains (lastName name)) = true := by
        rw [hname]
        decide
      rw [htelling, hname, if_pos (beq_self_eq_true _)]
      dsimp only
      by_cases hdot : '.' ∈ name
      · obtain ⟨owner, howner⟩ := Option.ne_none_iff_exists'.1 (mt boundOwner?_eq_none_iff.1 (not_not.2 hdot))
        rw [howner]
        apply FailsIff.never
        intro heq
        rw [Option.some.inj heq] at hdot
        exact absurd hdot (by decide)
      · rw [boundOwner?_eq_none_iff.2 hdot]
        refine ⟨fun _ => rfl, fun hother => ?_⟩
        rw [lastName_of_not_mem hdot] at hname
        exact absurd (by rw [← hname, String.toList_ofList]) hother
    · rw [if_neg (by simpa using hname), passed_iff hname]
      cases hpassed : passedCallees.contains (lastName name) with
      | true => exact ih
      | false =>
        apply FailsIff.never
        rintro heq
        rw [Option.some.inj heq] at hname
        exact hname hbind

/-! ## Callbacks -/

/-- A callback expression that the first rule cannot read. -/
structure Unowned (expression : Text) : Prop where
  /-- It is no dotted name. -/
  not_plain : plainReference.match? (trim expression) = none
  /-- Its first telling call is that of `bind` alone. -/
  telling : tellingCall? ((callPattern.all (trim expression)).map fun m => m.group 1) = some "bind".toList

/-- The delay of a callback expression, if it has one, has no more digits than a numeral may have. -/
def DelayFits (expression : Text) : Prop :=
  ∀ m, delayPattern.search? (trim expression) = some m → (m.group 1).length ≤ longestNumeral

/-- What a search for a delay remembers is a number. -/
theorem decimalNumber?_of_search? {t : Text} {m : Match} (h : delayPattern.search? t = some m) :
    (decimalNumber? (m.group 1)).isSome = true := by
  obtain ⟨v, w, r, ht, hfits⟩ := searchFrom?_isSome_iff.1 (Option.isSome_iff_exists.2 ⟨m, h⟩)
  obtain ⟨b, d, b', b'', hpiece, -, htrim, hd, hb''⟩ := exists_of_fits_delayPattern hfits
  have htext : t = v ++ ',' :: (b ++ d ++ b' ++ ')' :: b'') := by
    rw [← hpiece, ← List.append_assoc]
    exact ht
  obtain ⟨m', hm', hgroup⟩ := search?_delayPattern (t := v) (x := b ++ d ++ b') (by rw [htrim]; exact hd) hb''
  rw [← htext, h] at hm'
  rw [Option.some.inj hm', hgroup, htrim]
  exact hd

/-- A delay that fits can be judged. -/
theorem delaySuffices_ok {expression : Text} (h : DelayFits expression) :
    ∃ limited, delaySuffices (trim expression) = .ok limited := by
  unfold delaySuffices
  cases hsearch : delayPattern.search? (trim expression) with
  | none => exact ⟨true, rfl⟩
  | some m =>
    obtain ⟨n, hn⟩ := Option.isSome_iff_exists.1 (decimalNumber?_of_search? hsearch)
    dsimp only
    rw [wholeNumber_of_decimalNumber? hn (h m hsearch)]
    exact ⟨_, rfl⟩

/-- To look for the handler of an expression fails exactly if a bound method has no owner. -/
theorem reference?_failsIff {expression : String} (h : DelayFits expression.toList) :
    FailsIff (Unowned expression.toList) (reference? expression) := by
  obtain ⟨limited, hlimited⟩ : ∃ limited, isLimiting (trim expression.toList)
      (limiterPattern.search? (trim expression.toList)) = .ok limited := by
    unfold isLimiting
    split
    · exact ⟨false, rfl⟩
    · exact delaySuffices_ok h
  unfold reference?
  dsimp only
  rw [hlimited]
  cases hplain : plainReference.match? (trim expression.toList) with
  | some m =>
    apply FailsIff.never
    intro hunowned
    rw [hunowned.not_plain] at hplain
    cases hplain
  | none =>
    apply FailsIff.congr (P := tellingCall? _ = some "bind".toList) ((calledHandler?_failsIff _).bind ?_)
    · exact ⟨fun hunowned => hunowned.telling, fun htelling => ⟨hplain, htelling⟩⟩
    · intro called
      cases called <;> exact ⟨_, rfl⟩

/-- The expression of a callback: the value of the first attribute of exactly its name. -/
def callbackOf? (e : Element) (name : String) : Option String :=
  (e.attributes.find? fun a => a.name == name).bind (·.value)

/-- An attribute that is found by another case of its name is no callback. -/
theorem ofAttribute?_eq (e : Element) (name : String) (accepts : String → Bool) :
    ofAttribute? e name accepts =
      match callbackOf? e name with
      | none => .ok none
      | some v =>
        if v == "" || !accepts e.name then .ok none
        else do
          let reference ← reference? v
          return reference.map fun r => ⟨r.name, e.line, e, name, r.rateLimited⟩ := by
  unfold ofAttribute? Element.attribute? callbackOf?
  cases hexact : e.attributes.find? fun a => a.name == name with
  | some a =>
    have hname : (a.name != name) = false := by simpa using List.find?_some hexact
    dsimp only [Option.bind_some]
    cases a.value with
    | none => rfl
    | some v =>
      dsimp only
      rw [hname, Bool.or_false]
  | none =>
    dsimp only [Option.bind_none]
    cases hlike : e.attributes.find? fun a => lowercase a.name == lowercase name with
    | none => rfl
    | some a =>
      have hname : (a.name != name) = true := by
        simpa using List.find?_eq_none.1 hexact a (List.mem_of_find?_eq_some hlike)
      dsimp only
      cases a.value with
      | none => rfl
      | some v =>
        dsimp only
        rw [hname, Bool.or_true, Bool.true_or, if_pos rfl]

/-- A callback of an accepted element is one that the first rule cannot read. -/
def UnownedAt (e : Element) (c : String × (String → Bool)) : Prop :=
  c.2 e.name = true ∧ ∃ v, callbackOf? e c.1 = some v ∧ v ≠ "" ∧ Unowned v.toList

/-- To look for the handler of an attribute fails exactly if a bound method in it has no owner. -/
theorem ofAttribute?_failsIff {e : Element} {c : String × (String → Bool)}
    (h : ∀ a ∈ e.attributes, ∀ v ∈ a.value, DelayFits v.toList) :
    FailsIff (UnownedAt e c) (ofAttribute? e c.1 c.2) := by
  rw [ofAttribute?_eq]
  unfold UnownedAt
  cases hcallback : callbackOf? e c.1 with
  | none =>
    apply FailsIff.never
    rintro ⟨-, v, hv, -⟩
    cases hv
  | some v =>
    dsimp only
    split
    · next hpassed =>
      apply FailsIff.never
      rintro ⟨haccepts, v', hv, hne, -⟩
      cases hv
      simp [haccepts, hne] at hpassed
    · next hread =>
      obtain ⟨a, ha, hvalue⟩ := Option.bind_eq_some_iff.1 hcallback
      have hfits := h a (List.mem_of_find?_eq_some ha) v hvalue
      apply FailsIff.congr ((reference?_failsIff hfits).bind fun r => ⟨_, rfl⟩)
      simp only [Bool.or_eq_true, beq_iff_eq, Bool.not_eq_true', not_or, Bool.not_eq_false] at hread
      constructor
      · rintro ⟨-, v', hv, -, hunowned⟩
        cases hv
        exact hunowned
      · exact fun hunowned => ⟨hread.2, v, rfl, hread.1, hunowned⟩

/-- An element has a callback that the first rule cannot read. -/
def UnownedOn (e : Element) : Prop := ∃ c ∈ callbackAttributes, UnownedAt e c

/-- To gather handlers fails exactly if some element has a bound method without an owner. -/
theorem discover_failsIff {elements : List Element}
    (h : ∀ e ∈ elements, ∀ a ∈ e.attributes, ∀ v ∈ a.value, DelayFits v.toList) :
    FailsIff (∃ e ∈ elements, UnownedOn e) (discover elements) := by
  have helement (e : Element) (he : e ∈ elements) : FailsIff (UnownedOn e) (ofElement e) := by
    refine FailsIff.bind (.mapM fun c _ => ofAttribute?_failsIff (h e he)) fun found => ⟨_, rfl⟩
  exact FailsIff.bind (.mapM helement) fun rows => ⟨_, rfl⟩

end Handler

/-! ## The rules -/

variable {m : Type → Type} [Monad m] [LawfulMonad m] {lookup : Option (Lookup m)} {u : SourceUnit}
  {diff : Text} {settings : RuleSettings} {path : String}

/-- Every delay in a callback of a unit is short enough to be read. -/
def SourceUnit.DelaysFit (u : SourceUnit) : Prop :=
  ∀ e ∈ u.elements, ∀ a ∈ e.attributes, ∀ v ∈ a.value, Handler.DelayFits v.toList

/-- What yields a value is calm. -/
theorem Calm.ofExcept {α : Type} {x : Except Fault α} (h : ∃ a, x = .ok a) :
    Calm (MonadExcept.ofExcept x : ExceptT Fault m α) := by
  obtain ⟨a, rfl⟩ := h
  exact .pure a

namespace DoubleSubmit

/-- The first rule looks at the handlers of a file, and one of its callbacks cannot be read. -/
structure BreaksDown (settings : RuleSettings) (path : String) (u : SourceUnit) (diff : Text) : Prop where
  enabled : settings.enabled = true
  checked : settings.isPathWhitelisted path = false
  tree : u.tree.isSome = true
  concerned : ∃ d, Diff.read diff = .ok d ∧ (d.isNew = true ∨ d.mentionsAny diffTokens = true)
  unowned : ∃ e ∈ u.elements, Handler.UnownedOn e

/-- What the rule does with a file that concerns it. -/
theorem evaluate_eq {classifier : Classifier} {tree : Node} {d : Diff} (henabled : settings.enabled = true)
    (hchecked : settings.isPathWhitelisted path = false) (htree : u.tree = some tree)
    (hd : Diff.read diff = .ok d) (hconcerned : d.isNew = true ∨ d.mentionsAny diffTokens = true) :
    evaluate settings classifier lookup path u diff = (do
      let handlers ← MonadExcept.ofExcept (Handler.discover u.elements)
      let found ← checkGroups classifier lookup path u u.elements
        (groupsOf settings u (.root tree) d handlers)
      return some (found.mergeSort fun a b => a.line ≤ b.line)) := by
  have hgo : (!d.isNew && !d.mentionsAny diffTokens) = false := by
    rcases hconcerned with h | h
    all_goals simp [h]
  unfold evaluate
  rw [henabled, hchecked, if_neg (by decide), SourceUnit.root?, htree, hd]
  change (pure d >>= fun d => if (!d.isNew && !d.mentionsAny diffTokens) = true then pure none else _) = _
  rw [pure_bind, hgo, if_neg (by decide)]

/-- A callback that cannot be read breaks the rule down before anything is asked. -/
theorem evaluate_throws (classifier : Classifier) (hdelays : u.DelaysFit)
    (h : BreaksDown settings path u diff) :
    evaluate settings classifier lookup path u diff = throw .missingOwner := by
  obtain ⟨tree, htree⟩ := Option.isSome_iff_exists.1 h.tree
  obtain ⟨d, hd, hconcerned⟩ := h.concerned
  rw [evaluate_eq h.enabled h.checked htree hd hconcerned,
    (Handler.discover_failsIff hdelays).fails h.unowned]
  apply ExceptT.ext
  change (throw Fault.missingOwner >>= _ : ExceptT Fault m Findings).run = _
  rw [ExceptT.run_bind, ExceptT.run_throw, pure_bind]
  rfl

/-- The first rule is calm if it does not break down. -/
theorem evaluate_calm (classifier : Classifier) (hlookup : ∀ l ∈ lookup, l.IsCalm u)
    (hdiff : Diff.Readable diff) (hdelays : u.DelaysFit) (h : ¬BreaksDown settings path u diff) :
    Calm (evaluate settings classifier lookup path u diff) := by
  obtain ⟨d, hd⟩ := hdiff
  by_cases hfile : settings.enabled = true ∧ settings.isPathWhitelisted path = false
  · obtain ⟨henabled, hchecked⟩ := hfile
    cases htree : u.tree with
    | none =>
      unfold evaluate
      rw [henabled, hchecked, if_neg (by decide), SourceUnit.root?, htree]
      exact .pure _
    | some tree =>
      by_cases hconcerned : d.isNew = true ∨ d.mentionsAny diffTokens = true
      · have hunowned : ¬∃ e ∈ u.elements, Handler.UnownedOn e := fun hunowned =>
          h ⟨henabled, hchecked, by rw [htree]; rfl, ⟨d, hd, hconcerned⟩, hunowned⟩
        rw [evaluate_eq henabled hchecked htree hd hconcerned]
        refine (Calm.ofExcept ((Handler.discover_failsIff hdelays).succeeds hunowned)).bind fun handlers => ?_
        exact (checkGroups_calm classifier path u.elements hlookup _).bind fun found => .pure _
      · have hskip : (!d.isNew && !d.mentionsAny diffTokens) = true := by simpa using hconcerned
        unfold evaluate
        rw [henabled, hchecked, if_neg (by decide), SourceUnit.root?, htree, hd]
        change Calm (pure d >>= fun d => if (!d.isNew && !d.mentionsAny diffTokens) = true then pure none else _)
        rw [pure_bind, hskip, if_pos rfl]
        exact .pure _
  · unfold evaluate
    rw [if_pos (by simpa [-not_and, not_and_or] using hfile)]
    exact .pure _

end DoubleSubmit

/-- The second rule is calm. -/
theorem InitialLoading.evaluate_calm (classifier : Classifier) (hlookup : ∀ l ∈ lookup, l.IsCalm u)
    (hdiff : Diff.Readable diff) : Calm (evaluate settings classifier lookup path u diff) := by
  unfold evaluate
  split
  · exact .pure _
  · cases u.root? with
    | none => exact .pure _
    | some root =>
      refine (Calm.ofExcept hdiff).bind fun d => ?_
      split
      · exact .pure _
      · refine (uncovered_calm settings classifier hlookup _).bind fun found => ?_
        cases found <;> exact .pure _

/-- The third rule always answers. -/
theorem SuccessToast.evaluate_ok (classifier : Classifier) (hdiff : Diff.Readable diff) :
    ∃ found, evaluate settings classifier path u diff = .ok found := by
  obtain ⟨d, hd⟩ := hdiff
  unfold evaluate
  rw [hd]
  split
  · exact ⟨_, rfl⟩
  · split <;> exact ⟨_, rfl⟩

/-- The fourth rule always answers. -/
theorem EmptyState.evaluate_ok (hdiff : Diff.Readable diff) :
    ∃ found, evaluate settings path u diff = .ok found := by
  obtain ⟨d, hd⟩ := hdiff
  unfold evaluate
  rw [hd]
  repeat' split
  all_goals exact ⟨_, rfl⟩

/-- The fifth rule always answers. -/
theorem InputPlaceholder.evaluate_ok (hdiff : Diff.Readable diff) :
    ∃ found, evaluate settings path u diff = .ok found := by
  obtain ⟨d, hd⟩ := hdiff
  unfold evaluate
  rw [hd]
  repeat' split
  all_goals exact ⟨_, rfl⟩

/-- As long as numbers can be read and the lookup raises nothing, the first rule breaks down exactly on a
callback that calls `bind` alone, and the other rules never do. -/
theorem faults_iff {σ : Type} {s : Settings} {lookup : Option (Lookup (StateM σ))} {u : SourceUnit}
    {diff : Text}
    (hlookup : ∀ l ∈ lookup, ∀ strict action start,
      ∃ found, ((l strict action u).run.run start).1 = .ok found)
    (hdiff : Diff.Readable diff) (hdelays : u.DelaysFit) {e : Evaluator (StateM σ)}
    (he : e ∈ Evaluator.all s lookup) (path : String) (start : σ) (fault : Fault) :
    ((e.evaluate path u diff).run.run start).1 = .error fault ↔
      e.rule = 1 ∧ fault = .missingOwner ∧ DoubleSubmit.BreaksDown (s.rule 1) path u diff := by
  have hasked : ∀ l ∈ lookup, l.IsCalm u := fun l hl strict action =>
    .of_state (hlookup l hl strict action)
  have hcalm {x : ExceptT Fault (StateM σ) Findings} (hx : Calm x) :
      ¬(x.run.run start).1 = .error fault := by
    obtain ⟨found, hfound⟩ := hx.exists_ok start
    rw [hfound]
    exact nofun
  simp only [Evaluator.all, List.mem_cons, List.not_mem_nil, or_false] at he
  rcases he with rfl | rfl | rfl | rfl | rfl
  · by_cases hbreaks : DoubleSubmit.BreaksDown (s.rule 1) path u diff
    · dsimp only
      rw [DoubleSubmit.evaluate_throws _ hdelays hbreaks]
      change Except.error Fault.missingOwner = Except.error fault ↔ _
      constructor
      · intro h
        cases h
        exact ⟨rfl, rfl, hbreaks⟩
      · rintro ⟨-, rfl, -⟩
        rfl
    · have := hcalm (DoubleSubmit.evaluate_calm (Evaluator.classifier s) hasked hdiff hdelays hbreaks)
      exact ⟨fun h => absurd h this, fun h => absurd h.2.2 hbreaks⟩
  all_goals refine ⟨fun h => absurd h (hcalm ?_), fun h => absurd h.1 (by simp)⟩
  · exact InitialLoading.evaluate_calm _ hasked hdiff
  · exact .ofExcept (SuccessToast.evaluate_ok _ hdiff)
  · exact .ofExcept (EmptyState.evaluate_ok hdiff)
  · exact .ofExcept (InputPlaceholder.evaluate_ok hdiff)

/-!
## A button with a bound method

The page is `<Button onClick={bind(this)} />`.
-/

open Node (onFirstRow)

def boundTag : Node :=
  onFirstRow "jsx_self_closing_element" "" "<Button onClick=\x7bbind(this)\x7d />" 0
    [onFirstRow "identifier" "name" "Button" 1 [],
      onFirstRow "jsx_attribute" "" "onClick=\x7bbind(this)\x7d" 8
        [onFirstRow "property_identifier" "" "onClick" 8 [],
          onFirstRow "jsx_expression" "" "\x7bbind(this)\x7d" 16
            [onFirstRow "call_expression" "" "bind(this)" 17 []]]]

def boundUnit : SourceUnit :=
  ⟨"a.tsx", "tsx", some (onFirstRow "program" "" boundTag.text 0 [boundTag]), boundTag.text.toList, none, 0, 0⟩

def boundButton : Element where
  name := "Button"
  attributes := [⟨"onClick", some "bind(this)", true, "onClick"⟩]
  line := 1
  endLine := 1
  start := 0
  stop := 31
  origin := .tree
  hasSpread := false
  innerText := ""

/-- The elements of the example. -/
theorem elements_boundUnit : boundUnit.elements = [boundButton] := by decide +kernel

/-- The method of the example is bound without an owner. -/
theorem unowned_bind : Handler.Unowned "bind(this)".toList := by
  have htrim : Text.trim "bind(this)".toList = "bind".toList ++ '(' :: "this)".toList := by decide
  have hplain : Handler.Plain "bind".toList := .of_all (by decide) (by decide)
  constructor
  · rw [htrim]
    exact Handler.match?_plainReference_eq_none (by decide)
  · rw [htrim, Handler.all_callPattern hplain]
    exact List.find?_cons_of_pos (by decide)

/-- The example has no delay that is too long to read. -/
theorem delaysFit_boundUnit : boundUnit.DelaysFit := by
  intro e he a ha v hv m hm
  rw [elements_boundUnit, List.mem_singleton] at he
  subst he
  rw [List.mem_singleton.1 ha] at hv
  cases hv
  have hnone : Handler.delayPattern.search? (Text.trim "bind(this)".toList) = none := by decide +kernel
  rw [hnone] at hm
  cases hm

/-- Under plain settings the first rule breaks down on the page, and the second one does not. -/
theorem faults_iff_boundUnit :
    let s : Settings := ⟨[], [], [], "declareRequest", true⟩
    let lookup : Lookup (StateM Unit) := fun _ _ _ => pure none
    Diff.Readable [] ∧ boundUnit.DelaysFit ∧
      ∀ e ∈ Evaluator.all s (some lookup),
        ((e.evaluate "a.tsx" boundUnit []).run.run ()).1 = .error .missingOwner ↔ e.rule = 1 := by
  intro s lookup
  have hread : Diff.Readable [] := ⟨_, Diff.read_nil⟩
  have hbreaks : DoubleSubmit.BreaksDown (s.rule 1) "a.tsx" boundUnit [] := by
    refine ⟨rfl, rfl, rfl, ⟨_, Diff.read_nil, .inl rfl⟩, boundButton, ?_, ?_⟩
    · rw [elements_boundUnit]
      exact List.mem_singleton_self _
    · exact ⟨_, List.mem_cons_self, by decide +kernel, _, rfl, by decide, unowned_bind⟩
  refine ⟨hread, delaysFit_boundUnit, fun e he => ?_⟩
  have hlookup : ∀ l ∈ some lookup, ∀ strict action start,
      ∃ found, ((l strict action boundUnit).run.run start).1 = .ok found := by
    rintro l ⟨⟩ strict action start
    exact ⟨none, rfl⟩
  rw [faults_iff hlookup hread delaysFit_boundUnit he]
  exact ⟨fun h => h.1, fun h => ⟨h, rfl, hbreaks⟩⟩

end UxLint
