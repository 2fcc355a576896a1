import UxLint.Proofs.Loading.Protection
import UxLint.Proofs.Syntax.Inside
import UxLint.Rule.DoubleSubmit

/-!
# Flags that protect a handler

A handler whose function switches a busy flag on before a request and off again once the request has
settled, and whose element shows that flag, is not reported by the first rule, whatever else stands in the
function and on the elements (`checkGroup_guarded`). The chain by which the flag is switched off may go on
through parentheses and marks of what is not null. It may not go on through a cast, although a cast
is no part of what a call is elsewhere (`cast_hides_reset`).
-/

set_option autoImplicit false

namespace UxLint.DoubleSubmit

open Loading

/-- An element shows that a group is busy: a handler of the group stands on it, or it is a submit button
inside a form on which one stands. -/
inductive Shows (elements : List Element) (g : Group) : Element → Prop where
  | element {h : Handler} (mem : h ∈ g.handlers) : Shows elements g h.element
  | submit {h : Handler} {e : Element} (mem : h ∈ g.handlers) (form : h.callback ∈ formAttributes)
      (found : e ∈ elements) (inside : h.element.contains e = true)
      (button : e.isSubmitButton = true) : Shows elements g e

/-- An element that shows a group stands among its targets. -/
theorem Shows.mem_targets {elements : List Element} {g : Group} {e : Element}
    (h : Shows elements g e) : e ∈ targets elements g.handlers := by
  cases h with
  | @element h mem => exact List.mem_flatMap.2 ⟨h, mem, List.mem_cons_self⟩
  | @submit h _ mem form found inside button =>
    refine List.mem_flatMap.2 ⟨h, mem, List.mem_cons_of_mem _ ?_⟩
    rw [if_pos (List.contains_iff_mem.2 form)]
    exact List.mem_filter.2 ⟨found, by rw [inside, button]; rfl⟩

/-- A group is protected if one of its targets binds a flag that protects a request. -/
theorem isProtected_of_bound {elements : List Element} {g : Group} {first : Handler}
    {requests : List Place} {c : Place} {flag : String} (hc : c ∈ requests)
    (hflag : flag ∈ protectedFlags c g.function.node)
    (hbound : isBound (targets elements g.handlers) flag = true) :
    isProtected elements g first requests = true := by
  have hany : (requests.flatMap fun r => protectedFlags r g.function.node).any
      (isBound (targets elements g.handlers)) = true :=
    List.any_eq_true.2 ⟨flag, List.mem_flatMap.2 ⟨c, hc, hflag⟩, hbound⟩
  rw [isProtected, hany, Bool.or_true]

section

variable {m : Type → Type} [Monad m] {classifier : Classifier} {elements : List Element} {g : Group}
  {c : Place} {flag : String} {e : Element}

/-- A group whose elements show a busy flag that protects one of its requests is not reported. -/
theorem checkGroup_guarded (lookup : Option (Lookup m)) (path : String) (u : SourceUnit)
    (hf : g.function.node.isFunction = true) (hspots : g.function.node.spotsApart = true)
    (hc : c ∈ classifier.requests g.function) (hbusy : isBusyName flag = true)
    (hon : SwitchedOnBefore g.function c flag)
    (hoff : SwitchedOffAfter Place.chainWrappers g.function c flag) (he : Shows elements g e)
    (hbinds : e.bindsFlag flag busyAttributes = true) :
    checkGroup classifier lookup path u elements g = pure none := by
  have hflag := mem_protectedFlags hf hspots hc hbusy hon hoff
  have hbound : isBound (targets elements g.handlers) flag = true :=
    List.any_eq_true.2 ⟨e, he.mem_targets, hbinds⟩
  unfold checkGroup
  dsimp only
  split
  · rw [if_pos (isProtected_of_bound hc hflag hbound)]
  · rfl

end

/-!
## A flag that is switched off in a chain

The page of the cases below has one handler, `() => { setLoading(true); (w).then(() => setLoading(false)); }`,
where `w` is a wrapper around the call `post(url)`, and one button that shows the flag.
-/

open Node (onFirstRow)

/-- A call of the setter of a flag with a truth literal. -/
def setLoading (field : String) (start : Nat) (value : Bool) : Node :=
  onFirstRow "call_expression" field ("setLoading(" ++ toString value ++ ")") start
    [onFirstRow "identifier" "function" "setLoading" start [],
      onFirstRow "arguments" "arguments" ("(" ++ toString value ++ ")") (start + 10)
        [onFirstRow (toString value) "" (toString value) (start + 11) []]]

/-- The statement of the example assigns the flag. -/
theorem assigns_setLoading (field : String) (start : Nat) (value : Bool) :
    Assigns "loading" value (setLoading field start value) := by
  have hname : lastSegment "setLoading" =
      String.ofList ("set".toList ++ 'L' :: "oading".toList) := by
    decide
  have hidentifier : ∀ c ∈ "oading".toList, Text.isIdentifier c = true :=
    List.all_eq_true.1 (by decide)
  have hflag : "loading" = String.ofList (Text.lower ['L'] ++ "oading".toList) := by decide
  cases value with
  | false => exact .setter rfl rfl hname rfl hidentifier hflag rfl
  | true => exact .setter rfl rfl hname rfl hidentifier hflag rfl

/-- A call that sends. -/
def postCall : Node :=
  onFirstRow "call_expression" "" "post(url)" 40
    [onFirstRow "identifier" "function" "post" 40 [],
      onFirstRow "arguments" "arguments" "(url)" 44 [onFirstRow "identifier" "" "url" 45 []]]

section Page

variable (wrapper : Node)

def postParentheses : Node :=
  onFirstRow "parenthesized_expression" "object" ("(" ++ wrapper.text ++ ")") 39 [wrapper]

def behindPost : Nat := 41 + wrapper.text.length

def resetArrow : Node :=
  onFirstRow "arrow_function" "" "() => setLoading(false)" (behindPost wrapper + 6)
    [onFirstRow "formal_parameters" "parameters" "()" (behindPost wrapper + 6) [],
      setLoading "body" (behindPost wrapper + 12) false]

def thenMember : Node :=
  onFirstRow "member_expression" "function" ("(" ++ wrapper.text ++ ").then") 39
    [postParentheses wrapper,
      onFirstRow "property_identifier" "property" "then" (behindPost wrapper + 1) []]

def thenCall : Node :=
  onFirstRow "call_expression" "" ("(" ++ wrapper.text ++ ").then(() => setLoading(false))") 39
    [thenMember wrapper,
      onFirstRow "arguments" "arguments" "(() => setLoading(false))" (behindPost wrapper + 5)
        [resetArrow wrapper]]

def setStatement : Node :=
  onFirstRow "expression_statement" "" "setLoading(true);" 21 [setLoading "" 21 true]

def thenStatement : Node :=
  onFirstRow "expression_statement" "" ("(" ++ wrapper.text ++ ").then(() => setLoading(false));") 39
    [thenCall wrapper]

def busyBody : Node :=
  onFirstRow "statement_block" "body"
    ("\x7b setLoading(true); (" ++ wrapper.text ++ ").then(() => setLoading(false)); \x7d") 19
    [setStatement, thenStatement wrapper]

/-- The handler, which sends between switching the flag on and off. -/
def busyFunction : Node :=
  onFirstRow "arrow_function" "value"
    ("() => \x7b setLoading(true); (" ++ wrapper.text ++ ").then(() => setLoading(false)); \x7d") 13
    [onFirstRow "formal_parameters" "parameters" "()" 13 [], busyBody wrapper]

def busyButton : Element where
  name := "Button"
  attributes :=
    [⟨"loading", some "loading", true, "loading"⟩, ⟨"onClick", some "save", true, "onClick"⟩]
  line := 2
  endLine := 2
  start := 102
  stop := 145
  origin := .tree
  hasSpread := false
  innerText := ""

def busyHandler : Handler := ⟨"save", 2, busyButton, "onClick", false⟩

def busyGroup : Group := ⟨⟨busyFunction wrapper, []⟩, [busyHandler]⟩

def postPlace : Place :=
  ⟨postCall, [wrapper, postParentheses wrapper, thenMember wrapper, thenCall wrapper,
    thenStatement wrapper, busyBody wrapper, busyFunction wrapper]⟩

def busyUnit : SourceUnit := ⟨"a.tsx", "tsx", some (busyFunction wrapper), [], none, 0, 0⟩

variable {wrapper}

/-- The flag of the example is switched on in front of the call. -/
theorem switchedOnBefore_postPlace (hnamed : wrapper.isNamed = true)
    (hcall : postCall ∈ wrapper.namedChildren) :
    SwitchedOnBefore (busyGroup wrapper).function (postPlace wrapper) "loading" := by
  have inside : (busyGroup wrapper).function.Under ⟨busyBody wrapper, [busyFunction wrapper]⟩ :=
    .child .self (List.Mem.tail _ (List.Mem.head _))
  have hwrapper : wrapper ∈ (postParentheses wrapper).namedChildren :=
    List.mem_filter.2 ⟨List.mem_singleton_self _, hnamed⟩
  have holds : Place.Under ⟨thenStatement wrapper, [busyBody wrapper, busyFunction wrapper]⟩
      (postPlace wrapper) :=
    .child (.child (.child (.child (.child .self (List.Mem.head _)) (List.Mem.head _))
      (List.Mem.head _)) (List.mem_map_of_mem hwrapper)) (List.mem_map_of_mem hcall)
  refine ⟨[setStatement], [], .intro inside rfl rfl holds, setStatement, List.mem_singleton_self _,
    setLoading "" 21 true, ?_, ?_⟩
  · exact Node.mem_walk_of_namedChild (List.Mem.head _)
  · exact assigns_setLoading "" 21 true

/-- The flag of the example is switched off behind the call. -/
theorem switchedOffAfter_postPlace {wrappers : List String} (hkind : wrapper.kind ∈ wrappers)
    (hparentheses : "parenthesized_expression" ∈ wrappers) :
    SwitchedOffAfter wrappers (busyGroup wrapper).function (postPlace wrapper) "loading" := by
  have method : "then" ∈ Place.promiseMethods := by decide
  have chained : Place.Chained wrappers Place.promiseMethods postCall (postPlace wrapper).above
      (resetArrow wrapper) :=
    .wrapped hkind (.wrapped hparentheses (.here rfl rfl method rfl (List.Mem.head _) rfl))
  refine ⟨resetArrow wrapper, .chained chained, setLoading "body" (behindPost wrapper + 12) false, ?_,
    "loading", ?_, rfl⟩
  · exact Node.mem_walk_of_namedChild (List.Mem.tail _ (List.Mem.head _))
  · exact assigns_setLoading "body" _ false

end Page

/-- The call, marked as not null. -/
def markedPost : Node := onFirstRow "non_null_expression" "" "post(url)!" 40 [postCall]

/-- The call in a cast. -/
def castPost : Node :=
  onFirstRow "as_expression" "" "post(url) as any" 40
    [postCall, onFirstRow "predefined_type" "" "any" 53 []]

/-- The function with the marked call has this request. -/
theorem requests_markedPost :
    (Classifier.ofWords []).requests (busyGroup markedPost).function = [postPlace markedPost] := by
  with_unfolding_all rfl

/-- The function with the call in a cast has this request. -/
theorem requests_castPost :
    (Classifier.ofWords []).requests (busyGroup castPost).function = [postPlace castPost] := by
  with_unfolding_all rfl

/-- The button of the example binds the flag. -/
theorem bindsFlag_busyButton : busyButton.bindsFlag "loading" busyAttributes = true := by decide +kernel

/-- A flag that is switched off in a chain on a call that is marked as not null. -/
theorem checkGroup_guarded_mark :
    let g := busyGroup markedPost
    let c := postPlace markedPost
    g.function.node.isFunction = true ∧ g.function.node.spotsApart = true ∧
      c ∈ (Classifier.ofWords []).requests g.function ∧ isBusyName "loading" = true ∧
      SwitchedOnBefore g.function c "loading" ∧
      SwitchedOffAfter Place.chainWrappers g.function c "loading" ∧
      Shows [busyButton] g busyButton ∧
      busyButton.bindsFlag "loading" busyAttributes = true ∧
      (checkGroup (.ofWords []) none "a.tsx" (busyUnit markedPost) [busyButton] g :
        ExceptT Fault Id (Option Violation)) = pure none := by
  intro g c
  have hf : g.function.node.isFunction = true := by decide +kernel
  have hspots : g.function.node.spotsApart = true := by decide +kernel
  have hc : c ∈ (Classifier.ofWords []).requests g.function := by
    rw [requests_markedPost]
    exact List.mem_singleton_self c
  have hbusy : isBusyName "loading" = true := by decide +kernel
  have hon : SwitchedOnBefore g.function c "loading" := switchedOnBefore_postPlace rfl (List.Mem.head _)
  have hoff : SwitchedOffAfter Place.chainWrappers g.function c "loading" :=
    switchedOffAfter_postPlace (by decide) (by decide)
  have hshows : Shows [busyButton] g busyButton := .element (h := busyHandler) (List.mem_singleton_self _)
  exact ⟨hf, hspots, hc, hbusy, hon, hoff, hshows, bindsFlag_busyButton,
    checkGroup_guarded none "a.tsx" (busyUnit markedPost) hf hspots hc hbusy hon hoff hshows
      bindsFlag_busyButton⟩

/-- The group with the call in a cast does not count as protected. -/
theorem isProtected_castPost :
    isProtected [busyButton] (busyGroup castPost) busyHandler [postPlace castPost] = false := by
  -- Nothing is found that runs once the call has settled.
  have hregions : settledRegions (postPlace castPost) (busyFunction castPost) = [] := by
    with_unfolding_all rfl
  have hflags : protectedFlags (postPlace castPost) (busyFunction castPost) = [] := by
    refine List.filter_eq_nil_iff.2 fun flag _ => ?_
    rw [resetsAfter, hregions, List.any_nil]
    decide
  unfold isProtected
  rw [List.flatMap_singleton]
  change (_ || (protectedFlags (postPlace castPost) (busyFunction castPost)).any _) = false
  rw [hflags]
  with_unfolding_all rfl

/-- A flag that is switched off in a chain on a call in a cast is not found to protect the call: its handler
is reported. -/
theorem cast_hides_reset :
    let g := busyGroup castPost
    let c := postPlace castPost
    g.function.node.isFunction = true ∧ g.function.node.spotsApart = true ∧
      c ∈ (Classifier.ofWords []).requests g.function ∧ isBusyName "loading" = true ∧
      SwitchedOnBefore g.function c "loading" ∧
      SwitchedOffAfter ("as_expression" :: Place.chainWrappers) g.function c "loading" ∧
      Shows [busyButton] g busyButton ∧
      busyButton.bindsFlag "loading" busyAttributes = true ∧
      (checkGroup (.ofWords []) none "a.tsx" (busyUnit castPost) [busyButton] g :
        ExceptT Fault Id (Option Violation)) =
          pure (some (report "a.tsx" g.function.node [busyButton] busyHandler .unknown)) := by
  intro g c
  have hc : c ∈ (Classifier.ofWords []).requests g.function := by
    rw [requests_castPost]
    exact List.mem_singleton_self c
  refine ⟨by decide +kernel, by decide +kernel, hc, by decide +kernel,
    switchedOnBefore_postPlace rfl (List.Mem.head _),
    switchedOffAfter_postPlace (by decide) (by decide),
    .element (h := busyHandler) (List.mem_singleton_self _), bindsFlag_busyButton, ?_⟩
  unfold checkGroup
  rw [requests_castPost]
  change (if isProtected [busyButton] g busyHandler [c] = true then pure none
    else judgeRequests none (busyUnit castPost) [busyButton] .unknown [c] >>= _) = _
  rw [if_neg (by rw [isProtected_castPost]; decide)]
  with_unfolding_all rfl

end UxLint.DoubleSubmit
