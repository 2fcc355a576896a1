import UxLint.Proofs.Syntax.ObjectKeys
import UxLint.Proofs.Syntax.Replacement
import UxLint.Rule.SuccessToast

/-!
# Callback properties in two spellings

A property of an object literal that holds a function is written as a pair of its key and the function, or
as a method. A call that is handed the pair reaches a success message, or switches a flag off, if it does so
with the method or the body does (`answers_respelled`): as a method the property is overlooked, and nothing
else changes. So the two spellings have different answers wherever nothing but the body gives feedback
(`method_overlooked`).
-/

set_option autoImplicit false

namespace UxLint

namespace Node

/-- A property that is written as a method and the same one written as a pair of its key and a function: the
method consists of its name and of what the function consists of. -/
structure Respelled (method pair function : Node) : Prop where
  method_kind : method.kind = "method_definition"
  pair_kind : pair.kind = "pair"
  value : pair.field? "value" = some function
  function_named : function.isNamed = true
  function_kind : function.kind = "function_expression"
  parts : ∃ name : Node, method.namedChildren = name :: function.namedChildren ∧
    ∀ n ∈ name.walk, n.isCall = false ∧ n.kind ≠ "assignment_expression"

variable {method pair function n : Node}

/-- A node that is no call and no assignment sets no flag. -/
theorem flagsAt_eq_nil (hcall : n.isCall = false) (hkind : n.kind ≠ "assignment_expression") :
    Loading.flagsAt n = [] := by
  have hkind' : n.kind ≠ "call_expression" := by
    intro h
    rw [isCall, h] at hcall
    exact absurd hcall (by decide)
  rw [Loading.flagsAt, if_neg (by simpa using hkind), if_neg (by simpa using hkind')]

/-- The calls of a node that is none are those of its named children. -/
theorem calls_eq_of_not_isCall (h : n.isCall = false) : n.calls = n.namedChildren.flatMap calls := by
  rw [calls, findAll, walk_eq, List.filter_cons_of_neg (by rw [h]; decide), List.filter_flatMap]
  rfl

/-- The assignments of a node that sets no flag are those of its named children. -/
theorem assignments_eq_of_flagsAt_eq_nil (h : Loading.flagsAt n = []) :
    Loading.assignments n = n.namedChildren.flatMap Loading.assignments := by
  rw [Loading.assignments, walk_eq, List.flatMap_cons, h, List.nil_append, List.flatMap_assoc]
  rfl

namespace Respelled

/-- The function of a respelled property is one. -/
theorem isFunction (h : Respelled method pair function) : function.isFunction = true := by
  rw [Node.isFunction, h.function_named, h.function_kind]
  decide

/-- A method calls what the function calls. -/
theorem calls_eq (h : Respelled method pair function) : method.calls = function.calls := by
  obtain ⟨name, hparts, hname⟩ := h.parts
  have hmethod : method.isCall = false := by rw [isCall, h.method_kind]; decide
  have hfunction : function.isCall = false := by rw [isCall, h.function_kind]; decide
  have hnone : name.calls = [] :=
    List.filter_eq_nil_iff.2 fun n hn => by rw [(hname n hn).1]; decide
  rw [calls_eq_of_not_isCall hmethod, calls_eq_of_not_isCall hfunction, hparts, List.flatMap_cons,
    hnone, List.nil_append]

/-- A method switches the flags that the function switches. -/
theorem assignments_eq (h : Respelled method pair function) :
    Loading.assignments method = Loading.assignments function := by
  obtain ⟨name, hparts, hname⟩ := h.parts
  have hmethod : Loading.flagsAt method = [] :=
    flagsAt_eq_nil (by rw [isCall, h.method_kind]; decide) (by rw [h.method_kind]; decide)
  have hfunction : Loading.flagsAt function = [] :=
    flagsAt_eq_nil (by rw [isCall, h.function_kind]; decide) (by rw [h.function_kind]; decide)
  have hnone : Loading.assignments name = [] :=
    List.flatMap_eq_nil_iff.2 fun n hn => flagsAt_eq_nil (hname n hn).1 (hname n hn).2
  rw [assignments_eq_of_flagsAt_eq_nil hmethod, assignments_eq_of_flagsAt_eq_nil hfunction, hparts,
    List.flatMap_cons, hnone, List.nil_append]

end Respelled

end Node

namespace Place

/-- A call is handed an object literal, of which `property` is a child. -/
structure HandsProperty (call object property : Place) : Prop where
  handed : object ∈ call.arguments
  literal : object.node.kind = "object"
  child : property ∈ object.namedChildren

variable {c c' object object' property property' : Place}

/-- The arguments of a call around one of them. -/
theorem exists_arguments (h : object ∈ c.arguments) :
    ∃ args, c.node.field? "arguments" = some args ∧ object ∈ items ⟨args, c.node :: c.above⟩ := by
  unfold arguments field? at h
  cases hargs : c.node.field? "arguments" with
  | none => rw [hargs] at h; cases h
  | some args => rw [hargs] at h; exact ⟨args, rfl, h⟩

/-- Two calls that are handed an object literal with other properties in the same surroundings stand in the
same surroundings and have the same arguments, but for the literal. -/
theorem SameAround.call (around : SameAround property property')
    (h : HandsProperty c object property) (h' : HandsProperty c' object' property') :
    SameAround c c' ∧ c.node.Alike c'.node ∧
      Node.SwapsChild property.node property'.node object.node object'.node ∧
      ∃ front back, c.node.arguments = front ++ object.node :: back ∧
        c'.node.arguments = front ++ object'.node :: back := by
  obtain ⟨args, hfield, hobject⟩ := exists_arguments h.handed
  obtain ⟨args', hfield', hobject'⟩ := exists_arguments h'.handed
  obtain ⟨aroundObject, alikeObject, swaps⟩ := around.parent h.child h'.child
  obtain ⟨aroundArguments, alikeArguments, swapsObject⟩ := aroundObject.parent
    (mem_namedChildren_of_mem_items hobject) (mem_namedChildren_of_mem_items hobject')
  cases aroundArguments with
  | within aroundCall alikeCall _ =>
    refine ⟨aroundCall, alikeCall, swaps, ?_⟩
    unfold Node.arguments
    rw [hfield, hfield']
    have hliteral : object.node.isComment = false := by rw [Node.isComment, h.literal]; decide
    have hliteral' : object'.node.isComment = false := by rw [Node.isComment, h'.literal]; decide
    exact swapsObject.items_eq
      (isNamed_of_mem_namedChildren (mem_namedChildren_of_mem_items hobject))
      (isNamed_of_mem_namedChildren (mem_namedChildren_of_mem_items hobject')) hliteral hliteral'

end Place

/-! ## The values of a literal -/

/-- Asking several keys, one of which has one answer more. -/
theorem any_keys_insert {keys : List String} {key : String} {f g : String → Bool} {b : Bool}
    (hsame : f key = b) (habsent : g key = false) (hother : ∀ k, k ≠ key → f k = g k) :
    keys.any f = (keys.any g || keys.contains key && b) := by
  induction keys with
  | nil => rfl
  | cons k keys ih =>
    rw [List.any_cons, List.any_cons, ih, List.contains_cons]
    rcases eq_or_ne k key with rfl | hne
    · rw [hsame, habsent, beq_self_eq_true]
      cases b <;> simp
    · rw [hother k hne, beq_eq_false_iff_ne.2 hne.symm, Bool.false_or, Bool.or_assoc]

variable {full rest : List (String × Option Node)} {key : String} {function o o' : Node}
  {p : Node → Bool}

/-- An object is no function. -/
theorem not_isFunction_of_object {o : Node} (h : o.kind = "object") : o.isFunction = false := by
  rw [Node.isFunction, h, Bool.and_eq_false_iff]
  exact .inr (by decide)

/-- A value that is a function is one more callback of success if its key is one of a callback. -/
theorem SuccessToast.any_successFunctions_insert
    (h : Node.Inserted (key, some function) o'.objectKeys o.objectKeys)
    (hfunction : function.isFunction = true) (ho : o.kind = "object") (ho' : o'.kind = "object") :
    (successFunctions o').any p =
      ((successFunctions o).any p || successKeys.contains key && p function) := by
  unfold successFunctions
  rw [not_isFunction_of_object ho, not_isFunction_of_object ho', if_neg (by decide), if_neg (by decide),
    List.nil_append, List.nil_append, List.any_filterMap, List.any_filterMap]
  refine any_keys_insert ?_ ?_ fun k hk => ?_
  · rw [h.valueAt?_same, Option.filter_some_pos hfunction]
  · rw [h.valueAt?_absent, Option.filter_none]
  · rw [h.valueAt?_other hk]

/-- A value that is a function is one more function that is handed over. -/
theorem Loading.any_objectFunctions_insert (h : Node.Inserted (key, some function) full rest)
    (hfunction : function.isFunction = true) :
    (full.filterMap fun e => e.2.filter Node.isFunction).any p =
      ((rest.filterMap fun e => e.2.filter Node.isFunction).any p || p function) := by
  rw [List.any_filterMap, List.any_filterMap, h.any_eq, Option.filter_some_pos hfunction]

/-! ## The answers in both spellings -/

namespace Place

open SuccessToast Loading

variable {c c' object object' method pair : Place} {tree : Node}

/-- The object literal with the pair has one entry more than the one with the method. -/
theorem inserted_respelled (hspell : Node.Respelled method.node pair.node function)
    (h : HandsProperty c object method) (h' : HandsProperty c' object' pair)
    (swaps : Node.SwapsChild method.node pair.node object.node object'.node)
    (hfresh : ∀ d ∈ object.node.namedChildren, d.entryKey? ≠ some pair.node.pairKey) :
    Node.Inserted (pair.node.pairKey, some function) object'.node.objectKeys object.node.objectKeys := by
  obtain ⟨front, back, hchildren, hchildren'⟩ := swaps.namedChildren_eq
    (isNamed_of_mem_namedChildren h.child) (isNamed_of_mem_namedChildren h'.child)
  have hsilent : method.node.entryKey? = none := by
    rw [Node.entryKey?, hspell.method_kind]
    rfl
  rw [← hspell.value]
  refine Node.inserted_objectKeys h.literal h'.literal hchildren hchildren' hsilent hspell.pair_kind
    fun d hd => hfresh d ?_
  rw [hchildren]
  rcases List.mem_append.1 hd with hd | hd
  · exact List.mem_append_left _ hd
  · exact List.mem_append_right _ (List.mem_cons_of_mem _ hd)

/-- An argument in the place of another one adds what it brings. -/
theorem any_arguments_replaced {front back : List Node} {g : Node → Bool} {b : Bool}
    (h : g o' = (g o || b)) :
    (front ++ o' :: back).any g = ((front ++ o :: back).any g || b) := by
  rw [List.any_append, List.any_append, List.any_cons, List.any_cons, h]
  cases front.any g <;> cases g o <;> cases back.any g <;> cases b <;> rfl

section Handed

variable {front back : List Node} {key : String} {p : Node → Bool}
  (hinserted : Node.Inserted (key, some function) o'.objectKeys o.objectKeys)
  (hfunction : function.isFunction = true) (ho : o.kind = "object") (ho' : o'.kind = "object")

include hinserted hfunction ho ho'

/-- A property in the place of a method adds its function under a key of success. -/
theorem any_successFunctions_replaced :
    ((front ++ o' :: back).flatMap successFunctions).any p =
      (((front ++ o :: back).flatMap successFunctions).any p ||
        successKeys.contains key && p function) := by
  rw [List.any_flatMap, List.any_flatMap]
  exact any_arguments_replaced (any_successFunctions_insert hinserted hfunction ho ho')

/-- A property in the place of a method hands over its function. -/
theorem any_handedFunctions_replaced (harguments : c.node.arguments = front ++ o :: back)
    (harguments' : c'.node.arguments = front ++ o' :: back) :
    (handedFunctions c'.node).any p = ((handedFunctions c.node).any p || p function) := by
  have hplain : c'.node.arguments.filter Node.isFunction = c.node.arguments.filter Node.isFunction := by
    rw [harguments, harguments', List.filter_append, List.filter_append,
      List.filter_cons_of_neg (by simp [not_isFunction_of_object ho']),
      List.filter_cons_of_neg (by simp [not_isFunction_of_object ho])]
  unfold handedFunctions
  rw [hplain, harguments, harguments', List.any_append, List.any_append, List.any_flatMap,
    List.any_flatMap, Bool.or_assoc]
  exact congrArg _ (any_arguments_replaced (any_objectFunctions_insert hinserted hfunction))

end Handed

section Spellings

variable (hspell : Node.Respelled method.node pair.node function) (h : HandsProperty c object method)
  (h' : HandsProperty c' object' pair) (around : SameAround method pair)
  (hfresh : ∀ d ∈ object.node.namedChildren, d.entryKey? ≠ some pair.node.pairKey)
  (hapart : tree.childrenApart = true) (hcalled : tree.MembersCalled) (hc : (root tree).Under c)

include hspell h h' around hfresh hapart hcalled hc

/-- A property in the place of a method adds the message that its function shows. -/
theorem reachesToast_eq_of_respelled {f f' : Option Place}
    (hf : Option.Rel (fun a b : Place => a.node.sameSpot b.node = true) f f')
    (settings : RuleSettings) :
    reachesToast settings c' f' = (reachesToast settings c f ||
      successKeys.contains pair.node.pairKey &&
        callsSuccess (settings.keywords "successMethods") method.node) := by
  obtain ⟨aroundCall, alikeCall, swaps, front, back, harguments, harguments'⟩ := around.call h h'
  have hinserted := inserted_respelled hspell h h' swaps hfresh
  have hcallbacks := aroundCall.promiseCallbacks_eq alikeCall hapart hcalled hc promiseMethods
  have hcalls : callsSuccess (settings.keywords "successMethods") method.node =
      callsSuccess (settings.keywords "successMethods") function := by
    rw [callsSuccess, callsSuccess, hspell.calls_eq]
  unfold reachesToast successRegions
  rw [hcallbacks, hcalls, harguments, harguments', List.any_append, List.any_append, List.any_append,
    List.any_append, any_successFunctions_replaced hinserted hspell.isFunction h.literal h'.literal]
  -- What is left is the part behind an await, which both calls have alike.
  cases hf with
  | none => rw [← Bool.or_assoc, Bool.or_right_comm]
  | some hstop =>
    dsimp only
    rw [aroundCall.isAwaited_eq, aroundCall.statementsAfter_eq alikeCall hapart hc hstop,
      ← Bool.or_assoc, Bool.or_right_comm]

/-- A property in the place of a method adds the flags that its function switches off. -/
theorem resetsAfter_eq_of_respelled (hspans : tree.spansNested = true) {stop stop' : Node}
    (hstop : stop.sameSpot stop' = true) (flag : String) :
    resetsAfter c' stop' flag = (resetsAfter c stop flag || switchesOff flag method.node) := by
  obtain ⟨aroundCall, alikeCall, swaps, front, back, harguments, harguments'⟩ := around.call h h'
  have hinserted := inserted_respelled hspell h h' swaps hfresh
  have hcallbacks := aroundCall.promiseCallbacks_eq alikeCall hapart hcalled hc promiseMethods
  have hswitches : switchesOff flag method.node = switchesOff flag function := by
    rw [switchesOff, switchesOff, hspell.assignments_eq]
  unfold resetsAfter settledRegions
  rw [hcallbacks, hswitches, aroundCall.isAwaited_eq,
    aroundCall.statementsAfter_eq alikeCall hapart hc hstop,
    aroundCall.finalBodies_eq alikeCall hspans hc hstop]
  simp only [List.any_append]
  rw [any_handedFunctions_replaced hinserted hspell.isFunction h.literal h'.literal harguments
    harguments', ← Bool.or_assoc, Bool.or_right_comm _ (switchesOff flag function),
    Bool.or_right_comm _ (switchesOff flag function)]

end Spellings

/-- A call that is handed a function under a key of an object literal reaches a success message, or
switches a flag off, if it does so with the property written as a method, or if the method does it. -/
theorem answers_respelled (hspell : Node.Respelled method.node pair.node function)
    (h : HandsProperty c object method) (h' : HandsProperty c' object' pair)
    (around : SameAround method pair)
    (hfresh : ∀ d ∈ object.node.namedChildren, d.entryKey? ≠ some pair.node.pairKey)
    (hapart : tree.childrenApart = true) (hspans : tree.spansNested = true)
    (hcalled : tree.MembersCalled) (hc : (root tree).Under c) :
    (∀ settings f f', Option.Rel (fun a b : Place => a.node.sameSpot b.node = true) f f' →
      reachesToast settings c' f' = (reachesToast settings c f ||
        successKeys.contains pair.node.pairKey &&
          callsSuccess (settings.keywords "successMethods") method.node)) ∧
    ∀ stop stop' flag, stop.sameSpot stop' = true →
      resetsAfter c' stop' flag = (resetsAfter c stop flag || switchesOff flag method.node) := by
  constructor
  · intro settings f f' hf
    exact reachesToast_eq_of_respelled hspell h h' around hfresh hapart hcalled hc hf settings
  · intro stop stop' flag hstop
    exact resetsAfter_eq_of_respelled hspell h h' around hfresh hapart hcalled hc hspans hstop flag

/-! ### A callback of success

The call of the cases below is that of `() => { post({ success() { ok(); loading = false; } }); }`, with the
property written over the same octets in either spelling.
-/

section Callback

open Node (onFirstRow)

/-- The body of the property. -/
def successBody : Node :=
  onFirstRow "statement_block" "body" "\x7b ok(); loading = false; \x7d" 35
    [callStatement "ok" 37,
      onFirstRow "expression_statement" "" "loading = false;" 43
        [onFirstRow "assignment_expression" "" "loading = false" 43
          [onFirstRow "identifier" "left" "loading" 43 [],
            onFirstRow "false" "right" "false" 53 []]]]

/-- What both spellings of the property have behind the key. -/
def successParts : List Node :=
  [onFirstRow "formal_parameters" "parameters" "()" 32 [], successBody]

/-- The property as a method. -/
def successMethod : Node :=
  onFirstRow "method_definition" "" ("success          () " ++ successBody.text) 15
    (onFirstRow "property_identifier" "name" "success" 15 [] :: successParts)

def successFunction : Node :=
  onFirstRow "function_expression" "value" ("function() " ++ successBody.text) 24 successParts

/-- The property as a pair. -/
def successPair : Node :=
  onFirstRow "pair" "" ("success: " ++ successFunction.text) 15
    [onFirstRow "property_identifier" "key" "success" 15 [], successFunction]

variable (property : Node)

/-- The literal that holds the property. -/
def optionsWith : Node :=
  onFirstRow "object" "" ("\x7b " ++ property.text ++ " \x7d") 13 [property]

def postArguments : Node :=
  onFirstRow "arguments" "arguments" ("(" ++ (optionsWith property).text ++ ")") 12 [optionsWith property]

def postWith : Node :=
  onFirstRow "call_expression" "" ("post" ++ (postArguments property).text) 8
    [onFirstRow "identifier" "function" "post" 8 [], postArguments property]

def postStatement : Node :=
  onFirstRow "expression_statement" "" ((postWith property).text ++ ";") 8 [postWith property]

def postBlock : Node :=
  onFirstRow "statement_block" "body" ("\x7b " ++ (postStatement property).text ++ " \x7d") 6
    [postStatement property]

/-- The call, with the nodes above it. -/
def postPlace : Place :=
  ⟨postWith property, [postStatement property, postBlock property, arrowOver (postBlock property)]⟩

def optionsPlace : Place :=
  ⟨optionsWith property,
    postArguments property :: (postPlace property).node :: (postPlace property).above⟩

def propertyPlace : Place :=
  ⟨property, optionsWith property :: (optionsPlace property).above⟩

/-- The call of the example hands over its property. -/
theorem handsProperty (hnamed : property.isNamed = true) :
    HandsProperty (postPlace property) (optionsPlace property) (propertyPlace property) where
  handed := List.mem_singleton_self _
  literal := rfl
  child := List.mem_map_of_mem (List.mem_filter.2 ⟨List.mem_singleton_self _, hnamed⟩)

/-- The call of the example stands in its function. -/
theorem under_postPlace : (root (arrowOver (postBlock property))).Under (postPlace property) :=
  .child (.child (.child .self (.tail _ (.head _))) (.head _)) (.head _)

/-- The property of the example respells its method. -/
theorem respelled_success : Node.Respelled successMethod successPair successFunction where
  method_kind := rfl
  pair_kind := rfl
  value := rfl
  function_named := rfl
  function_kind := rfl
  parts := ⟨onFirstRow "property_identifier" "name" "success" 15 [], rfl, by
    intro n hn
    rw [List.mem_singleton.1 hn]
    decide⟩

/-- The spellings cover the same octets, so all that stands above them differs in nothing but its text. -/
theorem sameAround_success : SameAround (propertyPlace successMethod) (propertyPlace successPair) := by
  have hswaps : ∀ (front : List Node) {l l' : Label} {n n' : Node},
      Node.SwapsChild n n' (.node l (front ++ [n])) (.node l' (front ++ [n'])) :=
    fun front => ⟨rfl, rfl⟩
  have hfunction : SameAround ⟨arrowOver (postBlock successMethod), []⟩
      ⟨arrowOver (postBlock successPair), []⟩ := .top
  have hblock : SameAround ⟨postBlock successMethod, _⟩ ⟨postBlock successPair, _⟩ :=
    .within hfunction (by decide) (hswaps [_])
  have hstatement : SameAround ⟨postStatement successMethod, _⟩ ⟨postStatement successPair, _⟩ :=
    .within hblock (by decide) (hswaps [])
  have hcall : SameAround ⟨postWith successMethod, _⟩ ⟨postWith successPair, _⟩ :=
    .within hstatement (by decide) (hswaps [])
  have harguments : SameAround ⟨postArguments successMethod, _⟩ ⟨postArguments successPair, _⟩ :=
    .within hcall (by decide) (hswaps [_])
  have hoptions : SameAround ⟨optionsWith successMethod, _⟩ ⟨optionsWith successPair, _⟩ :=
    .within harguments (by decide) (hswaps [])
  exact .within hoptions (by decide) (hswaps [])

/-- In the example a member that a call holds is what it calls. -/
theorem membersCalled_success : (arrowOver (postBlock successMethod)).MembersCalled := by
  have hnone : (arrowOver (postBlock successMethod)).walk.all (fun n => !n.isMember) = true := by
    decide
  intro call hcall _ m hm hmember
  have hplain := List.all_eq_true.1 hnone m
    (Node.mem_walk_trans hcall (Node.mem_walk_of_namedChild hm))
  rw [hmember] at hplain
  cases hplain

/-- A call with the callback in either spelling. -/
theorem answers_respelled_success :
    let c := postPlace successMethod
    let c' := postPlace successPair
    Node.Respelled successMethod successPair successFunction ∧
      HandsProperty c (optionsPlace successMethod) (propertyPlace successMethod) ∧
      HandsProperty c' (optionsPlace successPair) (propertyPlace successPair) ∧
      SameAround (propertyPlace successMethod) (propertyPlace successPair) ∧
      (arrowOver (postBlock successMethod)).childrenApart = true ∧
      (arrowOver (postBlock successMethod)).spansNested = true ∧
      (arrowOver (postBlock successMethod)).MembersCalled ∧
      (root (arrowOver (postBlock successMethod))).Under c ∧
      (∀ settings, reachesToast settings c' none = (reachesToast settings c none ||
        successKeys.contains successPair.pairKey &&
          callsSuccess (settings.keywords "successMethods") successMethod)) ∧
      ∀ flag, resetsAfter c' (arrowOver (postBlock successPair)) flag =
        (resetsAfter c (arrowOver (postBlock successMethod)) flag || switchesOff flag successMethod) := by
  intro c c'
  have h := handsProperty successMethod rfl
  have h' := handsProperty successPair rfl
  have hapart : (arrowOver (postBlock successMethod)).childrenApart = true := by decide +kernel
  have hspans : (arrowOver (postBlock successMethod)).spansNested = true := by decide +kernel
  have hfresh : ∀ d ∈ (optionsWith successMethod).namedChildren,
      d.entryKey? ≠ some successPair.pairKey := by
    intro d hd
    rw [List.mem_singleton.1 hd]
    decide
  obtain ⟨htoast, hreset⟩ := answers_respelled respelled_success h h' sameAround_success hfresh hapart
    hspans membersCalled_success (under_postPlace _)
  exact ⟨respelled_success, h, h', sameAround_success, hapart, hspans, membersCalled_success,
    under_postPlace _, fun settings => htoast settings none none .none,
    fun flag => hreset _ _ flag (by decide +kernel)⟩

/-- With the property as a method, neither the success message nor the flag that is switched off in the body
is found. -/
theorem method_overlooked :
    let settings : RuleSettings := ⟨3, true, [], [], [("successMethods", ["ok"])]⟩
    let f := root (arrowOver (postBlock successMethod))
    let f' := root (arrowOver (postBlock successPair))
    Node.Respelled successMethod successPair successFunction ∧
      SameAround (propertyPlace successMethod) (propertyPlace successPair) ∧
      reachesToast settings (postPlace successMethod) (some f) = false ∧
      reachesToast settings (postPlace successPair) (some f') = true ∧
      resetsAfter (postPlace successMethod) f.node "loading" = false ∧
      resetsAfter (postPlace successPair) f'.node "loading" = true :=
  ⟨respelled_success, sameAround_success, by decide +kernel, by decide +kernel, by decide +kernel,
    by decide +kernel⟩

end Callback

end Place

end UxLint
