import UxLint.Proofs.Request.Folding
import UxLint.Proofs.Syntax.Comments

/-!
# Requests and comments

The classifier reads calls through names, fields, arguments and the keys of objects, so comments that
stand aside cannot be seen in any of its answers (`withoutComments_answers` is the top). A comment that
comes first inside parentheses, or behind an await, is taken for what it stands beside, and a call of what
such a wrapper holds is then no request (`comment_hides_request`).
-/

set_option autoImplicit false

namespace UxLint

open Node

namespace Request

section Targets

variable {t : Node} (h : t.commentsAside = true)

include h

/-- The property of a called member is the same. -/
theorem propertyName_withoutComments : propertyName t.withoutComments = propertyName t :=
  fieldText_withoutComments h (by decide)

/-- The owner of a called member is the same. -/
theorem ownerName_withoutComments : ownerName t.withoutComments = ownerName t :=
  dottedNameOf_field?_withoutComments h (by decide)

/-- A call of an action of the props is one without its comments. -/
theorem isPropsAction_withoutComments : isPropsAction t.withoutComments = isPropsAction t := by
  unfold isPropsAction
  rw [isMember_withoutComments, propertyName_withoutComments h, ownerName_withoutComments h]

/-- A call of a client is one without its comments. -/
theorem isHttpClient_withoutComments : isHttpClient t.withoutComments = isHttpClient t := by
  have howner : ((unwrapped (t.withoutComments.field? "object")).any fun o =>
      o.kind == "identifier" && o.text == "http") =
      (unwrapped (t.field? "object")).any fun o => o.kind == "identifier" && o.text == "http" := by
    rw [field?_withoutComments h (by decide)]
    cases hc : t.field? "object" with
    | none => rfl
    | some c =>
      rw [Option.map_some, unwrapped, unwrapped, Option.bind_some, Option.bind_some,
        unwrap?_withoutComments (commentsAside_field? h hc)]
      cases c.unwrap? with
      | none => rfl
      | some o => simp
  unfold isHttpClient
  rw [isMember_withoutComments, propertyName_withoutComments h, howner]

/-- A call of a component's client is one without its comments. -/
theorem isVueHttp_withoutComments : isVueHttp t.withoutComments = isVueHttp t := by
  unfold isVueHttp
  rw [isMember_withoutComments, propertyName_withoutComments h, ownerName_withoutComments h]

/-- A call of an asynchronous request is one without its comments. -/
theorem isAjax_withoutComments : isAjax t.withoutComments = isAjax t := by
  unfold isAjax
  rw [isMember_withoutComments, propertyName_withoutComments h, ownerName_withoutComments h]

/-- A call of a request object is one without its comments. -/
theorem isRequestObject_withoutComments :
    isRequestObject t.withoutComments = isRequestObject t := by
  unfold isRequestObject
  rw [isMember_withoutComments, propertyName_withoutComments h, ownerName_withoutComments h]

/-- A dispatch of the props is one without its comments. -/
theorem isPropsDispatch_withoutComments {call : Node} (hcall : call.commentsAside = true) :
    isPropsDispatch t.withoutComments call.withoutComments = isPropsDispatch t call := by
  unfold isPropsDispatch
  rw [dottedName_withoutComments h, arguments_withoutComments hcall]
  cases hargs : call.arguments with
  | nil => rfl
  | cons a rest =>
    have ha : a.commentsAside = true := commentsAside_argument hcall (hargs ▸ List.mem_cons_self)
    rw [List.map_cons]
    dsimp only
    rw [objectKeys_withoutComments ha, entriesWithoutComments, List.any_map]
    rfl

end Targets

/-- A bare name is one without its comments. -/
theorem isBare_withoutComments (t : Node) (name : String) :
    isBare t.withoutComments name = isBare t name := by
  unfold isBare
  rw [kind_withoutComments, text_withoutComments]

/-- The first answer over changed items is that over the items if each answers alike. -/
theorem findSome?_map_of_mem {α β γ : Type} {f : α → β} {g : β → Option γ} {k : α → Option γ}
    {l : List α} (h : ∀ a ∈ l, g (f a) = k a) : (l.map f).findSome? g = l.findSome? k := by
  induction l with
  | nil => rfl
  | cons a l ih =>
    rw [List.map_cons, List.findSome?_cons, List.findSome?_cons, h a List.mem_cons_self,
      ih fun b hb => h b (List.mem_cons_of_mem a hb)]

section Calls

variable {call : Node} (h : call.commentsAside = true)

include h

/-- A test on targets that sees no comments says the same of the target of a call without them. -/
theorem any_target?_withoutComments {test test' : Node → Bool}
    (htest : ∀ t : Node, t.commentsAside = true → test' t.withoutComments = test t) :
    call.withoutComments.target?.any test' = call.target?.any test := by
  rw [target?_withoutComments h]
  cases ht : call.target? with
  | none => rfl
  | some t => exact htest t (commentsAside_target? h ht)

/-- The name of what is called is the same. -/
theorem targetName_withoutComments : call.withoutComments.targetName = call.targetName := by
  unfold targetName
  rw [callTarget?_withoutComments h]
  cases ht : call.callTarget? with
  | none => rfl
  | some t => exact dottedName_withoutComments (commentsAside_field? h ht)

/-- A call has the same shapes. -/
theorem shapes_withoutComments (keywords : List String) :
    shapes keywords call.withoutComments = shapes keywords call := by
  unfold shapes
  dsimp only
  rw [targetName_withoutComments h,
    any_target?_withoutComments h fun _ => isPropsAction_withoutComments,
    any_target?_withoutComments h fun _ => isHttpClient_withoutComments,
    any_target?_withoutComments h fun _ => isVueHttp_withoutComments,
    any_target?_withoutComments h fun _ => isAjax_withoutComments,
    any_target?_withoutComments h fun t _ => isBare_withoutComments t "axios",
    any_target?_withoutComments h fun t _ => isBare_withoutComments t "fetch",
    any_target?_withoutComments h fun t _ => isBare_withoutComments t "fetchDataApi",
    any_target?_withoutComments h fun _ ht => isPropsDispatch_withoutComments ht h,
    any_target?_withoutComments h fun _ => isRequestObject_withoutComments]

/-- A call calls the same action. -/
theorem actionName?_withoutComments : actionName? call.withoutComments = actionName? call := by
  unfold actionName?
  rw [target?_withoutComments h]
  cases ht : call.target? with
  | none => rfl
  | some t =>
    dsimp only [Option.map_some]
    rw [isMember_withoutComments, propertyName_withoutComments (commentsAside_target? h ht),
      kind_withoutComments, text_withoutComments]

/-- A call calls the same method. -/
theorem methodName_withoutComments : methodName call.withoutComments = methodName call := by
  unfold methodName
  rw [isCall_withoutComments, dottedName_withoutComments h]

/-- A dispatch has the same verb. -/
theorem dispatchVerb_withoutComments : dispatchVerb call.withoutComments = dispatchVerb call := by
  unfold dispatchVerb
  rw [arguments_withoutComments h]
  cases hargs : call.arguments with
  | nil => rfl
  | cons a rest =>
    have ha : a.commentsAside = true := commentsAside_argument h (hargs ▸ List.mem_cons_self)
    rw [List.map_cons]
    dsimp only
    rw [stringValueOf?_valueAt?_withoutComments ha]

/-- Options name the same verb. -/
theorem optionsVerb_withoutComments : optionsVerb call.withoutComments = optionsVerb call := by
  unfold optionsVerb
  rw [arguments_withoutComments h]
  refine findSome?_map_of_mem fun a ha => ?_
  congr 1
  funext field
  unfold verbOfField
  rw [stringValueOf?_valueAt?_withoutComments (commentsAside_argument h ha)]

end Calls

end Request

namespace Classifier

open Request

variable (r : Classifier) {n : Node} (h : n.commentsAside = true)

include h

/-- A call is classified as before. -/
theorem classify_withoutComments : r.classify n.withoutComments = r.classify n := by
  have htarget : textOf n.withoutComments.callTarget? = textOf n.callTarget? := by
    rw [callTarget?_withoutComments h]
    cases n.callTarget? with
    | none => rfl
    | some t => exact text_withoutComments t
  unfold classify
  rw [kind_withoutComments, htarget, shapes_withoutComments h]

/-- A call has the same verb. -/
theorem mutationVerb?_withoutComments : r.mutationVerb? n.withoutComments = r.mutationVerb? n := by
  unfold mutationVerb? isRequest
  rw [kind_withoutComments, classify_withoutComments r h, methodName_withoutComments h,
    dispatchVerb_withoutComments h, actionName?_withoutComments h, optionsVerb_withoutComments h]

/-- Where comments stand aside, a node answers all questions about calls as it does without them. -/
theorem withoutComments_answers :
    n.withoutComments.unwrap? = n.unwrap?.map withoutComments ∧
      n.withoutComments.dottedName = n.dottedName ∧
      n.withoutComments.stringValue? = n.stringValue? ∧
      n.withoutComments.booleanValue? = n.booleanValue? ∧
      n.withoutComments.objectKeys = entriesWithoutComments n.objectKeys ∧
      r.classify n.withoutComments = r.classify n ∧
      actionName? n.withoutComments = actionName? n ∧
      r.mutationVerb? n.withoutComments = r.mutationVerb? n :=
  ⟨unwrap?_withoutComments h, dottedName_withoutComments h, stringValue?_withoutComments h,
    booleanValue?_withoutComments h, objectKeys_withoutComments h, r.classify_withoutComments h,
    actionName?_withoutComments h, r.mutationVerb?_withoutComments h⟩

end Classifier

/-! ## A comment before a name -/

namespace Node

/-- A request whose argument has a comment before it. -/
def commentedArgument : Node :=
  onFirstRow "call_expression" "" "fetch(/* list */ url)" 0
    [onFirstRow "identifier" "function" "fetch" 0 [],
      onFirstRow "arguments" "arguments" "(/* list */ url)" 5
        [onFirstRow "comment" "" "/* list */" 6 [], onFirstRow "identifier" "" "url" 17 []]]

/-- A request whose target stands in parentheses, with a comment before it. -/
def commentedTarget : Node :=
  onFirstRow "call_expression" "" "(/* call */ fetch)(url)" 0
    [onFirstRow "parenthesized_expression" "function" "(/* call */ fetch)" 0
      [onFirstRow "comment" "" "/* call */" 1 [], onFirstRow "identifier" "" "fetch" 12 []],
      onFirstRow "arguments" "arguments" "(url)" 18 [onFirstRow "identifier" "" "url" 19 []]]

end Node

namespace Classifier

open Request

/-- A comment among the arguments cannot be seen. -/
theorem withoutComments_answers_argument :
    commentedArgument.commentsAside = true ∧
      commentedArgument.withoutComments.unwrap? =
        commentedArgument.unwrap?.map withoutComments ∧
      commentedArgument.withoutComments.dottedName = commentedArgument.dottedName ∧
      commentedArgument.withoutComments.stringValue? = commentedArgument.stringValue? ∧
      commentedArgument.withoutComments.booleanValue? = commentedArgument.booleanValue? ∧
      commentedArgument.withoutComments.objectKeys =
        entriesWithoutComments commentedArgument.objectKeys ∧
      (ofWords []).classify commentedArgument.withoutComments =
        (ofWords []).classify commentedArgument ∧
      actionName? commentedArgument.withoutComments = actionName? commentedArgument ∧
      (ofWords []).mutationVerb? commentedArgument.withoutComments =
        (ofWords []).mutationVerb? commentedArgument :=
  ⟨rfl, (ofWords []).withoutComments_answers rfl⟩

/-- A comment before a target in parentheses turns a request into a call that is none. -/
theorem comment_hides_request :
    commentedTarget.isComment = false ∧ (ofWords []).classify commentedTarget = none ∧
      (ofWords []).classify commentedTarget.withoutComments = some .fetch := by
  decide +kernel

end Classifier

end UxLint
