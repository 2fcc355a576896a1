import UxLint.Proofs.Loading.Flow
import UxLint.Proofs.Pattern.Fitting
import UxLint.Proofs.Syntax.Surroundings

/-!
# Flags that protect a request

A busy flag protects a request if it is switched on in a statement before the request and off again in a
part that runs once the request has settled. `Assigns` lists the forms in which a flag is switched and
`Settled` the parts that run afterwards, both by the tree alone; `mem_protectedFlags` says that a flag which
is switched so is found to protect the request.
-/

set_option autoImplicit false

namespace UxLint.Loading

open Pattern

/-! ## The forms of an assignment -/

/-- The ways in which a node switches a flag by itself. -/
inductive Assigns (flag : String) (value : Bool) : Node → Prop where
  /-- The flag is a variable. -/
  | bare {n left target right : Node} (kind : n.kind = "assignment_expression")
      (left_field : n.field? "left" = some left) (unwraps : left.unwrap? = some target)
      (identifier : target.kind = "identifier") (text : target.text = flag) (nonempty : flag ≠ "")
      (right_field : n.field? "right" = some right) (truth : right.booleanValue? = some value) :
      Assigns flag value n
  /-- The flag is a member. -/
  | member {n left target right : Node} (kind : n.kind = "assignment_expression")
      (left_field : n.field? "left" = some left) (unwraps : left.unwrap? = some target)
      (selects : target.isMember = true) (property : target.fieldText "property" = flag)
      (nonempty : flag ≠ "") (right_field : n.field? "right" = some right)
      (truth : right.booleanValue? = some value) : Assigns flag value n
  /-- The flag is set by the setter of its name. -/
  | setter {call first : Node} {rest : List Node} {x : Char} {t : Text}
      (kind : call.kind = "call_expression") (arguments : call.arguments = first :: rest)
      (name : lastSegment call.targetName = String.ofList ("set".toList ++ x :: t))
      (upper : x.isUpper = true) (identifier : ∀ c ∈ t, Text.isIdentifier c = true)
      (names : flag = String.ofList (Text.lower [x] ++ t))
      (truth : first.booleanValue? = some value) : Assigns flag value call
  /-- The flag is a key of new state. -/
  | state {call first entry : Node} {rest : List Node} (kind : call.kind = "call_expression")
      (arguments : call.arguments = first :: rest)
      (name : lastSegment call.targetName = "setState") (key : (flag, some entry) ∈ first.objectKeys)
      (truth : entry.booleanValue? = some value) : Assigns flag value call

/-- A name that goes on with a capital letter behind `set` is that of a setter. -/
theorem isSetterName_of_eq {name : String} {x : Char} {t : Text}
    (hname : name = String.ofList ("set".toList ++ x :: t)) (hx : x.isUpper = true)
    (ht : ∀ c ∈ t, Text.isIdentifier c = true) : isSetterName name = true := by
  have htail : Fits (both (star (one Text.isIdentifier)) textEnd) (some x) t [] :=
    fits_both_iff.2 ⟨t, [], (List.append_nil t).symm, fits_many_one_iff.2 ht,
      fits_look_iff.2 ⟨rfl, rfl⟩⟩
  have hhead : Fits (both (one Char.isUpper) (both (star (one Text.isIdentifier)) textEnd))
      (lastOf none "set".toList) (x :: t) [] :=
    fits_both_iff.2 ⟨[x], t, rfl, fits_one_iff.2 ⟨x, rfl, hx⟩, htail⟩
  have hfits : Fits setterName none ("set".toList ++ x :: t) [] :=
    fits_both_iff.2 ⟨"set".toList, x :: t, rfl, fits_literal_iff.2 rfl, hhead⟩
  unfold isSetterName
  rw [match?_isSome_iff, hname, String.toList_ofList]
  exact ⟨"set".toList ++ x :: t, [], (List.append_nil _).symm, hfits⟩

/-- The flag of a setter is the rest of its name, with a small first letter. -/
theorem setterFlag_of_eq {name : String} {x : Char} {t : Text}
    (hname : name = String.ofList ("set".toList ++ x :: t)) :
    setterFlag name = String.ofList (Text.lower [x] ++ t) := by
  have hdrop : name.toList.drop 3 = x :: t := by
    rw [hname, String.toList_ofList]
    rfl
  rw [setterFlag, hdrop]

/-- What an unwrapped expression is, it is without another unwrapping. -/
theorem unwrap?_of_kind {n : Node} (h : Node.wrapperKinds.contains n.kind = false) :
    n.unwrap? = some n := by
  cases n with
  | node l cs => rw [Node.unwrap?, if_neg (by rw [Node.kind, Node.label] at h; rw [h]; decide)]

variable {flag : String} {value : Bool} {n : Node}

/-- An assignment of a truth value sets the flag that it assigns. -/
theorem flagsAt_assignment {left target right : Node} (kind : n.kind = "assignment_expression")
    (left_field : n.field? "left" = some left) (unwraps : left.unwrap? = some target)
    (name : assignedName target = flag) (nonempty : flag ≠ "")
    (right_field : n.field? "right" = some right) (truth : right.booleanValue? = some value) :
    flagsAt n = [⟨flag, value, n⟩] := by
  rw [flagsAt, if_pos (by rw [kind]; rfl), assignedFlag?, right_field, left_field]
  simp [Node.booleanValueOf?, Node.unwrapped, truth, unwraps, name, nonempty]

/-- A busy flag that a node switches in one of the forms is among the flags that it switches. -/
theorem Assigns.mem_flagsAt (h : Assigns flag value n) (hbusy : isBusyName flag = true) :
    ⟨flag, value, n⟩ ∈ flagsAt n := by
  cases h with
  | @bare left target right kind left_field unwraps identifier text nonempty right_field truth =>
    have hname : assignedName target = flag := by
      rw [assignedName, Node.memberProperty, unwrap?_of_kind (by rw [identifier]; decide)]
      simp [Node.isMember, identifier, text]
    rw [flagsAt_assignment kind left_field unwraps hname nonempty right_field truth]
    exact List.mem_singleton_self _
  | @member left target right kind left_field unwraps selects property nonempty right_field truth =>
    have hkind : target.kind = "member_expression" := beq_iff_eq.1 selects
    have hname : assignedName target = flag := by
      rw [assignedName, Node.memberProperty, unwrap?_of_kind (by rw [hkind]; decide)]
      simp [selects, property, nonempty]
    rw [flagsAt_assignment kind left_field unwraps hname nonempty right_field truth]
    exact List.mem_singleton_self _
  | @setter first rest x t kind arguments name upper identifier names truth =>
    -- The setter of the whole state would set a flag of another name.
    have hother : (lastSegment n.targetName == "setState") = false := by
      rw [beq_eq_false_iff_ne]
      intro heq
      rw [heq] at name
      have hstate : setterFlag "setState" = flag := (setterFlag_of_eq name).trans names.symm
      rw [← hstate] at hbusy
      exact absurd hbusy (by decide)
    rw [flagsAt, if_neg (by rw [kind]; decide), if_pos (by rw [kind]; rfl), calledFlags, arguments]
    dsimp only
    rw [hother, if_neg (by decide), isSetterName_of_eq name upper identifier, if_pos rfl, truth,
      setterFlag_of_eq name, names]
    exact List.mem_singleton_self _
  | @state first entry rest kind arguments name key truth =>
    rw [flagsAt, if_neg (by rw [kind]; decide), if_pos (by rw [kind]; rfl), calledFlags, arguments]
    dsimp only
    rw [name, if_pos (by decide)]
    refine List.mem_filterMap.2 ⟨(flag, some entry), key, ?_⟩
    simp [Node.booleanValueOf?, truth]

/-! ## The parts around a request -/

/-- The parts of a function that run once a call has settled: functions that are handed to the chain that
goes on from it, functions that it is handed itself or inside an object, the final parts of tries around
it, and, if it is awaited, the statements after it. -/
inductive Settled (wrappers : List String) (f c : Place) : Node → Prop where
  | chained {callback : Node}
      (chained : Place.Chained wrappers Place.promiseMethods c.node c.above callback) :
      Settled wrappers f c callback
  | passed {callback : Node} (handed : callback ∈ c.node.arguments)
      (function : callback.isFunction = true) : Settled wrappers f c callback
  | held {argument callback : Node} {key : String} (handed : argument ∈ c.node.arguments)
      (entry : (key, some callback) ∈ argument.objectKeys) (function : callback.isFunction = true) :
      Settled wrappers f c callback
  | final {body : Node} (inTry : Place.InTry f c body) : Settled wrappers f c body
  | later {before after : List Node} {s : Node} (awaited : Place.AwaitedThrough wrappers c.above)
      (inBlock : Place.InBlock f c before after) (after : s ∈ after) : Settled wrappers f c s

/-- A flag is switched on in a statement before a call. -/
def SwitchedOnBefore (f c : Place) (flag : String) : Prop :=
  ∃ before after, Place.InBlock f c before after ∧
    ∃ s ∈ before, ∃ n ∈ s.walk, Assigns flag true n

/-- A flag is switched off, under a name that may differ from its own in case, in a part that runs once a
call has settled. -/
def SwitchedOffAfter (wrappers : List String) (f c : Place) (flag : String) : Prop :=
  ∃ region, Settled wrappers f c region ∧
    ∃ n ∈ region.walk, ∃ name, Assigns name false n ∧ lowercase name = lowercase flag

variable {f c : Place} {region : Node}

/-- What runs once a call has settled is one of the settled regions. -/
theorem Settled.mem_settledRegions (h : Settled Place.chainWrappers f c region)
    (hspots : f.node.spotsApart = true) (hf : f.node.isFunction = true)
    (hcall : c.node.isCall = true) : region ∈ settledRegions c f.node := by
  unfold settledRegions
  simp only [List.mem_append]
  cases h with
  | chained chained =>
    obtain ⟨method, hmem⟩ := chained.mem_chainCallbacks
    exact .inl (.inl (.inl (List.mem_map.2 ⟨(method, region), hmem, rfl⟩)))
  | passed handed function =>
    exact .inl (.inl (.inr (List.mem_append_left _ (List.mem_filter.2 ⟨handed, function⟩))))
  | @held argument _ key handed entry function =>
    refine .inl (.inl (.inr (List.mem_append_right _ (List.mem_flatMap.2 ⟨argument, handed, ?_⟩))))
    exact List.mem_filterMap.2 ⟨(key, some region), entry, by simp [function]⟩
  | final inTry => exact .inr (inTry.mem_finalBodies hspots hf hcall)
  | later awaited inBlock after =>
    refine .inl (.inr ?_)
    rw [Place.isAwaited, awaited.awaitedBelow, if_pos rfl]
    exact inBlock.mem_statementsAfter hspots after

/-- A busy flag that is switched on before a request, and off again once it has settled, is found to protect
the request. -/
theorem mem_protectedFlags {r : Classifier} (hf : f.node.isFunction = true)
    (hspots : f.node.spotsApart = true) (hc : c ∈ r.requests f) (hbusy : isBusyName flag = true)
    (hon : SwitchedOnBefore f c flag) (hoff : SwitchedOffAfter Place.chainWrappers f c flag) :
    flag ∈ protectedFlags c f.node := by
  obtain ⟨before, after, hblock, s, hs, n, hn, hassigns⟩ := hon
  obtain ⟨region, hregion, k, hk, name, hreset, hname⟩ := hoff
  refine List.mem_filter.2 ⟨?_, ?_⟩
  · exact mem_flagsSetBefore_iff.2 ⟨hbusy, s, hblock.mem_statementsBefore hspots hs, _,
      List.mem_flatMap.2 ⟨n, hn, hassigns.mem_flagsAt hbusy⟩, rfl, rfl⟩
  · have hbusy' : isBusyName name = true := by
      unfold isBusyName at hbusy ⊢
      rwa [hname]
    refine List.any_eq_true.2 ⟨region,
      hregion.mem_settledRegions hspots hf (r.isCall_of_mem_requests hc), ?_⟩
    refine List.any_eq_true.2 ⟨_, List.mem_flatMap.2 ⟨k, hk, hreset.mem_flagsAt hbusy'⟩, ?_⟩
    simp [sameFlag, hname]

end UxLint.Loading
