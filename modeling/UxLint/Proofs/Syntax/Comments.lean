import UxLint.Proofs.Syntax.Inside
import UxLint.Syntax.Callee

/-!
# Trees without their comments

A grammar may put a comment between any two children of a node. Reading an expression looks at fields,
at the items of a list and at the first named child of a wrapper, and only the last of these can come
upon a comment. `commentsAside` says that it does not. Then a comment answers nothing: unwrapping, names,
literals and the keys of objects read the same off the tree without its comments.
-/

set_option autoImplicit false

namespace UxLint.Node

mutual

/-- The tree with the comments taken out of all its rows of children. -/
def withoutComments : Node → Node
  | node l cs => node l (withoutCommentsAll cs)

/-- The trees of several nodes without their comments, and without those of them that are comments. -/
def withoutCommentsAll : List Node → List Node
  | [] => []
  | c :: cs =>
    if c.isComment then withoutCommentsAll cs else withoutComments c :: withoutCommentsAll cs

end

mutual

/-- Whether no comment in the tree fills a field, and none comes first inside a wrapper. -/
def commentsAside : Node → Bool
  | node l cs =>
    (!wrapperKinds.contains l.kind || (cs.find? isNamed).all (!·.isComment)) && commentsAsideAll cs

/-- Whether none of several nodes is a comment in a field, and whether this holds inside them. -/
def commentsAsideAll : List Node → Bool
  | [] => true
  | c :: cs => (!c.isComment || c.label.field == "") && commentsAside c && commentsAsideAll cs

end

/-! ## The first of the children -/

/-- Of a row, the first named node is unwrapped. -/
theorem unwrapFirst?_eq (cs : List Node) :
    unwrapFirst? cs = (cs.find? isNamed).bind unwrap? := by
  induction cs with
  | nil => rfl
  | cons c cs ih =>
    rw [unwrapFirst?, List.find?_cons]
    cases c.isNamed with
    | true => rfl
    | false => exact ih

/-- The dotted name of a row is that of its first named node. -/
theorem dottedNameFirst_eq (cs : List Node) :
    dottedNameFirst cs = dottedNameOf (cs.find? isNamed) := by
  induction cs with
  | nil => rfl
  | cons c cs ih =>
    rw [dottedNameFirst, List.find?_cons]
    cases c.isNamed with
    | true => rfl
    | false => exact ih

/-- The dotted name in a field is that of the first node that fills it. -/
theorem dottedNameField_eq (field : String) (cs : List Node) :
    dottedNameField field cs = dottedNameOf (cs.find? fun c => c.label.field == field) := by
  induction cs with
  | nil => rfl
  | cons c cs ih =>
    rw [dottedNameField, List.find?_cons]
    cases c.label.field == field with
    | true => rfl
    | false => exact ih

/-- The truth value of a row is that of its first named node. -/
theorem booleanFirst?_eq (cs : List Node) :
    booleanFirst? cs = (cs.find? isNamed).bind booleanValue? := by
  induction cs with
  | nil => rfl
  | cons c cs ih =>
    rw [booleanFirst?, List.find?_cons]
    cases c.isNamed with
    | true => rfl
    | false => exact ih

/-- The negated truth value of an operand. -/
def negatedValue? (operand : Node) : Option Bool :=
  match isZero? operand with
  | some zero => some zero
  | none => (booleanValue? operand).map (!·)

/-- A negation has the opposite value of the first node that is its argument. -/
theorem negated?_eq (cs : List Node) :
    negated? cs = (cs.find? fun c => c.label.field == "argument").bind negatedValue? := by
  induction cs with
  | nil => rfl
  | cons c cs ih =>
    rw [negated?, List.find?_cons]
    cases c.label.field == "argument" with
    | true => rfl
    | false => exact ih

/-! ## Children without comments -/

/-- Without comments a node says the same about itself. -/
@[simp]
theorem label_withoutComments (n : Node) : n.withoutComments.label = n.label := by
  cases n
  rw [withoutComments]
  rfl

/-- Without comments a node is of the same kind. -/
@[simp]
theorem kind_withoutComments (n : Node) : n.withoutComments.kind = n.kind := by
  rw [kind, label_withoutComments, kind]

/-- Without comments a node keeps its text, comments included. -/
@[simp]
theorem text_withoutComments (n : Node) : n.withoutComments.text = n.text := by
  rw [text, label_withoutComments, text]

/-- Without comments a node is named if it was. -/
theorem isNamed_withoutComments (n : Node) : n.withoutComments.isNamed = n.isNamed := by
  rw [isNamed, label_withoutComments, isNamed]

/-- Without comments a member access is one. -/
@[simp]
theorem isMember_withoutComments (n : Node) : n.withoutComments.isMember = n.isMember := by
  rw [isMember, kind_withoutComments, isMember]

/-- Without comments a call is one. -/
@[simp]
theorem isCall_withoutComments (n : Node) : n.withoutComments.isCall = n.isCall := by
  rw [isCall, kind_withoutComments, isCall]

/-- A row loses its comments, and what is left loses those inside. -/
theorem withoutCommentsAll_eq (cs : List Node) :
    withoutCommentsAll cs = (cs.filter (!·.isComment)).map withoutComments := by
  induction cs with
  | nil => rfl
  | cons c cs ih =>
    rw [withoutCommentsAll, List.filter_cons]
    cases c.isComment with
    | true => exact ih
    | false => exact congrArg (withoutComments c :: ·) ih

/-- The children that are left are those that are no comments. -/
theorem children_withoutComments (n : Node) :
    n.withoutComments.children = (n.children.filter (!·.isComment)).map withoutComments := by
  cases n
  rw [withoutComments]
  exact withoutCommentsAll_eq _

/-- A search that does not stop at a comment stops at the same child without the comments. -/
theorem find?_withoutComments {p : Node → Bool} (hp : ∀ n, p n.withoutComments = p n)
    (cs : List Node) (h : ∀ c, cs.find? p = some c → c.isComment = false) :
    (withoutCommentsAll cs).find? p = (cs.find? p).map withoutComments := by
  induction cs with
  | nil => rfl
  | cons c cs ih =>
    rw [withoutCommentsAll]
    rw [List.find?_cons] at h ⊢
    cases hc : p c with
    | true =>
      rw [hc] at h
      rw [h c rfl, if_neg (by decide), List.find?_cons, hp, hc]
      rfl
    | false =>
      rw [hc] at h
      split
      · exact ih h
      · rw [List.find?_cons, hp, hc]
        exact ih h

/-- The named children that are left are those that are no comments. -/
theorem namedChildren_withoutComments (n : Node) :
    n.withoutComments.namedChildren = n.items.map withoutComments := by
  rw [namedChildren, children_withoutComments, List.filter_map, items, namedChildren,
    List.filter_filter, List.filter_filter]
  congr 2
  funext c
  rw [Function.comp_apply, isNamed_withoutComments, Bool.and_comm]

/-- What is no comment is kept. -/
theorem items_withoutComments (n : Node) :
    n.withoutComments.items = n.items.map withoutComments := by
  rw [items, namedChildren_withoutComments, List.filter_eq_self.2]
  intro c hc
  obtain ⟨d, hd, rfl⟩ := List.mem_map.1 hc
  rw [isComment, kind_withoutComments]
  exact (List.mem_filter.1 hd).2

/-! ## Comments that stand aside -/

/-- Comments stand aside in a row if they fill no field and stand aside in each of its nodes. -/
theorem of_commentsAsideAll {cs : List Node} (h : commentsAsideAll cs = true) {c : Node}
    (hc : c ∈ cs) : (c.isComment = true → c.label.field = "") ∧ c.commentsAside = true := by
  induction cs with
  | nil => cases hc
  | cons d cs ih =>
    rw [commentsAsideAll, Bool.and_eq_true, Bool.and_eq_true] at h
    rcases List.mem_cons.1 hc with rfl | hc
    · refine ⟨fun hcomment => ?_, h.1.2⟩
      have hfield := h.1.1
      rw [hcomment] at hfield
      simpa using hfield
    · exact ih h.2 hc

section Aside

variable {n c m : Node} (h : n.commentsAside = true)

include h

/-- If comments stand aside in a node, they do in its children, and none of them fills a field. -/
theorem commentsAside_child (hc : c ∈ n.children) :
    (c.isComment = true → c.label.field = "") ∧ c.commentsAside = true := by
  cases n
  rw [commentsAside, Bool.and_eq_true] at h
  exact of_commentsAsideAll h.2 hc

/-- The first named child of a wrapper is no comment. -/
theorem commentsAside_first (hwrapper : n.isWrapper = true) (hc : n.children.find? isNamed = some c) :
    c.isComment = false := by
  cases n
  rw [commentsAside, Bool.and_eq_true] at h
  have hfirst := h.1
  rw [isWrapper, kind, label] at hwrapper
  rw [children] at hc
  rw [hwrapper, hc] at hfirst
  simpa using hfirst

/-- If comments stand aside in a node, they do in all nodes inside of it. -/
theorem Inside.commentsAside (hm : n.Inside m) : m.commentsAside = true := by
  induction hm with
  | self => exact h
  | child _ hc ih => exact (commentsAside_child ih hc).2

/-- If comments stand aside in a node, they do in what fills a field. -/
theorem commentsAside_field? {name : String} (hc : n.field? name = some c) :
    c.commentsAside = true :=
  (commentsAside_child h (List.mem_of_find?_eq_some hc)).2

/-- A field is filled by the same node, as comments fill none. -/
theorem field?_withoutComments {name : String} (hname : name ≠ "") :
    n.withoutComments.field? name = (n.field? name).map withoutComments := by
  have hfind : ∀ c, n.children.find? (fun c => c.label.field == name) = some c →
      c.isComment = false := by
    intro c hc
    have hfield : c.label.field = name := by simpa using List.find?_some hc
    cases hcomment : c.isComment with
    | false => rfl
    | true =>
      have hempty := (commentsAside_child h (List.mem_of_find?_eq_some hc)).1 hcomment
      exact absurd (hfield.symm.trans hempty) hname
  cases n
  rw [withoutComments]
  exact find?_withoutComments (fun c => by rw [label_withoutComments]) _ hfind

/-- The text in a field is the same. -/
theorem fieldText_withoutComments {name : String} (hname : name ≠ "") :
    n.withoutComments.fieldText name = n.fieldText name := by
  unfold fieldText
  rw [field?_withoutComments h hname]
  cases n.field? name with
  | none => rfl
  | some c => exact text_withoutComments c

/-! ## What is read off a tree -/

/-- What is unwrapped is the same. -/
theorem unwrap?_withoutComments : n.withoutComments.unwrap? = n.unwrap?.map withoutComments := by
  induction n using induction_children with
  | h l cs ih =>
    rw [withoutComments, unwrap?, unwrap?]
    by_cases hwrapper : wrapperKinds.contains l.kind = true
    · rw [if_pos hwrapper, if_pos hwrapper, unwrapFirst?_eq, unwrapFirst?_eq,
        find?_withoutComments isNamed_withoutComments cs fun c => commentsAside_first h hwrapper]
      cases hc : cs.find? isNamed with
      | none => rfl
      | some c =>
        have hmem : c ∈ cs := List.mem_of_find?_eq_some hc
        exact ih c hmem (commentsAside_child h hmem).2
    · rw [if_neg hwrapper, if_neg hwrapper, Option.map_some, withoutComments]

/-- If comments stand aside in a node, they do in what it wraps. -/
theorem commentsAside_unwrap? (hm : n.unwrap? = some m) : m.commentsAside = true := by
  induction n using induction_children with
  | h l cs ih =>
    rw [unwrap?, unwrapFirst?_eq] at hm
    split at hm
    · obtain ⟨c, hc, hm⟩ := Option.bind_eq_some_iff.1 hm
      have hmem : c ∈ cs := List.mem_of_find?_eq_some hc
      exact ih c hmem (commentsAside_child h hmem).2 hm
    · cases hm
      exact h

/-- The dotted name is the same. -/
theorem dottedName_withoutComments : n.withoutComments.dottedName = n.dottedName := by
  induction n using induction_children with
  | h l cs ih =>
    have hfield : ∀ name, name ≠ "" →
        dottedNameOf ((withoutCommentsAll cs).find? fun c => c.label.field == name) =
          dottedNameOf (cs.find? fun c => c.label.field == name) := by
      intro name hname
      have hmap := field?_withoutComments h hname
      rw [withoutComments] at hmap
      dsimp only [field?, children] at hmap
      rw [hmap]
      cases hc : cs.find? fun c => c.label.field == name with
      | none => rfl
      | some c =>
        have hmem : c ∈ cs := List.mem_of_find?_eq_some hc
        exact ih c hmem (commentsAside_child h hmem).2
    have htext := fieldText_withoutComments h (show "property" ≠ "" by decide)
    rw [withoutComments] at htext ⊢
    rw [dottedName, dottedName, dottedNameFirst_eq, dottedNameFirst_eq, dottedNameField_eq,
      dottedNameField_eq, dottedNameField_eq, dottedNameField_eq, htext, hfield "object" (by decide),
      hfield (targetField l.kind) (by unfold targetField; split <;> decide)]
    by_cases hwrapper : wrapperKinds.contains l.kind = true
    · rw [if_pos hwrapper, if_pos hwrapper,
        find?_withoutComments isNamed_withoutComments cs fun c => commentsAside_first h hwrapper]
      cases hc : cs.find? isNamed with
      | none => rfl
      | some c =>
        have hmem : c ∈ cs := List.mem_of_find?_eq_some hc
        exact ih c hmem (commentsAside_child h hmem).2
    · rw [if_neg hwrapper, if_neg hwrapper]

/-- The value of a string is the same. -/
theorem stringValue?_withoutComments : n.withoutComments.stringValue? = n.stringValue? := by
  unfold stringValue?
  rw [unwrap?_withoutComments h]
  cases n.unwrap? with
  | none => rfl
  | some m =>
    have hpieces : (m.withoutComments.namedChildren.any fun c => c.kind == "template_substitution") =
        m.namedChildren.any fun c => c.kind == "template_substitution" := by
      rw [namedChildren_withoutComments, List.any_map, items, List.any_filter]
      congr 1
      funext c
      rw [Function.comp_apply, kind_withoutComments, isComment]
      by_cases hkind : c.kind = "template_substitution"
      · rw [hkind]
        rfl
      · simp [hkind]
    dsimp only [Option.map_some]
    rw [kind_withoutComments, text_withoutComments, hpieces]

/-- A number is zero if it was. -/
theorem isZero?_withoutComments : n.withoutComments.isZero? = n.isZero? := by
  unfold isZero?
  rw [unwrap?_withoutComments h]
  cases n.unwrap? with
  | none => rfl
  | some m =>
    dsimp only [Option.map_some]
    rw [kind_withoutComments, text_withoutComments]

/-- The truth value is the same. -/
theorem booleanValue?_withoutComments : n.withoutComments.booleanValue? = n.booleanValue? := by
  induction n using induction_children with
  | h l cs ih =>
    have htext := fieldText_withoutComments h (show "operator" ≠ "" by decide)
    have hargument := field?_withoutComments h (show "argument" ≠ "" by decide)
    rw [withoutComments] at htext hargument ⊢
    have hnegated : negated? (withoutCommentsAll cs) = negated? cs := by
      dsimp only [field?, children] at hargument
      rw [negated?_eq, negated?_eq, hargument]
      cases hc : cs.find? fun c => c.label.field == "argument" with
      | none => rfl
      | some c =>
        have hmem : c ∈ cs := List.mem_of_find?_eq_some hc
        have haside := (commentsAside_child h hmem).2
        rw [Option.map_some, Option.bind_some, Option.bind_some]
        unfold negatedValue?
        rw [isZero?_withoutComments haside, ih c hmem haside]
    rw [booleanValue?, booleanValue?, booleanFirst?_eq, booleanFirst?_eq, htext, hnegated]
    by_cases hwrapper : wrapperKinds.contains l.kind = true
    · rw [if_pos hwrapper, if_pos hwrapper,
        find?_withoutComments isNamed_withoutComments cs fun c => commentsAside_first h hwrapper]
      cases hc : cs.find? isNamed with
      | none => rfl
      | some c =>
        have hmem : c ∈ cs := List.mem_of_find?_eq_some hc
        exact ih c hmem (commentsAside_child h hmem).2
    · rw [if_neg hwrapper, if_neg hwrapper]

/-- What a call calls is the same. -/
theorem callTarget?_withoutComments :
    n.withoutComments.callTarget? = n.callTarget?.map withoutComments := by
  unfold callTarget?
  rw [kind_withoutComments, field?_withoutComments h]
  unfold targetField
  split <;> decide

/-- What stands behind wrappers is the same. -/
theorem target?_withoutComments : n.withoutComments.target? = n.target?.map withoutComments := by
  unfold target? unwrapped
  rw [callTarget?_withoutComments h]
  cases hc : n.callTarget? with
  | none => rfl
  | some c => exact unwrap?_withoutComments (commentsAside_field? h hc)

/-- If comments stand aside in a call, they do in what it calls. -/
theorem commentsAside_target? (hm : n.target? = some m) : m.commentsAside = true := by
  obtain ⟨c, hc, hm⟩ := Option.bind_eq_some_iff.1 hm
  exact commentsAside_unwrap? (commentsAside_field? h hc) hm

/-- The dotted name in a field is the same. -/
theorem dottedNameOf_field?_withoutComments {name : String} (hname : name ≠ "") :
    dottedNameOf (n.withoutComments.field? name) = dottedNameOf (n.field? name) := by
  rw [field?_withoutComments h hname]
  cases hc : n.field? name with
  | none => rfl
  | some c => exact dottedName_withoutComments (commentsAside_field? h hc)

/-- The arguments of a call are the same. -/
theorem arguments_withoutComments :
    n.withoutComments.arguments = n.arguments.map withoutComments := by
  unfold arguments
  rw [field?_withoutComments h (by decide)]
  cases n.field? "arguments" with
  | none => rfl
  | some args => exact items_withoutComments args

/-- If comments stand aside in a call, they do in its arguments. -/
theorem commentsAside_argument (hc : c ∈ n.arguments) : c.commentsAside = true := by
  unfold arguments at hc
  cases hargs : n.field? "arguments" with
  | none => simp [hargs] at hc
  | some args =>
    simp only [hargs] at hc
    have hinside : args.Inside c := Inside.self.item hc
    exact hinside.commentsAside (commentsAside_field? h hargs)

/-- The key of a pair is the same. -/
theorem pairKey_withoutComments : n.withoutComments.pairKey = n.pairKey := by
  unfold pairKey
  rw [field?_withoutComments h (by decide), fieldText_withoutComments h (by decide)]
  cases hc : n.field? "key" with
  | none => rfl
  | some c =>
    rw [Option.map_some, stringValueOf?, stringValueOf?, Option.bind_some, Option.bind_some,
      stringValue?_withoutComments (commentsAside_field? h hc)]

end Aside

/-! ## The keys of objects -/

/-- The entries of an object with the comments taken out of their values. -/
def entriesWithoutComments (keys : List (String × Option Node)) : List (String × Option Node) :=
  keys.map fun e => (e.1, e.2.map withoutComments)

/-- To put a value under a key commutes with leaving out comments. -/
theorem putKey_entriesWithoutComments (key : String) (value : Option Node)
    (keys : List (String × Option Node)) :
    putKey key (value.map withoutComments) (entriesWithoutComments keys) =
      entriesWithoutComments (putKey key value keys) := by
  induction keys with
  | nil => rfl
  | cons e keys ih =>
    rw [entriesWithoutComments, List.map_cons, putKey, putKey]
    split
    · rfl
    · exact congrArg (_ :: ·) ih

/-- The entries after one more child of an object. -/
def withEntry (keys : List (String × Option Node)) (c : Node) : List (String × Option Node) :=
  if c.kind == "pair" then putKey c.pairKey (c.field? "value") keys
  else if c.kind == "shorthand_property_identifier" then putKey c.text (some c) keys
  else keys

/-- A comment adds no entry to an object. -/
theorem withEntry_comment (keys : List (String × Option Node)) {c : Node}
    (hc : c.isComment = true) : withEntry keys c = keys := by
  rw [isComment, beq_iff_eq] at hc
  rw [withEntry, hc]
  rfl

/-- To add an entry commutes with leaving out comments. -/
theorem withEntry_withoutComments (keys : List (String × Option Node)) {c : Node}
    (h : c.commentsAside = true) :
    withEntry (entriesWithoutComments keys) c.withoutComments =
      entriesWithoutComments (withEntry keys c) := by
  rw [withEntry, withEntry, kind_withoutComments, text_withoutComments, pairKey_withoutComments h,
    field?_withoutComments h (by decide)]
  split
  · exact putKey_entriesWithoutComments _ _ _
  · split
    · exact putKey_entriesWithoutComments _ (some c) _
    · rfl

/-- The entries of a row are those of the row without its comments. -/
theorem foldl_withEntry_withoutComments (cs : List Node)
    (h : ∀ c ∈ cs, c.commentsAside = true) (keys : List (String × Option Node)) :
    ((cs.filter (!·.isComment)).map withoutComments).foldl withEntry (entriesWithoutComments keys) =
      entriesWithoutComments (cs.foldl withEntry keys) := by
  induction cs generalizing keys with
  | nil => rfl
  | cons c cs ih =>
    have hrest : ∀ d ∈ cs, d.commentsAside = true := fun d hd => h d (List.mem_cons_of_mem c hd)
    rw [List.filter_cons, List.foldl_cons]
    cases hc : c.isComment with
    | true =>
      rw [withEntry_comment keys hc]
      exact ih hrest keys
    | false =>
      rw [Bool.not_false, if_pos rfl, List.map_cons, List.foldl_cons,
        withEntry_withoutComments keys (h c List.mem_cons_self)]
      exact ih hrest _

/-- The keys of an object are the same. -/
theorem objectKeys_withoutComments {n : Node} (h : n.commentsAside = true) :
    n.withoutComments.objectKeys = entriesWithoutComments n.objectKeys := by
  unfold objectKeys
  rw [unwrap?_withoutComments h]
  cases hm : n.unwrap? with
  | none => rfl
  | some m =>
    have haside := commentsAside_unwrap? h hm
    dsimp only [Option.map_some]
    rw [kind_withoutComments, namedChildren_withoutComments, items]
    split
    · refine foldl_withEntry_withoutComments m.namedChildren (fun c hc => ?_) []
      exact (commentsAside_child haside (List.mem_filter.1 hc).1).2
    · rfl

/-- If comments stand aside in a value and in those under other keys, they do in all of them. -/
theorem commentsAside_putKey {key : String} {value : Option Node}
    {keys : List (String × Option Node)} (hvalue : ∀ v ∈ value, v.commentsAside = true)
    (hkeys : ∀ e ∈ keys, ∀ v ∈ e.2, v.commentsAside = true) :
    ∀ e ∈ putKey key value keys, ∀ v ∈ e.2, v.commentsAside = true := by
  induction keys with
  | nil =>
    intro e he
    rw [putKey, List.mem_singleton] at he
    exact he ▸ hvalue
  | cons d keys ih =>
    have hrest := ih fun e he => hkeys e (List.mem_cons_of_mem d he)
    intro e he
    rw [putKey] at he
    split at he
    · rcases List.mem_cons.1 he with rfl | he
      · exact hvalue
      · exact hkeys e (List.mem_cons_of_mem d he)
    · rcases List.mem_cons.1 he with rfl | he
      · exact hkeys e List.mem_cons_self
      · exact hrest e he

/-- Comments stand aside in the values of an object in which they stand aside. -/
theorem commentsAside_objectKeys {n : Node} (h : n.commentsAside = true) :
    ∀ e ∈ n.objectKeys, ∀ v ∈ e.2, v.commentsAside = true := by
  unfold objectKeys
  cases hm : n.unwrap? with
  | none => simp
  | some m =>
    have haside := commentsAside_unwrap? h hm
    dsimp only
    split
    · -- Every child of the object adds a value from inside the object.
      refine List.foldlRecOn (motive := fun keys => ∀ e ∈ keys, ∀ v ∈ e.2, v.commentsAside = true)
        m.namedChildren withEntry ?_ ?_
      · simp
      · intro keys hkeys c hc
        have hchild := (commentsAside_child haside (List.mem_filter.1 hc).1).2
        unfold withEntry
        split
        · exact commentsAside_putKey (fun v hv => commentsAside_field? hchild hv) hkeys
        · split
          · refine commentsAside_putKey (fun v hv => ?_) hkeys
            cases hv
            exact hchild
          · exact hkeys
    · simp

/-- The value under a key is the same. -/
theorem valueAt?_withoutComments (keys : List (String × Option Node)) (key : String) :
    valueAt? (entriesWithoutComments keys) key = (valueAt? keys key).map withoutComments := by
  unfold valueAt? entriesWithoutComments
  rw [List.find?_map]
  change ((keys.find? fun e => e.1 == key).map _).bind _ = _
  cases keys.find? fun e => e.1 == key <;> rfl

/-- The value under a key of an object, read as a string. -/
theorem stringValueOf?_valueAt?_withoutComments {n : Node} (h : n.commentsAside = true)
    (key : String) :
    stringValueOf? (valueAt? n.withoutComments.objectKeys key) =
      stringValueOf? (valueAt? n.objectKeys key) := by
  rw [objectKeys_withoutComments h, valueAt?_withoutComments]
  cases hv : valueAt? n.objectKeys key with
  | none => rfl
  | some v =>
    obtain ⟨e, he, hv⟩ := Option.bind_eq_some_iff.1 hv
    exact stringValue?_withoutComments
      (commentsAside_objectKeys h e (List.mem_of_find?_eq_some he) v hv)

end UxLint.Node
