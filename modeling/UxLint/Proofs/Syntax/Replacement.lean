import UxLint.Proofs.Syntax.Chains
import UxLint.Proofs.Syntax.StatementOrder

/-!
# One node in place of another

Two places have the same surroundings (`SameAround`) if the nodes above them differ in nothing but their
texts and in what they hold where the places are. What runs once a call has settled, its own arguments
aside, is told from the surroundings alone: calls that cover the same octets in the same surroundings have
the same callbacks in their chains, are both awaited or both not, and have the same statements and the same
final parts behind them.
-/

set_option autoImplicit false

namespace UxLint

/-- Two nodes say the same about themselves, their first and last octets included, but for their rows and texts. -/
structure Node.Alike (n n' : Node) : Prop where
  kind : n.kind = n'.kind
  field : n.label.field = n'.label.field
  named : n.isNamed = n'.isNamed
  start : n.start = n'.start
  stop : n.stop = n'.stop

instance (n n' : Node) : Decidable (n.Alike n') :=
  decidable_of_iff (n.kind = n'.kind ∧ n.label.field = n'.label.field ∧ n.isNamed = n'.isNamed ∧
      n.start = n'.start ∧ n.stop = n'.stop)
    ⟨fun ⟨kind, field, named, start, stop⟩ => ⟨kind, field, named, start, stop⟩,
      fun h => ⟨h.kind, h.field, h.named, h.start, h.stop⟩⟩

namespace Node.Alike

variable {n n' m m' : Node}

/-- Nodes that say the same about themselves look alike. -/
theorem sameSpot (h : n.Alike n') : n.sameSpot n' = true := by
  simp [Node.sameSpot, h.kind, h.start, h.stop]

/-- Of two such nodes, both are comments or none is. -/
theorem isComment (h : n.Alike n') : n.isComment = n'.isComment := by
  rw [Node.isComment, Node.isComment, h.kind]

/-- Of two such nodes, both are members or none is. -/
theorem isMember (h : n.Alike n') : n.isMember = n'.isMember := by
  rw [Node.isMember, Node.isMember, h.kind]

/-- Such nodes cover each other alike. -/
theorem covers (h : n.Alike n') (hm : m.Alike m') : n.covers m = n'.covers m' := by
  rw [Node.covers, Node.covers, h.start, h.stop, hm.start, hm.stop]

end Node.Alike

/-- Nodes that look alike look like the same nodes. -/
theorem Node.sameSpot_congr {a a' b b' : Node} (ha : a.sameSpot a' = true)
    (hb : b.sameSpot b' = true) : a.sameSpot b = a'.sameSpot b' := by
  simp only [sameSpot, Bool.and_eq_true, beq_iff_eq] at ha hb
  rw [sameSpot, sameSpot, ha.1.1, ha.1.2, ha.2, hb.1.1, hb.1.2, hb.2]

namespace Node

/-- A node and another one hold the same children, but for `c` in the one and `c'` in the other. -/
inductive SwapsChild (c c' : Node) (n n' : Node) : Prop where
  | intro {before after : List Node} (children : n.children = before ++ c :: after)
      (children' : n'.children = before ++ c' :: after) : SwapsChild c c' n n'

/-- What fills a field is in that field. -/
theorem field_of_field? {n c : Node} {name : String} (h : n.field? name = some c) :
    c.label.field = name :=
  beq_iff_eq.1 (List.find?_some (p := fun d : Node => d.label.field == name) h)

namespace SwapsChild

variable {c c' n n' : Node}

/-- What is swapped is a child. -/
theorem mem (h : SwapsChild c c' n n') : c ∈ n.children := by
  obtain ⟨children, -⟩ := h
  rw [children]
  simp

/-- A field is filled alike in both nodes, unless it is the child that fills it in both. -/
theorem field?_eq (h : SwapsChild c c' n n') (hfield : c.label.field = c'.label.field)
    (name : String) :
    n.field? name = n'.field? name ∨ n.field? name = some c ∧ n'.field? name = some c' := by
  obtain @⟨before, after, children, children'⟩ := h
  unfold field?
  rw [children, children', List.find?_append, List.find?_append, List.find?_cons, List.find?_cons,
    hfield]
  cases before.find? fun d => d.label.field == name with
  | some d => exact .inl rfl
  | none =>
    cases c'.label.field == name with
    | true => exact .inr ⟨rfl, rfl⟩
    | false => exact .inl rfl

/-- The named children are the same but for the one that is swapped. -/
theorem namedChildren_eq (h : SwapsChild c c' n n') (hc : c.isNamed = true)
    (hc' : c'.isNamed = true) :
    ∃ front back, n.namedChildren = front ++ c :: back ∧ n'.namedChildren = front ++ c' :: back := by
  obtain @⟨before, after, children, children'⟩ := h
  refine ⟨before.filter isNamed, after.filter isNamed, ?_, ?_⟩
  · rw [namedChildren, children, List.filter_append, List.filter_cons_of_pos hc]
  · rw [namedChildren, children', List.filter_append, List.filter_cons_of_pos hc']

/-- The items are the same but for the one that is swapped. -/
theorem items_eq (h : SwapsChild c c' n n') (hc : c.isNamed = true) (hc' : c'.isNamed = true)
    (hcomment : c.isComment = false) (hcomment' : c'.isComment = false) :
    ∃ front back, n.items = front ++ c :: back ∧ n'.items = front ++ c' :: back := by
  obtain ⟨front, back, children, children'⟩ := h.namedChildren_eq hc hc'
  refine ⟨front.filter fun d => !d.isComment, back.filter fun d => !d.isComment, ?_, ?_⟩
  · rw [items, children, List.filter_append, List.filter_cons_of_pos (by rw [hcomment]; rfl)]
  · rw [items, children', List.filter_append, List.filter_cons_of_pos (by rw [hcomment']; rfl)]

/-- A comment is no item, so where it stands does not matter. -/
theorem items_eq_of_isComment (h : SwapsChild c c' n n') (hc : c.isNamed = true)
    (hc' : c'.isNamed = true) (hcomment : c.isComment = true) (hcomment' : c'.isComment = true) :
    n.items = n'.items := by
  obtain ⟨front, back, children, children'⟩ := h.namedChildren_eq hc hc'
  rw [items, items, children, children', List.filter_append, List.filter_append,
    List.filter_cons_of_neg (by simp [hcomment]), List.filter_cons_of_neg (by simp [hcomment'])]

end SwapsChild

/-- Where no child looks like a sibling, no item does. -/
theorem pairwise_items_of_childrenApart {n m : Node} (h : n.childrenApart = true) (hm : m ∈ n.walk) :
    m.items.Pairwise fun a b => a.sameSpot b = false :=
  ((of_decide_eq_true (List.all_eq_true.1 h m hm)).filter _).filter _

end Node

namespace Place

/-- Two places have the same surroundings: what stands above the one stands above the other, with other
texts and another node where the places are. What stands above covers the same octets in both trees, and so do
the siblings of the places: one spelling is put for another of the same length, and nothing is shifted. -/
inductive SameAround : Place → Place → Prop where
  | top {n n' : Node} : SameAround (root n) (root n')
  | within {m m' n n' : Node} {rest rest' : List Node} (around : SameAround ⟨m, rest⟩ ⟨m', rest'⟩)
      (alike : m.Alike m') (swaps : Node.SwapsChild n n' m m') :
      SameAround ⟨n, m :: rest⟩ ⟨n', m' :: rest'⟩

/-- The surroundings of a child of a place. -/
theorem SameAround.parent {c c' q q' : Place} (h : SameAround c c') (hc : c ∈ q.namedChildren)
    (hc' : c' ∈ q'.namedChildren) :
    SameAround q q' ∧ q.node.Alike q'.node ∧ Node.SwapsChild c.node c'.node q.node q'.node := by
  obtain ⟨n, -, rfl⟩ := List.mem_map.1 hc
  obtain ⟨n', -, rfl⟩ := List.mem_map.1 hc'
  cases h with
  | within around alike swaps => exact ⟨around, alike, swaps⟩

variable {c c' : Place} {tree stop stop' x x' : Node}

namespace SameAround

/-! ## Being awaited -/

/-- In the same surroundings both are awaited or none is. -/
theorem isAwaited_eq (h : SameAround c c') : c.isAwaited = c'.isAwaited := by
  unfold isAwaited
  induction h with
  | top => rfl
  | @within m m' n n' rest rest' _ alike _ ih =>
    change Node.awaitedBelow rest = Node.awaitedBelow rest' at ih
    change Node.awaitedBelow (m :: rest) = Node.awaitedBelow (m' :: rest')
    rw [Node.awaitedBelow, Node.awaitedBelow, alike.kind, ih]

/-! ## Statements behind -/

/-- The items of a block behind a child of it are those behind the child that stands there instead. -/
theorem itemsAfter_eq {m m' n n' : Node} (swaps : Node.SwapsChild n n' m m') (alike : n.Alike n')
    (hapart : m.items.Pairwise fun a b => a.sameSpot b = false) (hnamed : n.isNamed = true) :
    itemsAfter m n = itemsAfter m' n' := by
  have hlooks : ∀ s : Node, s.sameSpot n = s.sameSpot n' := fun s =>
    Node.sameSpot_congr s.sameSpot_self alike.sameSpot
  have hnamed' : n'.isNamed = true := alike.named ▸ hnamed
  cases hcomment : n.isComment with
  | true =>
    unfold itemsAfter
    rw [swaps.items_eq_of_isComment hnamed hnamed' hcomment (alike.isComment ▸ hcomment)]
    simp only [hlooks]
  | false =>
    obtain ⟨front, back, hitems, hitems'⟩ :=
      swaps.items_eq hnamed hnamed' hcomment (alike.isComment ▸ hcomment)
    rw [hitems] at hapart
    have hfront : ∀ s ∈ front, s.sameSpot n = false := fun s hs =>
      (List.pairwise_append.1 hapart).2.2 s hs n List.mem_cons_self
    have hfront' : ∀ s ∈ front, s.sameSpot n' = false := fun s hs => hlooks s ▸ hfront s hs
    rw [(items_around_of_eq hitems hfront).2, (items_around_of_eq hitems' hfront').2]

/-- The statements behind a place are those behind every place that stands there instead. -/
theorem statementsAfter_eq (h : SameAround c c') (alike : c.node.Alike c'.node)
    (hapart : tree.childrenApart = true) (hc : (root tree).Under c)
    (hstop : stop.sameSpot stop' = true) : c.statementsAfter stop = c'.statementsAfter stop' := by
  unfold statementsAfter blocks
  induction h with
  | top => rfl
  | @within m m' n n' rest rest' _ alikeAbove swaps ih =>
    obtain ⟨hm, hchild⟩ := under_above hc rfl
    have hrest := ih alikeAbove hm
    have hitems := itemsAfter_eq swaps alike (Node.pairwise_items_of_childrenApart hapart hm.mem_walk)
      (isNamed_of_mem_namedChildren hchild)
    have hspot : m.sameSpot stop = m'.sameSpot stop' := Node.sameSpot_congr alikeAbove.sameSpot hstop
    have hhere : ((if m.kind == "statement_block" then [(m, n)] else []).flatMap fun b =>
        itemsAfter b.1 b.2) = (if m'.kind == "statement_block" then [(m', n')] else []).flatMap fun b =>
          itemsAfter b.1 b.2 := by
      rw [alikeAbove.kind]
      cases m'.kind == "statement_block" with
      | true => simpa using hitems
      | false => rfl
    change (blocksFrom stop n (m :: rest)).flatMap _ = (blocksFrom stop' n' (m' :: rest')).flatMap _
    rw [blocksFrom, blocksFrom, hspot]
    cases m'.sameSpot stop' with
    | true => exact hhere
    | false =>
      rw [if_neg Bool.false_ne_true, if_neg Bool.false_ne_true, List.flatMap_append,
        List.flatMap_append, hhere]
      exact congrArg _ hrest

/-! ## Final parts -/

/-- The final part of a try statement behind a node that another part of the statement holds. -/
theorem finalBody_eq {m m' n n' : Node} (swaps : Node.SwapsChild n n' m m') (alikeAbove : m.Alike m')
    (alike : n.Alike n') (hx : x.Alike x') (hcovers : n.covers x = true) :
    finalBody m x = finalBody m' x' := by
  unfold finalBody
  rw [alikeAbove.kind]
  split
  · rcases swaps.field?_eq alike.field "finalizer" with heq | ⟨hfinal, hfinal'⟩
    · rw [heq]
      have hself : ∀ final : Node, final.covers x = final.covers x' := fun final =>
        Node.Alike.covers ⟨rfl, rfl, rfl, rfl, rfl⟩ hx
      cases m'.field? "finalizer" with
      | none => rfl
      | some final =>
        dsimp only
        rw [hself]
    · -- The final part itself holds the place.
      rw [hfinal, hfinal']
      dsimp only
      rw [hcovers, ← alike.covers hx, hcovers]
      rfl
  · rfl

/-- In the same surroundings the same final parts come behind. -/
theorem finalBodiesFrom_eq (h : SameAround c c') (alike : c.node.Alike c'.node)
    (hspans : tree.spansNested = true) (hc : (root tree).Under c)
    (hstop : stop.sameSpot stop' = true) (hx : x.Alike x') (hcovers : c.node.covers x = true) :
    finalBodiesFrom stop x c.above = finalBodiesFrom stop' x' c'.above := by
  induction h with
  | top => rfl
  | @within m m' n n' rest rest' _ alikeAbove swaps ih =>
    obtain ⟨hm, hchild⟩ := under_above hc rfl
    have habove : m.covers n = true :=
      Node.covers_namedChild hspans hm.mem_walk (node_mem_namedChildren hchild)
    have hrest : finalBodiesFrom stop x rest = finalBodiesFrom stop' x' rest' :=
      ih alikeAbove hm (Node.covers_trans habove hcovers)
    change finalBodiesFrom stop x (m :: rest) = finalBodiesFrom stop' x' (m' :: rest')
    rw [finalBodiesFrom, finalBodiesFrom, Node.sameSpot_congr alikeAbove.sameSpot hstop,
      finalBody_eq swaps alikeAbove alike hx hcovers, hrest]

/-- The final parts behind a place are those behind every place that stands there instead. -/
theorem finalBodies_eq (h : SameAround c c') (alike : c.node.Alike c'.node)
    (hspans : tree.spansNested = true) (hc : (root tree).Under c)
    (hstop : stop.sameSpot stop' = true) : c.finalBodies stop = c'.finalBodies stop' :=
  h.finalBodiesFrom_eq alike hspans hc hstop alike c.node.covers_self

/-! ## Chains -/

/-- The name that a member selects is the same whatever stands there for its object. -/
theorem property_eq {m m' n n' : Node} (swaps : Node.SwapsChild n n' m m')
    (hfield : n.label.field = n'.label.field) (object : n.label.field = "object") :
    m.fieldText "property" = m'.fieldText "property" := by
  unfold Node.fieldText
  rcases swaps.field?_eq hfield "property" with heq | ⟨hproperty, -⟩
  · rw [heq]
  · have hfills := List.find?_some hproperty
    rw [object] at hfills
    exact absurd hfills (by decide)

/-- A call is handed the same whatever stands there for what it calls. -/
theorem arguments_eq {m m' n n' : Node} (swaps : Node.SwapsChild n n' m m')
    (hfield : n.label.field = n'.label.field) (function : n.label.field = "function") :
    m.arguments = m'.arguments := by
  unfold Node.arguments
  rcases swaps.field?_eq hfield "arguments" with heq | ⟨harguments, -⟩
  · rw [heq]
  · have hfills := List.find?_some harguments
    rw [function] at hfills
    exact absurd hfills (by decide)

/-- A child of a member that looks like its object is the object. -/
theorem fills_object {m n : Node} (hapart : tree.childrenApart = true) (hm : m ∈ tree.walk)
    (hn : n ∈ m.children) (object : (m.field? "object").any (·.sameSpot n) = true) :
    n.label.field = "object" := by
  obtain ⟨o, hobject, hlooks⟩ := (Option.any_eq_true _ _).1 object
  have hsame := Node.eq_of_sameSpot hapart hm (List.mem_of_find?_eq_some hobject) hn hlooks
  exact hsame ▸ Node.field_of_field? hobject

/-- The callbacks of a chain are those of every chain that starts there instead. -/
theorem promiseCallbacks_eq {c c' : Place} (h : SameAround c c') (alike : c.node.Alike c'.node)
    (hapart : tree.childrenApart = true) (hcalled : tree.MembersCalled) (hc : (root tree).Under c)
    (methods : List String) : c.promiseCallbacks methods = c'.promiseCallbacks methods := by
  cases h with
  | top => rfl
  | @within m m' n n' rest rest' around alikeAbove swaps =>
    obtain ⟨hm, hchild⟩ := under_above hc rfl
    have hobject : (m.field? "object").any (·.sameSpot n) =
        (m'.field? "object").any (·.sameSpot n') := by
      rcases swaps.field?_eq alike.field "object" with heq | ⟨hself, hself'⟩
      · have hlooks : (fun s : Node => s.sameSpot n) = fun s => s.sameSpot n' := funext fun s =>
          Node.sameSpot_congr s.sameSpot_self alike.sameSpot
        rw [heq, hlooks]
      · rw [hself, hself', Option.any_some, Option.any_some, Node.sameSpot_self, Node.sameSpot_self]
    -- The chain goes up by one node over a wrapper, and by two over a link.
    change Node.chainCallbacks methods n (m :: rest) = Node.chainCallbacks methods n' (m' :: rest')
    rw [Node.chainCallbacks.eq_def, Node.chainCallbacks.eq_def]
    dsimp only
    rw [← alikeAbove.kind, ← alikeAbove.isMember, ← hobject]
    split
    · exact around.promiseCallbacks_eq alikeAbove hapart hcalled hm methods
    · split
      · next hmember =>
        rw [Bool.and_eq_true] at hmember
        have hfield := fills_object hapart hm.mem_walk swaps.mem hmember.2
        cases around with
        | top => rfl
        | @within outer outer' _ _ rest rest' aroundCall alikeCall swapsCall =>
          obtain ⟨hcall, hmemberChild⟩ := under_above hm rfl
          dsimp only
          rw [← alikeCall.kind, ← property_eq swaps alike.field hfield]
          split
          · next hlink =>
            rw [Bool.and_eq_true, beq_iff_eq] at hlink
            have hfunction := Node.field_of_field?
              (hcalled outer hcall.mem_walk hlink.2 m (node_mem_namedChildren hmemberChild) hmember.1)
            rw [Node.callbacksOf, Node.callbacksOf, arguments_eq swapsCall alikeAbove.field hfunction]
            exact congrArg _
              (aroundCall.promiseCallbacks_eq alikeCall hapart hcalled hcall methods)
          · rfl
      · rfl
termination_by c.above.length

end SameAround

end Place

end UxLint
