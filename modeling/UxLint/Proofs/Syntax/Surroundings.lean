import UxLint.Proofs.Syntax.Walks
import UxLint.Syntax.Chain
import UxLint.Syntax.Statement

/-!
# What surrounds a call

The statements before and after a call, the final parts of the tries around it, the chain that goes on
from it and its being awaited are found by going up from the call. Here they are described by the tree
alone (`InBlock`, `InTry`, `Chained`, `AwaitedThrough`), and what is so described is found. The way up ends
at the first node that looks like the function that bounds it, and a statement is told from its siblings
by what it looks like; `spotsApart` says that in a tree no two such nodes look alike.
-/

set_option autoImplicit false

namespace UxLint

namespace Node

/-- Whether no node of a walk looks like a node above it or like a sibling: none has the same kind and
covers the same octets. -/
def spotsApart (n : Node) : Bool :=
  n.walk.all fun m =>
    (m.namedChildren.all fun c => c.walk.all fun k => !k.sameSpot m) &&
      decide (m.namedChildren.Pairwise fun a b => a.sameSpot b = false)

variable {n m c k : Node}

/-- A node below another one does not look like it. -/
theorem sameSpot_below (h : n.spotsApart = true) (hm : m ∈ n.walk) (hc : c ∈ m.namedChildren)
    (hk : k ∈ c.walk) : k.sameSpot m = false := by
  have hboth := List.all_eq_true.1 h m hm
  rw [Bool.and_eq_true] at hboth
  have hbelow := List.all_eq_true.1 (List.all_eq_true.1 hboth.1 c hc) k hk
  rwa [Bool.not_eq_true'] at hbelow

/-- The items of a node do not look alike. -/
theorem pairwise_items (h : n.spotsApart = true) (hm : m ∈ n.walk) :
    m.items.Pairwise fun a b => a.sameSpot b = false := by
  have hboth := List.all_eq_true.1 h m hm
  rw [Bool.and_eq_true, decide_eq_true_eq] at hboth
  exact hboth.2.filter _

end Node

namespace Place

variable {f c : Place} {stop child : Node} {before after : List Node}

/-! ## Statements -/

/-- A block within `f` holds `c` in one of its statements, between `before` and `after`. -/
inductive InBlock (f c : Place) : List Node → List Node → Prop where
  | intro {block : Place} {statement : Node} {before after : List Node} (inside : f.Under block)
      (kind : block.node.kind = "statement_block")
      (items : block.node.items = before ++ statement :: after)
      (holds : Under ⟨statement, block.node :: block.above⟩ c) : InBlock f c before after

/-- The way up from a node comes to whatever stands above the last node of a way that does not leave the
function. -/
theorem mem_blocksFrom_append {x : Node × Node} {n : Node} {rest : List Node} (way : List Node)
    (hway : ∀ m ∈ way ++ [n], m.sameSpot stop = false) (hx : x ∈ blocksFrom stop n rest) :
    x ∈ blocksFrom stop child (way ++ n :: rest) := by
  induction way generalizing child with
  | nil =>
    have hn := hway n (List.mem_singleton_self n)
    rw [List.nil_append, blocksFrom, if_neg (by rw [hn]; decide)]
    exact List.mem_append_right _ hx
  | cons m way ih =>
    have hm := hway m List.mem_cons_self
    rw [List.cons_append, blocksFrom, if_neg (by rw [hm]; decide)]
    exact List.mem_append_right _ (ih fun k hk => hway k (List.mem_cons_of_mem m hk))

/-- A block around a child is one of the blocks. -/
theorem mem_blocksFrom_head {block : Node} {rest : List Node}
    (hblock : block.kind = "statement_block") :
    (block, child) ∈ blocksFrom stop child (block :: rest) := by
  have hhere : (if block.kind == "statement_block" then [(block, child)] else []) =
      [(block, child)] := if_pos (by rw [hblock]; rfl)
  rw [blocksFrom, hhere]
  split
  · exact List.mem_singleton_self _
  · exact List.mem_append_left _ (List.mem_singleton_self _)

/-- A place that is reached lies at or below one of its named children, unless it is the place itself. -/
theorem Under.exists_child {q : Place} (h : f.Under q) :
    q = f ∨ ∃ d ∈ f.node.namedChildren, q.node ∈ d.walk :=
  h.exists_above.imp id fun ⟨_, _, d, hd, hq, _⟩ => ⟨d, hd, hq⟩

/-- Nothing that is named below a place of the tree of `f` looks like `f`. -/
theorem sameSpot_of_under {q : Place} {d k : Node} (hspots : f.node.spotsApart = true)
    (hq : f.Under q) (hd : d ∈ q.node.namedChildren) (hk : k ∈ d.walk) :
    k.sameSpot f.node = false := by
  rcases hq.exists_child with rfl | ⟨e, he, hmem⟩
  · exact Node.sameSpot_below hspots q.node.mem_walk_self hd hk
  · refine Node.sameSpot_below hspots f.node.mem_walk_self he ?_
    exact Node.mem_walk_trans hmem (Node.mem_walk_trans (Node.mem_walk_of_namedChild hd) hk)

/-- The block and the statement in which a block within a function holds a place are found. -/
theorem mem_blocks {block : Place} {statement : Node} (hspots : f.node.spotsApart = true)
    (inside : f.Under block) (kind : block.node.kind = "statement_block")
    (hstatement : statement ∈ block.node.namedChildren)
    (holds : Under ⟨statement, block.node :: block.above⟩ c) :
    (block.node, statement) ∈ c.blocks f.node := by
  unfold blocks
  rcases holds.exists_above with rfl | ⟨way, habove, d, hd, -, hway⟩
  · exact mem_blocksFrom_head kind
  · rw [habove]
    refine mem_blocksFrom_append way (fun k hk => ?_) (mem_blocksFrom_head kind)
    refine sameSpot_of_under hspots inside hstatement ?_
    rcases List.mem_append.1 hk with hk | hk
    · exact Node.mem_walk_trans (Node.mem_walk_of_namedChild hd) (hway k hk)
    · exact List.mem_singleton.1 hk ▸ statement.mem_walk_self

/-- The items of a block before and after one of them, if none before it looks like it. -/
theorem items_around_of_eq {block statement : Node} (items : block.items = before ++ statement :: after)
    (hapart : ∀ s ∈ before, s.sameSpot statement = false) :
    itemsBefore block statement = before ∧ itemsAfter block statement = after := by
  have hbefore : ∀ s ∈ before, (!s.sameSpot statement) = true := by
    intro s hs
    rw [hapart s hs]
    rfl
  constructor
  · rw [itemsBefore, items, List.takeWhile_append_of_pos hbefore,
      List.takeWhile_cons_of_neg (by simp [Node.sameSpot_self]), List.append_nil]
  · rw [itemsAfter, items, List.dropWhile_append_of_pos hbefore,
      List.dropWhile_cons_of_neg (by simp [Node.sameSpot_self]), List.drop_one, List.tail_cons]

/-- In a place of a tree in which no two siblings look alike, none of the items before one looks like it. -/
theorem apart_before {q : Place} {statement : Node} (hspots : f.node.spotsApart = true)
    (hq : f.Under q) (items : q.node.items = before ++ statement :: after) :
    ∀ s ∈ before, s.sameSpot statement = false := by
  have hapart := Node.pairwise_items hspots hq.mem_walk
  rw [items] at hapart
  exact fun s hs => (List.pairwise_append.1 hapart).2.2 s hs statement List.mem_cons_self

/-- What stands in front of a place in a block and behind it is found with one of the blocks. -/
theorem InBlock.exists_blocks (h : InBlock f c before after) (hspots : f.node.spotsApart = true) :
    ∃ b ∈ c.blocks f.node, itemsBefore b.1 b.2 = before ∧ itemsAfter b.1 b.2 = after := by
  obtain @⟨block, statement, before, after, inside, kind, items, holds⟩ := h
  have hmem : statement ∈ block.node.items := by
    rw [items]
    simp
  exact ⟨_, mem_blocks hspots inside kind (List.mem_filter.1 hmem).1 holds,
    items_around_of_eq items (apart_before hspots inside items)⟩

/-- The statements before a call are found. -/
theorem InBlock.mem_statementsBefore (h : InBlock f c before after)
    (hspots : f.node.spotsApart = true) {s : Node} (hs : s ∈ before) :
    s ∈ c.statementsBefore f.node := by
  obtain ⟨b, hb, rfl, -⟩ := h.exists_blocks hspots
  exact List.mem_flatMap.2 ⟨b, hb, hs⟩

/-- The statements after a call are found. -/
theorem InBlock.mem_statementsAfter (h : InBlock f c before after)
    (hspots : f.node.spotsApart = true) {s : Node} (hs : s ∈ after) :
    s ∈ c.statementsAfter f.node := by
  obtain ⟨b, hb, -, rfl⟩ := h.exists_blocks hspots
  exact List.mem_flatMap.2 ⟨b, hb, hs⟩

/-! ## Final parts -/

/-- A try statement within `f` stands around `c`, which its final part does not hold; `body` is the body of
that part. -/
inductive InTry (f c : Place) : Node → Prop where
  | intro {statement : Place} {final : Node} (inside : f.Under statement)
      (kind : statement.node.kind = "try_statement") (holds : statement.Under c)
      (finalizer : statement.node.field? "finalizer" = some final)
      (outside : final.covers c.node = false) : InTry f c ((final.field? "body").getD final)

/-- A final part above other nodes is found from below them. -/
theorem mem_finalBodiesFrom_append {x n t : Node} {rest : List Node} (way : List Node)
    (hway : ∀ m ∈ way ++ [t], m.sameSpot stop = false) (hx : x ∈ finalBody t n) :
    x ∈ finalBodiesFrom stop n (way ++ t :: rest) := by
  induction way with
  | nil =>
    have ht := hway t (List.mem_singleton_self t)
    rw [List.nil_append, finalBodiesFrom, if_neg (by rw [ht]; decide)]
    exact List.mem_append_left _ hx
  | cons m way ih =>
    have hm := hway m List.mem_cons_self
    rw [List.cons_append, finalBodiesFrom, if_neg (by rw [hm]; decide)]
    exact List.mem_append_right _ (ih fun k hk => hway k (List.mem_cons_of_mem m hk))

/-- The final bodies of the tries around a call of a function are found. -/
theorem InTry.mem_finalBodies {body : Node} (h : InTry f c body) (hspots : f.node.spotsApart = true)
    (hf : f.node.isFunction = true) (hcall : c.node.isCall = true) :
    body ∈ c.finalBodies f.node := by
  obtain @⟨statement, final, inside, kind, holds, finalizer, outside⟩ := h
  have hbody : (final.field? "body").getD final ∈ finalBody statement.node c.node := by
    rw [finalBody, if_pos (by rw [kind]; rfl), finalizer]
    dsimp only
    rw [outside]
    exact List.mem_singleton_self _
  -- A try statement is neither the call nor the function.
  have hne : c ≠ statement := by
    rintro rfl
    rw [Node.isCall, kind] at hcall
    exact absurd hcall (by decide)
  have hfunction : statement ≠ f := by
    rintro rfl
    rw [Node.isFunction, kind] at hf
    exact absurd hf (by simp [Node.functionKinds])
  obtain ⟨way, habove, d, hd, -, hway⟩ := holds.exists_above.resolve_left hne
  obtain ⟨e, he, hmem⟩ := inside.exists_child.resolve_left hfunction
  unfold finalBodies
  rw [habove]
  refine mem_finalBodiesFrom_append way (fun k hk => ?_) hbody
  rcases List.mem_append.1 hk with hk | hk
  · exact sameSpot_of_under hspots inside hd (hway k hk)
  · rw [List.mem_singleton.1 hk]
    exact sameSpot_of_under hspots .self he hmem

/-! ## Chains -/

/-- A function is handed to one of some methods in the chain that goes on from `current` through the nodes
above it. Between the links there may be wrappers of some kinds. -/
inductive Chained (wrappers methods : List String) : Node → List Node → Node → Prop where
  | wrapped {current n callback : Node} {rest : List Node} (kind : n.kind ∈ wrappers)
      (next : Chained wrappers methods n rest callback) :
      Chained wrappers methods current (n :: rest) callback
  | here {current member call callback : Node} {rest : List Node} (selects : member.isMember = true)
      (object : member.field? "object" = some current)
      (method : member.fieldText "property" ∈ methods) (kind : call.kind = "call_expression")
      (handed : callback ∈ call.arguments) (function : callback.isFunction = true) :
      Chained wrappers methods current (member :: call :: rest) callback
  | further {current member call callback : Node} {rest : List Node} (selects : member.isMember = true)
      (object : member.field? "object" = some current)
      (method : member.fieldText "property" ∈ methods) (kind : call.kind = "call_expression")
      (next : Chained wrappers methods call rest callback) :
      Chained wrappers methods current (member :: call :: rest) callback

/-- The wrappers that a chain goes on through. -/
def chainWrappers : List String := ["parenthesized_expression", "non_null_expression"]

/-- A chain goes on over a member and its call, with the callbacks that the method selects. -/
theorem chainCallbacks_link {current member call : Node} {rest : List Node} (methods : List String)
    (selects : member.isMember = true)
    (object : (member.field? "object").any (·.sameSpot current) = true)
    (kind : call.kind = "call_expression") :
    Node.chainCallbacks methods current (member :: call :: rest) =
      if methods.contains (member.fieldText "property") then
        Node.callbacksOf (member.fieldText "property") call ++ Node.chainCallbacks methods call rest
      else [] := by
  have hkind : member.kind = "member_expression" := beq_iff_eq.1 selects
  rw [Node.chainCallbacks, if_neg (by rw [hkind]; decide), selects, object, Bool.and_self, if_pos rfl,
    kind]
  simp

/-- The callbacks of a link are the functions among the arguments of its call. -/
theorem chainCallbacks_member {methods : List String} {current member call : Node} {rest : List Node}
    (selects : member.isMember = true) (object : member.field? "object" = some current)
    (method : member.fieldText "property" ∈ methods) (kind : call.kind = "call_expression") :
    Node.chainCallbacks methods current (member :: call :: rest) =
      Node.callbacksOf (member.fieldText "property") call ++
        Node.chainCallbacks methods call rest := by
  have hcurrent : (member.field? "object").any (·.sameSpot current) = true := by
    rw [object, Option.any_some]
    exact current.sameSpot_self
  rw [chainCallbacks_link methods selects hcurrent kind, if_pos (List.contains_iff_mem.2 method)]

/-- The functions that are handed to a chain are found. -/
theorem Chained.mem_chainCallbacks {methods : List String} {current callback : Node}
    {rest : List Node} (h : Chained chainWrappers methods current rest callback) :
    ∃ method, (method, callback) ∈ Node.chainCallbacks methods current rest := by
  induction h with
  | @wrapped current n callback rest kind _ ih =>
    obtain ⟨method, hmem⟩ := ih
    have hkind : (n.kind == "parenthesized_expression" || n.kind == "non_null_expression") = true := by
      simpa [chainWrappers] using kind
    refine ⟨method, ?_⟩
    rw [Node.chainCallbacks.eq_def]
    dsimp only
    rwa [if_pos hkind]
  | @here current member call callback rest selects object method kind handed function =>
    refine ⟨member.fieldText "property", ?_⟩
    rw [chainCallbacks_member selects object method kind]
    exact List.mem_append_left _
      (List.mem_map_of_mem (List.mem_filter.2 ⟨handed, function⟩))
  | further selects object method kind _ ih =>
    obtain ⟨name, hmem⟩ := ih
    refine ⟨name, ?_⟩
    rw [chainCallbacks_member selects object method kind]
    exact List.mem_append_right _ hmem

/-- Of the nodes above a call, the first that is no link of a chain and no wrapper of some kinds awaits
it. -/
def AwaitedThrough (wrappers : List String) (above : List Node) : Prop :=
  ∃ way n rest, above = way ++ n :: rest ∧ n.kind = "await_expression" ∧
    ∀ m ∈ way, m.kind ∈ "member_expression" :: "call_expression" :: wrappers

/-- A call that is awaited through wrappers is found awaited. -/
theorem AwaitedThrough.awaitedBelow {above : List Node} (h : AwaitedThrough chainWrappers above) :
    Node.awaitedBelow above = true := by
  obtain ⟨way, n, rest, rfl, hn, hway⟩ := h
  induction way with
  | nil => rw [List.nil_append, Node.awaitedBelow, if_pos (by rw [hn]; rfl)]
  | cons m way ih =>
    have hlink : ∀ k ∈ "member_expression" :: "call_expression" :: chainWrappers,
        (k == "await_expression") = false ∧ Node.chainKinds.contains k = true := by decide
    obtain ⟨hawait, hchain⟩ := hlink m.kind (hway m List.mem_cons_self)
    rw [List.cons_append, Node.awaitedBelow, hawait, if_neg (by decide), if_pos hchain]
    exact ih fun k hk => hway k (List.mem_cons_of_mem m hk)

end Place

end UxLint
