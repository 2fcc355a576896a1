import UxLint.Proofs.Syntax.Surroundings

/-!
# Statements in the order of the source

The statements before a place within a function are those in front of it in the blocks around it, and the
statements after it are those behind it. Each block up to the function is cut at the one statement that
holds the place (`BlockCut`): what stands in front of that statement ends where the place begins or earlier,
what stands behind it starts where the place ends or later, and nothing is left over. The innermost block
comes first and no statement is listed twice (`exists_statementsAround`). Comments are no statements; that a
place is held by a statement of each block around it rests on comments being single marks, which hold no
places.
-/

set_option autoImplicit false

namespace UxLint

namespace Node

/-- Whether the named children of every node of a walk lie inside the node, one behind the other. -/
def spansNested (n : Node) : Bool :=
  n.walk.all fun m =>
    (m.namedChildren.all fun c => m.covers c) &&
      decide (m.namedChildren.Pairwise fun a b => a.stop ≤ b.start)

/-- Whether the comments of a walk hold nothing. No grammar has named nodes inside of a comment, so this holds of
every tree that a parser makes. -/
def commentsBare (n : Node) : Bool := n.walk.all fun m => !m.isComment || m.namedChildren.isEmpty

variable {n m c k : Node}

/-- A node covers itself. -/
theorem covers_self (n : Node) : n.covers n = true := by
  simp [covers]

/-- A node covers what is covered by what it covers. -/
theorem covers_trans (h : n.covers m = true) (hk : m.covers k = true) : n.covers k = true := by
  simp only [covers, Bool.and_eq_true, decide_eq_true_eq] at h hk ⊢
  omega

/-- A node starts no later than what it covers. -/
theorem start_le_of_covers (h : n.covers m = true) : n.start ≤ m.start := by
  simp only [covers, Bool.and_eq_true, decide_eq_true_eq] at h
  exact h.1

/-- A node stops no earlier than what it covers. -/
theorem stop_le_of_covers (h : n.covers m = true) : m.stop ≤ n.stop := by
  simp only [covers, Bool.and_eq_true, decide_eq_true_eq] at h
  exact h.2

/-- Where spans nest, a node covers its named children. -/
theorem covers_namedChild (h : n.spansNested = true) (hm : m ∈ n.walk) (hc : c ∈ m.namedChildren) :
    m.covers c = true := by
  have hboth := List.all_eq_true.1 h m hm
  rw [Bool.and_eq_true] at hboth
  exact List.all_eq_true.1 hboth.1 c hc

/-- What holds a named node is no comment. -/
theorem not_isComment_of_namedChild (h : n.commentsBare = true) (hm : m ∈ n.walk)
    (hc : c ∈ m.namedChildren) : m.isComment = false := by
  have hbare := List.all_eq_true.1 h m hm
  rw [Bool.or_eq_true, Bool.not_eq_true', List.isEmpty_iff] at hbare
  exact hbare.resolve_right (List.ne_nil_of_mem hc)

/-- The items of a node stand one behind the other. -/
theorem pairwise_items_ordered (h : n.spansNested = true) (hm : m ∈ n.walk) :
    m.items.Pairwise fun a b => a.stop ≤ b.start := by
  have hboth := List.all_eq_true.1 h m hm
  rw [Bool.and_eq_true, decide_eq_true_eq] at hboth
  exact hboth.2.filter _

end Node

namespace Place

variable {f p q c s : Place} {stop : Node}

/-! ## Places over items -/

/-- What is no comment among the children is one of the named ones. -/
theorem mem_namedChildren_of_mem_items (hc : c ∈ q.items) : c ∈ q.namedChildren := by
  obtain ⟨n, hn, rfl⟩ := List.mem_map.1 hc
  exact List.mem_map_of_mem (List.mem_filter.1 hn).1

/-- A named child that is no comment is kept among the items. -/
theorem mem_items_of_mem_namedChildren (hc : c ∈ q.namedChildren)
    (hcomment : c.node.isComment = false) : c ∈ q.items := by
  obtain ⟨n, hn, rfl⟩ := List.mem_map.1 hc
  refine List.mem_map_of_mem (List.mem_filter.2 ⟨hn, ?_⟩)
  rw [hcomment]
  rfl

/-- A node covers what is reached from it. -/
theorem Under.covers (h : p.Under q) (hspans : p.node.spansNested = true) :
    p.node.covers q.node = true := by
  induction h with
  | self => exact p.node.covers_self
  | child hq hc ih =>
    exact Node.covers_trans ih (Node.covers_namedChild hspans hq.mem_walk (node_mem_namedChildren hc))

/-- A place is reached from another one over items, that is, over named children that are no comments. -/
inductive UnderItems (p : Place) : Place → Prop where
  | self : UnderItems p p
  | item {q c : Place} : UnderItems p q → c ∈ q.items → UnderItems p c

/-- What stands under items stands under the place. -/
theorem UnderItems.under (h : p.UnderItems q) : p.Under q := by
  induction h with
  | self => exact .self
  | item _ hc ih => exact .child ih (mem_namedChildren_of_mem_items hc)

/-- Where comments hold nothing, everything but the comments is reached over items. -/
theorem Under.underItems (h : p.Under q) (hbare : p.node.commentsBare = true)
    (hcomment : q.node.isComment = false) : p.UnderItems q := by
  induction h with
  | self => exact .self
  | child hq hc ih =>
    have hparent := Node.not_isComment_of_namedChild hbare hq.mem_walk (node_mem_namedChildren hc)
    exact .item (ih hparent) (mem_items_of_mem_namedChildren hc hcomment)

/-! ## Blocks cut at a statement -/

/-- A block, cut at one of its statements. -/
structure BlockCut where
  block : Place
  before : List Place
  holding : Place
  after : List Place

/-- A block is cut at the one statement that holds a place. -/
structure BlockCut.At (c : Place) (k : BlockCut) : Prop where
  items_eq : k.block.items = k.before ++ k.holding :: k.after
  holds : k.holding.Under c
  only : ∀ s ∈ k.block.items, s.Under c → s = k.holding
  ends_before : ∀ s ∈ k.before, s.node.stop ≤ c.node.start
  starts_after : ∀ s ∈ k.after, c.node.stop ≤ s.node.start

/-- The blocks that hold `c` within `f`, each cut at the statement that holds `c`. -/
structure CutsAround (f c : Place) (cuts : List BlockCut) : Prop where
  /-- The blocks are all those above the place that lie within `f`, with `f` itself if it is a block. -/
  mem_blocks_iff : ∀ b, b ∈ cuts.map (·.block) ↔
    f.Under b ∧ b.Under c ∧ b ≠ c ∧ b.node.kind = "statement_block"
  innermost_first : (cuts.map (·.block)).Pairwise fun inner outer => outer.Under inner ∧ outer ≠ inner
  cut : ∀ k ∈ cuts, k.At c
  inside : ∀ k ∈ cuts, ∀ s ∈ k.block.items, f.Under s ∧ f.node.covers s.node = true
  once : (cuts.flatMap (·.before) ++ cuts.flatMap (·.after)).Nodup

/-- The statements before and after `c` within `f` are the parts in front of and behind the statements at
which the blocks around `c` are cut. -/
structure StatementsAround (f c : Place) (cuts : List BlockCut) : Prop extends CutsAround f c cuts where
  before_eq : c.statementsBefore f.node = (cuts.flatMap (·.before)).map (·.node)
  after_eq : c.statementsAfter f.node = (cuts.flatMap (·.after)).map (·.node)

/-- A cut of a block above a place is one at every child of the place. -/
theorem BlockCut.At.child {k : BlockCut} (h : k.At q) (hblock : k.block ≠ q)
    (hc : c ∈ q.namedChildren) (hcovers : q.node.covers c.node = true) : k.At c where
  items_eq := h.items_eq
  holds := .child h.holds hc
  only s hs hsc := by
    rcases (under_child_iff hc).1 hsc with rfl | hsq
    · exact absurd (parent_unique (mem_namedChildren_of_mem_items hs) hc) hblock
    · exact h.only s hs hsq
  ends_before s hs := Nat.le_trans (h.ends_before s hs) (Node.start_le_of_covers hcovers)
  starts_after s hs := Nat.le_trans (Node.stop_le_of_covers hcovers) (h.starts_after s hs)

/-- The items of a place of a tree in which no two look alike are different places. -/
theorem pairwise_items (hspots : f.node.spotsApart = true) (hq : f.Under q) :
    q.items.Pairwise fun a b => a.node.sameSpot b.node = false :=
  List.pairwise_map.2 (Node.pairwise_items hspots hq.mem_walk)

/-- Where no node looks like a sibling, no item stands twice. -/
theorem nodup_items (hspots : f.node.spotsApart = true) (hq : f.Under q) : q.items.Nodup := by
  refine (pairwise_items hspots hq).imp ?_
  rintro a b hab rfl
  rw [Node.sameSpot_self] at hab
  cases hab

/-- A block is cut at any of its statements. -/
theorem exists_cut (hspots : f.node.spotsApart = true) (hspans : f.node.spansNested = true)
    (hq : f.Under q) (hc : c ∈ q.items) :
    ∃ before after, BlockCut.At c ⟨q, before, c, after⟩ := by
  obtain ⟨before, after, hitems⟩ := List.append_of_mem hc
  have hordered : q.items.Pairwise fun a b => a.node.stop ≤ b.node.start :=
    List.pairwise_map.2 (Node.pairwise_items_ordered hspans hq.mem_walk)
  have hnodup := nodup_items hspots hq
  rw [hitems] at hordered hnodup
  refine ⟨before, after, hitems, .self, ?_, ?_, ?_⟩
  · -- Two children of one place have equally many nodes above them.
    intro s hs hsc
    have habove : s.above = c.above := by
      rw [above_of_mem_namedChildren (mem_namedChildren_of_mem_items hs),
        above_of_mem_namedChildren (mem_namedChildren_of_mem_items hc)]
    rcases hsc.eq_or_length_lt with h | h
    · exact h.symm
    · rw [habove] at h
      exact absurd h (Nat.lt_irrefl _)
  · exact fun s hs => (List.pairwise_append.1 hordered).2.2 s hs c List.mem_cons_self
  · exact fun s hs => (List.pairwise_cons.1 (List.pairwise_append.1 hordered).2.1).1 s hs

namespace CutsAround

variable {cuts : List BlockCut}

/-- No block stands around a place itself. -/
theorem self (f : Place) : CutsAround f f [] where
  mem_blocks_iff b := by
    constructor
    · intro h
      cases h
    · rintro ⟨hfb, hbf, hne, -⟩
      exact absurd (hfb.antisymm hbf) hne
  innermost_first := .nil
  cut k hk := by cases hk
  inside k hk := by cases hk
  once := List.nodup_nil

/-- The blocks within `f` that hold a child of a place are those that hold the place, and the place itself
if it is a block. -/
theorem block_child_iff (hq : f.Under q) (hc : c ∈ q.namedChildren) (b : Place) :
    (f.Under b ∧ b.Under c ∧ b ≠ c ∧ b.node.kind = "statement_block") ↔
      (b = q ∧ q.node.kind = "statement_block") ∨
        (f.Under b ∧ b.Under q ∧ b ≠ q ∧ b.node.kind = "statement_block") := by
  constructor
  · rintro ⟨hfb, hbc, hne, hkind⟩
    rcases (under_child_iff hc).1 hbc with h | hbq
    · exact absurd h hne
    · rcases eq_or_ne b q with rfl | hbq'
      · exact .inl ⟨rfl, hkind⟩
      · exact .inr ⟨hfb, hbq, hbq', hkind⟩
  · have hlength : c.above.length = q.above.length + 1 := by
      rw [above_of_mem_namedChildren hc, List.length_cons]
    have hne : ∀ b : Place, b.Under q → b ≠ c := by
      rintro b hbq rfl
      rcases hbq.eq_or_length_lt with rfl | h
      · omega
      · omega
    rintro (⟨rfl, hkind⟩ | ⟨hfb, hbq, -, hkind⟩)
    · exact ⟨hq, .child .self hc, hne b .self, hkind⟩
    · exact ⟨hfb, .child hbq hc, hne b hbq, hkind⟩

/-- A block around a place stands between the function and the place. -/
theorem block_of_mem {k : BlockCut} (h : CutsAround f q cuts) (hk : k ∈ cuts) :
    f.Under k.block ∧ k.block.Under q ∧ k.block ≠ q ∧ k.block.node.kind = "statement_block" :=
  (h.mem_blocks_iff k.block).1 (List.mem_map_of_mem hk)

/-- A place that is no block adds no cut. -/
theorem child (h : CutsAround f q cuts) (hspans : f.node.spansNested = true) (hq : f.Under q)
    (hkind : q.node.kind ≠ "statement_block") (hc : c ∈ q.namedChildren) : CutsAround f c cuts where
  mem_blocks_iff b := by
    rw [block_child_iff hq hc b, h.mem_blocks_iff b]
    constructor
    · exact .inr
    · rintro (⟨-, hblock⟩ | hb)
      · exact absurd hblock hkind
      · exact hb
  innermost_first := h.innermost_first
  cut k hk := (h.cut k hk).child (h.block_of_mem hk).2.2.1 hc
    (Node.covers_namedChild hspans hq.mem_walk (node_mem_namedChildren hc))
  inside := h.inside
  once := h.once

/-- The statements of the cuts around a place have fewer nodes above them than the children of the place. -/
theorem length_above_le (h : CutsAround f q cuts)
    (hs : s ∈ cuts.flatMap (·.before) ++ cuts.flatMap (·.after)) :
    s.above.length ≤ q.above.length := by
  obtain ⟨k, hk, hitem⟩ : ∃ k ∈ cuts, s ∈ k.block.items := by
    rcases List.mem_append.1 hs with hs | hs
    · obtain ⟨k, hk, hs⟩ := List.mem_flatMap.1 hs
      exact ⟨k, hk, (h.cut k hk).items_eq ▸ List.mem_append_left _ hs⟩
    · obtain ⟨k, hk, hs⟩ := List.mem_flatMap.1 hs
      exact ⟨k, hk, (h.cut k hk).items_eq ▸ List.mem_append_right _ (List.mem_cons_of_mem _ hs)⟩
  rw [above_of_mem_namedChildren (mem_namedChildren_of_mem_items hitem), List.length_cons]
  rcases (h.block_of_mem hk).2.1.eq_or_length_lt with heq | hlt
  · exact absurd heq.symm (h.block_of_mem hk).2.2.1
  · exact hlt

/-- A place that is a block adds the cut at its child. -/
theorem block_child {before after : List Place} (h : CutsAround f q cuts)
    (hspots : f.node.spotsApart = true) (hspans : f.node.spansNested = true) (hq : f.Under q)
    (hkind : q.node.kind = "statement_block") (hc : c ∈ q.namedChildren)
    (hcut : BlockCut.At c ⟨q, before, c, after⟩) : CutsAround f c (⟨q, before, c, after⟩ :: cuts) where
  mem_blocks_iff b := by
    rw [block_child_iff hq hc b, List.map_cons, List.mem_cons, h.mem_blocks_iff b]
    constructor
    · rintro (rfl | hb)
      · exact .inl ⟨rfl, hkind⟩
      · exact .inr hb
    · rintro (⟨rfl, -⟩ | hb)
      · exact .inl rfl
      · exact .inr hb
  innermost_first := by
    refine List.pairwise_cons.2 ⟨fun b hb => ?_, h.innermost_first⟩
    obtain ⟨-, hbq, hne, -⟩ := (h.mem_blocks_iff b).1 hb
    exact ⟨hbq, hne⟩
  cut k hk := by
    rcases List.mem_cons.1 hk with rfl | hk
    · exact hcut
    · exact (h.cut k hk).child (h.block_of_mem hk).2.2.1 hc
        (Node.covers_namedChild hspans hq.mem_walk (node_mem_namedChildren hc))
  inside k hk s hs := by
    rcases List.mem_cons.1 hk with rfl | hk
    · have hunder : f.Under s := .child hq (mem_namedChildren_of_mem_items hs)
      exact ⟨hunder, hunder.covers hspans⟩
    · exact h.inside k hk s hs
  once := by
    have hperm : (List.flatMap (·.before) (⟨q, before, c, after⟩ :: cuts) ++
        List.flatMap (·.after) (⟨q, before, c, after⟩ :: cuts)).Perm
          ((before ++ after) ++ (cuts.flatMap (·.before) ++ cuts.flatMap (·.after))) := by
      rw [List.flatMap_cons, List.flatMap_cons, List.append_assoc, List.append_assoc]
      exact (List.perm_append_comm_assoc _ after _).append_left before
    have hitems : (before ++ c :: after).Nodup := hcut.items_eq ▸ nodup_items hspots hq
    have hsublist : (before ++ after).Sublist (before ++ c :: after) :=
      (List.sublist_cons_self c after).append_left before
    refine hperm.nodup_iff.2 ((hitems.sublist hsublist).append h.once ?_)
    intro s hs hs'
    have hitem : s ∈ q.items := hcut.items_eq ▸ hsublist.mem hs
    have hlength := h.length_above_le hs'
    rw [above_of_mem_namedChildren (mem_namedChildren_of_mem_items hitem), List.length_cons] at hlength
    omega

end CutsAround

/-! ## The statements before and after a place -/

/-- The blocks around a child are its parent, if that is one, and those around the parent. -/
theorem blocks_child (hc : c ∈ q.namedChildren) :
    c.blocks stop = (if q.node.kind == "statement_block" then [(q.node, c.node)] else []) ++
      if q.node.sameSpot stop then [] else q.blocks stop := by
  rw [blocks, above_of_mem_namedChildren hc, blocksFrom]
  split
  · exact (List.append_nil _).symm
  · rfl

/-- Among the places that are reached from `f`, only `f` looks like `f`. -/
theorem sameSpot_iff (hspots : f.node.spotsApart = true) (hq : f.Under q) :
    q.node.sameSpot f.node = true ↔ q = f := by
  constructor
  · intro h
    cases hq with
    | self => rfl
    | @child r _ hr hc =>
      have hapart := sameSpot_of_under hspots hr (node_mem_namedChildren hc) q.node.mem_walk_self
      rw [hapart] at h
      cases h
  · rintro rfl
    exact Node.sameSpot_self _

/-- The parts of a cut block are the items before and after the statement at which it is cut. -/
theorem BlockCut.At.items_around {before after : List Place} (h : BlockCut.At c ⟨q, before, c, after⟩)
    (hspots : f.node.spotsApart = true) (hq : f.Under q) :
    itemsBefore q.node c.node = before.map (·.node) ∧ itemsAfter q.node c.node = after.map (·.node) := by
  have hnodes : q.node.items = before.map (·.node) ++ c.node :: after.map (·.node) := by
    have hmap := congrArg (List.map (·.node)) h.items_eq
    rw [List.map_append, List.map_cons] at hmap
    rw [← hmap, items, List.map_map]
    exact (List.map_id _).symm
  exact items_around_of_eq hnodes (apart_before hspots hq hnodes)

/-- The blocks around a place, none around the place that bounds the search. -/
def blocksBelow (f c : Place) : List (Node × Node) :=
  if c.node.sameSpot f.node then [] else c.blocks f.node

/-- The blocks around a child, up to the function, are its parent, if that is one, and those around the parent.
-/
theorem blocksBelow_child (hspots : f.node.spotsApart = true) (hq : f.Under q)
    (hc : c ∈ q.namedChildren) :
    f.blocksBelow c = (if q.node.kind == "statement_block" then [(q.node, c.node)] else []) ++
      f.blocksBelow q := by
  have hapart := sameSpot_of_under hspots hq (node_mem_namedChildren hc) c.node.mem_walk_self
  rw [blocksBelow, hapart, if_neg (by decide), blocks_child hc, blocksBelow]

/-- The blocks around a place are cut, and what they hold before and behind it are the parts of the cuts. -/
theorem exists_cutsAround (hspots : f.node.spotsApart = true) (hspans : f.node.spansNested = true)
    (hc : f.UnderItems c) :
    ∃ cuts, CutsAround f c cuts ∧
      ((f.blocksBelow c).flatMap fun b => itemsBefore b.1 b.2) =
        (cuts.flatMap (·.before)).map (·.node) ∧
      ((f.blocksBelow c).flatMap fun b => itemsAfter b.1 b.2) =
        (cuts.flatMap (·.after)).map (·.node) := by
  induction hc with
  | self =>
    refine ⟨[], .self f, ?_⟩
    rw [blocksBelow, if_pos f.node.sameSpot_self]
    exact ⟨rfl, rfl⟩
  | @item q c hq hitem ih =>
    obtain ⟨cuts, hcuts, hbefore, hafter⟩ := ih
    have hchild := mem_namedChildren_of_mem_items hitem
    rw [blocksBelow_child hspots hq.under hchild, List.flatMap_append, List.flatMap_append, hbefore,
      hafter]
    by_cases hkind : q.node.kind = "statement_block"
    · obtain ⟨before, after, hcut⟩ := exists_cut hspots hspans hq.under hitem
      obtain ⟨hfront, hback⟩ := hcut.items_around hspots hq.under
      refine ⟨_, hcuts.block_child hspots hspans hq.under hkind hchild hcut, ?_⟩
      rw [if_pos (beq_iff_eq.2 hkind), List.flatMap_singleton, List.flatMap_singleton, hfront, hback,
        List.flatMap_cons, List.flatMap_cons, List.map_append, List.map_append]
      exact ⟨rfl, rfl⟩
    · refine ⟨cuts, hcuts.child hspans hq.under hkind hchild, ?_⟩
      rw [if_neg (fun h => hkind (beq_iff_eq.1 h))]
      exact ⟨rfl, rfl⟩

/-- Within a tree in which the spans nest, no node looks like one above it or like a sibling, and comments
hold nothing, the statements around a place that is no comment are those of the blocks around it, cut at the
statements that hold the place. The condition on comments is about the tree alone: the blocks are found on the
way over nodes that are no comments. -/
theorem exists_statementsAround (hspots : f.node.spotsApart = true)
    (hspans : f.node.spansNested = true) (hbare : f.node.commentsBare = true) (hc : f.Under c)
    (hcomment : c.node.isComment = false) (hne : c ≠ f) : ∃ cuts, StatementsAround f c cuts := by
  obtain ⟨cuts, hcuts, hbefore, hafter⟩ :=
    exists_cutsAround hspots hspans (hc.underItems hbare hcomment)
  have hbelow : f.blocksBelow c = c.blocks f.node := if_neg fun h => hne ((sameSpot_iff hspots hc).1 h)
  rw [hbelow] at hbefore hafter
  exact ⟨cuts, hcuts, hbefore, hafter⟩

/-! ### A call in a block of a block -/

section Calls

open Node (onFirstRow)

/-- A call without arguments of a function of the given name. -/
def plainCall (name : String) (start : Nat) : Node :=
  onFirstRow "call_expression" "" (name ++ "()") start
    [onFirstRow "identifier" "function" name start [],
      onFirstRow "arguments" "arguments" "()" (start + name.length) []]

/-- The call as a statement. -/
def callStatement (name : String) (start : Nat) : Node :=
  onFirstRow "expression_statement" "" (name ++ "();") start [plainCall name start]

/-- A function with the given body. -/
def arrowOver (body : Node) : Node :=
  onFirstRow "arrow_function" "" ("() => " ++ body.text) 0
    [onFirstRow "formal_parameters" "parameters" "()" 0 [], body]

def innerBlock : Node :=
  onFirstRow "statement_block" "" "\x7b /* now */ send(); done(); \x7d" 14
    [onFirstRow "comment" "" "/* now */" 16 [], callStatement "send" 26, callStatement "done" 34]

def outerBlock : Node :=
  onFirstRow "statement_block" "body" "\x7b on(); \x7b /* now */ send(); done(); \x7d off(); \x7d" 6
    [callStatement "on" 8, innerBlock, callStatement "off" 44]

/-- The call of `send` in the inner block. -/
def sendPlace : Place :=
  ⟨plainCall "send" 26, [callStatement "send" 26, innerBlock, outerBlock, arrowOver outerBlock]⟩

/-- Around a call in a block of a block stand the statement of the outer block before the inner one, the
statement behind the call, and the statement behind the inner block. -/
theorem exists_statementsAround_send :
    let f := root (arrowOver outerBlock)
    f.node.spotsApart = true ∧ f.node.spansNested = true ∧ f.node.commentsBare = true ∧
      f.Under sendPlace ∧ sendPlace.node.isComment = false ∧ sendPlace ≠ f ∧
      sendPlace.statementsBefore f.node = [callStatement "on" 8] ∧
      sendPlace.statementsAfter f.node = [callStatement "done" 34, callStatement "off" 44] ∧
      ∃ cuts, StatementsAround f sendPlace cuts := by
  intro f
  have hspots : f.node.spotsApart = true := by decide +kernel
  have hspans : f.node.spansNested = true := by decide +kernel
  have hbare : f.node.commentsBare = true := by decide +kernel
  have houter : f.Under ⟨outerBlock, [arrowOver outerBlock]⟩ := .child .self (.tail _ (.head _))
  have hinner : f.Under ⟨innerBlock, [outerBlock, arrowOver outerBlock]⟩ :=
    .child houter (.tail _ (.head _))
  have hsend : f.Under sendPlace := .child (.child hinner (.tail _ (.head _))) (.head _)
  have hcomment : sendPlace.node.isComment = false := by decide
  have hne : sendPlace ≠ f := fun h => by cases congrArg Place.above h
  exact ⟨hspots, hspans, hbare, hsend, hcomment, hne, by with_unfolding_all rfl,
    by with_unfolding_all rfl, exists_statementsAround hspots hspans hbare hsend hcomment hne⟩

end Calls

end Place

end UxLint
