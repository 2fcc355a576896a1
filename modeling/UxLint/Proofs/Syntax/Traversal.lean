import UxLint.Proofs.StableSort
import UxLint.Proofs.Syntax.StatementOrder
import UxLint.Proofs.Syntax.Ways

/-!
# Traversals of a tree

A traversal keeps the places that it has still to visit on a stack. A turn visits the place on top and puts
its named children on the stack. What has been visited, with the walk over what is left on the stack behind
it, is the same before and after every turn (`visits_of_turn?`), so a traversal ends when it has visited the
walk of the place where it started, and not earlier (`ends_iff`). It goes along every way over named nodes
(`mem_ways_iff`).

In a tree whose nodes lie inside one another in the order of the source, a walk comes to no place that starts
in front of a place it came to before (`pairwise_walk_start`), and a sort by the start leaves what is picked out
of a walk as it is (`mergeSort_of_sublist_walk`).
-/

set_option autoImplicit false

namespace UxLint

/-! ## Turns -/

/-- A traversal under way. -/
structure Traversal where
  /-- The places that are still to be visited, the next one last. -/
  stack : List Place
  visited : List Place

namespace Traversal

open Place

/-- A traversal that has not visited anything. -/
def start (p : Place) : Traversal := ⟨[p], []⟩

/-- A turn takes the last place off the stack and visits it. Its named children are put on the stack, the first
of them last. There is no turn once the stack is empty. -/
def turn? (t : Traversal) : Option Traversal :=
  t.stack.getLast?.map fun p => ⟨t.stack.dropLast ++ p.namedChildren.reverse, t.visited ++ [p]⟩

/-- The traversal after a number of turns. -/
def after? : Nat → Traversal → Option Traversal
  | 0, t => some t
  | n + 1, t => t.turn?.bind (after? n)

/-- What a traversal has still to visit. -/
def ahead (t : Traversal) : List Place := walkStack t.stack.reverse

variable {t t' : Traversal} {p : Place} {n : Nat}

/-- Nothing lies ahead exactly if the stack is empty. -/
theorem ahead_eq_nil_iff : t.ahead = [] ↔ t.stack = [] := by
  rw [ahead, ← @List.reverse_eq_nil_iff _ t.stack]
  cases t.stack.reverse with
  | nil => simp [walkStack]
  | cons p stack => simp [walkStack]

/-- There is no next turn exactly if nothing lies ahead. -/
theorem turn?_eq_none_iff : t.turn? = none ↔ t.ahead = [] := by
  rw [ahead_eq_nil_iff, turn?, Option.map_eq_none_iff, List.getLast?_eq_none_iff]

/-- A turn visits the first of the places ahead. -/
theorem visits_of_turn? (h : t.turn? = some t') :
    ∃ p, t'.visited = t.visited ++ [p] ∧ t.ahead = p :: t'.ahead := by
  obtain ⟨p, hp, rfl⟩ := Option.map_eq_some_iff.1 h
  obtain ⟨below, hstack⟩ := List.getLast?_eq_some_iff.1 hp
  refine ⟨p, rfl, ?_⟩
  rw [ahead, ahead, hstack]
  simp [walkStack]

/-- Some turns visit as many of the places ahead, from the first one on. -/
theorem visits_of_after? (h : after? n t = some t') :
    ∃ seen, seen.length = n ∧ t'.visited = t.visited ++ seen ∧ t.ahead = seen ++ t'.ahead := by
  induction n generalizing t with
  | zero =>
    cases h
    exact ⟨[], rfl, by simp, by simp⟩
  | succ n ih =>
    obtain ⟨next, hturn, hrest⟩ := Option.bind_eq_some_iff.1 h
    obtain ⟨p, hp, hahead⟩ := visits_of_turn? hturn
    obtain ⟨seen, hlength, hseen, hrest⟩ := ih hrest
    refine ⟨p :: seen, by simp [hlength], ?_, ?_⟩
    · rw [hseen, hp, List.append_assoc, List.singleton_append]
    · rw [hahead, hrest, List.cons_append]

/-- There are as many turns as there are places ahead. -/
theorem exists_after? (h : n ≤ t.ahead.length) : ∃ t', after? n t = some t' := by
  induction n generalizing t with
  | zero => exact ⟨t, rfl⟩
  | succ n ih =>
    cases hturn : t.turn? with
    | none =>
      rw [turn?_eq_none_iff.1 hturn, List.length_nil] at h
      omega
    | some next =>
      obtain ⟨p, -, hahead⟩ := visits_of_turn? hturn
      rw [hahead, List.length_cons] at h
      obtain ⟨t', ht'⟩ := ih (t := next) (by omega)
      exact ⟨t', by simp [after?, hturn, ht']⟩

/-- Once nothing is ahead, the walk of the place where the traversal started has been visited, one place in
each turn. -/
theorem eq_of_ahead_eq_nil (h : after? n (start p) = some t) (hnone : t.ahead = []) :
    n = p.walk.length ∧ t = ⟨[], p.walk⟩ := by
  obtain ⟨seen, hlength, hvisited, hahead⟩ := visits_of_after? h
  have hseen : p.walk = seen := by
    rw [hnone, List.append_nil] at hahead
    exact hahead
  have hstack : t.stack = [] := ahead_eq_nil_iff.1 hnone
  obtain ⟨stack, visited⟩ := t
  simp_all [start]

/-- A traversal ends after as many turns as the walk has places, and these are what it has visited. -/
theorem ends_iff : (after? n (start p) = some t ∧ t.turn? = none) ↔
    n = p.walk.length ∧ t = ⟨[], p.walk⟩ := by
  constructor
  · rintro ⟨h, hend⟩
    exact eq_of_ahead_eq_nil h (turn?_eq_none_iff.1 hend)
  · rintro ⟨rfl, rfl⟩
    obtain ⟨t, ht⟩ := exists_after? (t := start p) (Nat.le_refl p.walk.length)
    -- The turns take all places ahead, so nothing is ahead behind them.
    have hnone : t.ahead = [] := by
      obtain ⟨seen, hlength, -, hahead⟩ := visits_of_after? ht
      have hsplit := congrArg List.length hahead
      rw [List.length_append, hlength, show (start p).ahead = p.walk from rfl] at hsplit
      exact List.eq_nil_of_length_eq_zero (by omega)
    obtain ⟨-, rfl⟩ := eq_of_ahead_eq_nil ht hnone
    exact ⟨ht, rfl⟩

end Traversal

/-! ## The nodes of a walk -/

/-- The nodes of a walk over places are those of the walk over nodes. -/
theorem Place.map_node_walk (p : Place) : p.walk.map (·.node) = p.node.walk := by
  obtain ⟨n, above⟩ := p
  induction n using Node.induction_children generalizing above with
  | h l cs ih =>
    rw [walk_eq, Node.walk_eq, List.map_cons, List.map_flatMap]
    refine congrArg (Node.node l cs :: ·) ?_
    rw [namedChildren, List.flatMap_map]
    exact List.flatMap_congr fun c hc => ih c (List.mem_filter.1 hc).1 _

/-! ## Ways over named nodes -/

namespace Node

variable {way : List Nat} {i j : Nat}

/-- A way over a row of children goes to a named one and on from there. -/
theorem cons_mem_waysFrom_iff {cs : List Node} : j :: way ∈ waysFrom i cs ↔
    ∃ k c, j = i + k ∧ cs[k]? = some c ∧ c.isNamed = true ∧ way ∈ c.ways := by
  induction cs generalizing i with
  | nil => simp [waysFrom]
  | cons c cs ih =>
    have hrest : j :: way ∈ waysFrom (i + 1) cs ↔ ∃ k d, j = i + (k + 1) ∧
        (c :: cs)[k + 1]? = some d ∧ d.isNamed = true ∧ way ∈ d.ways := by
      rw [ih]
      simp only [List.getElem?_cons_succ, Nat.add_assoc, Nat.add_comm 1]
    rw [← Nat.or_exists_add_one, ← hrest, waysFrom]
    by_cases hc : c.isNamed = true
    · have hhere : j :: way ∈ c.ways.map (i :: ·) ↔ j = i ∧ way ∈ c.ways := by
        simp [eq_comm, and_comm]
      rw [if_pos hc, List.mem_append, hhere]
      simp [hc]
    · simp [hc]

/-- A way goes to a named child and on from there. -/
theorem cons_mem_ways_iff {n : Node} : j :: way ∈ n.ways ↔
    ∃ c, n.children[j]? = some c ∧ c.isNamed = true ∧ way ∈ c.ways := by
  obtain ⟨l, cs⟩ := n
  rw [ways, List.mem_cons, cons_mem_waysFrom_iff]
  simp [children]

/-- The empty way is one. -/
theorem nil_mem_ways (n : Node) : [] ∈ n.ways := by
  obtain ⟨l, cs⟩ := n
  simp [ways]

end Node

namespace Place

variable {p q : Place} {way : List Nat} {j : Nat}

/-- A way leads to a named node. -/
def LeadsToNamed (p : Place) (way : List Nat) : Prop :=
  ∃ q, p.follow way = some q ∧ q.node.isNamed = true

/-- A way is followed to a child and on from there. -/
theorem follow_cons_eq_some_iff : p.follow (j :: way) = some q ↔
    ∃ c, p.node.children[j]? = some c ∧ follow ⟨c, p.node :: p.above⟩ way = some q := by
  rw [follow, Option.bind_eq_some_iff]

/-- A walk goes along the ways on which every step comes to a named node. -/
theorem mem_ways_iff :
    way ∈ p.node.ways ↔ ∀ v, v <+: way → v ≠ [] → p.LeadsToNamed v := by
  induction way generalizing p with
  | nil => simp [Node.nil_mem_ways]
  | cons j way ih =>
    rw [Node.cons_mem_ways_iff]
    constructor
    · rintro ⟨c, hc, hnamed, hway⟩ v hv hne
      obtain ⟨k, v, rfl⟩ := List.exists_cons_of_ne_nil hne
      obtain ⟨rfl, hbelow⟩ := List.cons_prefix_cons.1 hv
      by_cases hnil : v = []
      · subst hnil
        exact ⟨_, follow_cons_eq_some_iff.2 ⟨c, hc, rfl⟩, hnamed⟩
      · obtain ⟨q, hq, hnamed⟩ := (ih (p := ⟨c, p.node :: p.above⟩)).1 hway v hbelow hnil
        exact ⟨q, follow_cons_eq_some_iff.2 ⟨c, hc, hq⟩, hnamed⟩
    · intro h
      obtain ⟨q, hq, hnamed⟩ := h [j] (by simp) (by simp)
      obtain ⟨c, hc, hq⟩ := follow_cons_eq_some_iff.1 hq
      cases hq
      refine ⟨c, hc, hnamed, (ih (p := ⟨c, p.node :: p.above⟩)).2 fun v hv _ => ?_⟩
      obtain ⟨q, hq, hnamed⟩ := h (j :: v) (List.cons_prefix_cons.2 ⟨rfl, hv⟩) (by simp)
      obtain ⟨d, hd, hq⟩ := follow_cons_eq_some_iff.1 hq
      rw [hc, Option.some.injEq] at hd
      exact ⟨q, hd ▸ hq, hnamed⟩

end Place

/-! ## The order of the source -/

namespace Node

/-- Whether the named children of every node of a walk lie inside the node, one behind the other, and no node
of the walk ends in front of its start. -/
def inSourceOrder (n : Node) : Bool := n.spansNested && n.walk.all fun m => m.start ≤ m.stop

variable {n m c : Node}

/-- If a tree is in the order of the source, the nodes of its walk are. -/
theorem inSourceOrder_of_mem_walk (h : n.inSourceOrder = true) (hm : m ∈ n.walk) :
    m.inSourceOrder = true := by
  simp only [inSourceOrder, spansNested, Bool.and_eq_true, List.all_eq_true] at h ⊢
  constructor
  · intro k hk
    exact h.1 k (mem_walk_trans hm hk)
  · intro k hk
    exact h.2 k (mem_walk_trans hm hk)

/-- The named children of a node stand one behind the other. -/
theorem pairwise_namedChildren (h : n.inSourceOrder = true) :
    n.namedChildren.Pairwise fun a b => a.stop ≤ b.start := by
  simp only [inSourceOrder, spansNested, Bool.and_eq_true, List.all_eq_true] at h
  exact of_decide_eq_true (h.1 n n.mem_walk_self).2

/-- A node in the order of the source starts no later than it stops. -/
theorem start_le_stop (h : n.inSourceOrder = true) : n.start ≤ n.stop := by
  simp only [inSourceOrder, Bool.and_eq_true, List.all_eq_true] at h
  exact of_decide_eq_true (h.2 n n.mem_walk_self)

end Node

namespace Place

variable {p q c : Place}

/-- What a walk comes to lies inside the node where it starts. -/
theorem covers_of_mem_walk (h : p.node.inSourceOrder = true) (hq : q ∈ p.walk) :
    p.node.covers q.node = true := by
  simp only [Node.inSourceOrder, Bool.and_eq_true] at h
  exact (mem_walk_iff.1 hq).covers h.1

/-- In the order of the source, no place of a walk starts in front of an earlier one. -/
theorem pairwise_walk_start (h : p.node.inSourceOrder = true) :
    p.walk.Pairwise fun a b => a.node.start ≤ b.node.start := by
  obtain ⟨n, above⟩ := p
  induction n using Node.induction_children generalizing above with
  | h l cs ih =>
    let p : Place := ⟨.node l cs, above⟩
    have hchild : ∀ c ∈ p.namedChildren, c.node.inSourceOrder = true := by
      intro c hc
      exact Node.inSourceOrder_of_mem_walk h (Node.mem_walk_of_namedChild (node_mem_namedChildren hc))
    have hfirst : ∀ q ∈ p.walk, p.node.start ≤ q.node.start := by
      intro q hq
      exact Node.start_le_of_covers (covers_of_mem_walk h hq)
    rw [walk_eq] at hfirst ⊢
    refine List.pairwise_cons.2 ⟨fun q hq => hfirst q (List.mem_cons_of_mem _ hq), ?_⟩
    rw [List.pairwise_flatMap]
    constructor
    · intro c hc
      obtain ⟨d, hd, rfl⟩ := List.mem_map.1 hc
      exact ih d (List.mem_filter.1 hd).1 _ (hchild _ hc)
    · -- What is in one child ends where the next child begins or earlier.
      have hspans : p.namedChildren.Pairwise fun a b => a.node.stop ≤ b.node.start := by
        rw [namedChildren, List.pairwise_map]
        exact Node.pairwise_namedChildren h
      refine hspans.imp_of_mem fun {a b} ha hb hab x hx y hy => ?_
      have hlast := Node.stop_le_of_covers (covers_of_mem_walk (hchild a ha) hx)
      have hnext := Node.start_le_of_covers (covers_of_mem_walk (hchild b hb) hy)
      have hwide := Node.start_le_stop
        (Node.inSourceOrder_of_mem_walk (hchild a ha) (mem_walk_iff.1 hx).mem_walk)
      omega

/-! ### Sorting by the start -/

/-- The order of places is that of their starts. -/
theorem comparison_start :
    StableSort.Comparison fun a b : Place => decide (a.node.start ≤ b.node.start) :=
  .ofKey (fun p => p.node.start) fun a b => by simp

/-- Sorted places stand in the order of their starts. -/
theorem pairwise_mergeSort_start (l : List Place) :
    (l.mergeSort fun a b => a.node.start ≤ b.node.start).Pairwise fun a b =>
      a.node.start ≤ b.node.start := by
  simpa using List.pairwise_mergeSort comparison_start.trans comparison_start.total l

/-- A sort by the start changes nothing about what is picked out of a walk. -/
theorem mergeSort_of_sublist_walk (h : p.node.inSourceOrder = true) {l : List Place}
    (hl : l.Sublist p.walk) : (l.mergeSort fun a b => a.node.start ≤ b.node.start) = l := by
  apply List.mergeSort_of_pairwise
  simpa using (pairwise_walk_start h).sublist hl

/-- What starts in front of something else comes in front of it on a walk. -/
theorem sublist_walk_of_start_lt (h : p.node.inSourceOrder = true) {a b : Place} (ha : a ∈ p.walk)
    (hb : b ∈ p.walk) (hlt : a.node.start < b.node.start) : [a, b].Sublist p.walk := by
  obtain ⟨before, behind, hsplit⟩ := List.append_of_mem ha
  have hstarts := pairwise_walk_start h
  rw [hsplit] at hb hstarts ⊢
  have hbehind : b ∈ behind := by
    rcases List.mem_append.1 hb with hb | hb
    · have := (List.pairwise_append.1 hstarts).2.2 b hb a List.mem_cons_self
      omega
    · apply (List.mem_cons.1 hb).resolve_left
      rintro rfl
      omega
  apply List.Sublist.trans _ (List.sublist_append_right before (a :: behind))
  exact (List.singleton_sublist.2 hbehind).cons_cons a

end Place

end UxLint
