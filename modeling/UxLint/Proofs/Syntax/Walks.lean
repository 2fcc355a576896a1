import UxLint.Proofs.Syntax.Inside
import Mathlib.Data.List.Nodup

/-!
# What a walk comes to

A walk comes to a node and to everything that is reached from it over named children (`Place.Under`),
and to nothing else. The nodes above a place that a walk comes to are those above the place it started
from, with nodes of the walk in front of them. Two walks from one place, over nodes and over places, come
to the same nodes. No walk takes one way down twice, even where two children look alike
(`exists_ways_walk`).
-/

set_option autoImplicit false

namespace UxLint

/-! ## Walks over nodes -/

namespace Node

variable {n m k c : Node}

/-- The walk over a row is that over its named nodes, one after the other. -/
theorem walkAll_eq_flatMap (cs : List Node) : walkAll cs = (cs.filter isNamed).flatMap walk := by
  induction cs with
  | nil => rfl
  | cons c cs ih =>
    rw [walkAll, ih, List.filter_cons]
    split
    · rw [List.flatMap_cons]
    · rfl

/-- A walk comes to the node and then goes through the walks of the named children. -/
theorem walk_eq (n : Node) : n.walk = n :: n.namedChildren.flatMap walk := by
  obtain ⟨l, cs⟩ := n
  rw [walk, walkAll_eq_flatMap]
  rfl

/-- A walk comes to the node itself and to what the walks of its named children come to. -/
theorem mem_walk_iff : m ∈ n.walk ↔ m = n ∨ ∃ c ∈ n.namedChildren, m ∈ c.walk := by
  rw [walk_eq, List.mem_cons, List.mem_flatMap]

/-- A walk comes to the node that it starts from. -/
theorem mem_walk_self (n : Node) : n ∈ n.walk := mem_walk_iff.2 (.inl rfl)

/-- A walk comes to the named children. -/
theorem mem_walk_of_namedChild (hc : c ∈ n.namedChildren) : c ∈ n.walk :=
  mem_walk_iff.2 (.inr ⟨c, hc, c.mem_walk_self⟩)

/-- A walk comes to what the walks from its nodes come to. -/
theorem mem_walk_trans (hm : m ∈ n.walk) (hk : k ∈ m.walk) : k ∈ n.walk := by
  induction n using induction_children with
  | h l cs ih =>
    rcases mem_walk_iff.1 hm with rfl | ⟨c, hc, hm⟩
    · exact hk
    · exact mem_walk_iff.2 (.inr ⟨c, hc, ih c (List.mem_filter.1 hc).1 hm⟩)

/-- A node looks like itself. -/
theorem sameSpot_self (n : Node) : n.sameSpot n = true := by
  simp [sameSpot]

end Node

/-! ## Walks over places -/

namespace Place

/-- A walk over a stack comes to all that lies on it. -/
theorem mem_walkStack_of_mem (stack : List Place) : ∀ p ∈ stack, p ∈ walkStack stack := by
  fun_induction walkStack stack with
  | case1 => simp
  | case2 q stack ih =>
    intro p hp
    rcases List.mem_cons.1 hp with rfl | hp
    · exact List.mem_cons_self
    · exact List.mem_cons_of_mem q (ih p (List.mem_append_right _ hp))

/-- A walk over a stack comes to the named children of its places. -/
theorem mem_walkStack_namedChild (stack : List Place) :
    ∀ p ∈ walkStack stack, ∀ c ∈ p.namedChildren, c ∈ walkStack stack := by
  fun_induction walkStack stack with
  | case1 => simp
  | case2 q stack ih =>
    intro p hp c hc
    refine List.mem_cons_of_mem q ?_
    rcases List.mem_cons.1 hp with rfl | hp
    · exact mem_walkStack_of_mem _ c (List.mem_append_left _ hc)
    · exact ih p hp c hc

/-- A place is reached from another one over named children. -/
inductive Under (p : Place) : Place → Prop where
  | self : Under p p
  | child {q c : Place} : Under p q → c ∈ q.namedChildren → Under p c

variable {p q r c : Place}

/-- What stands under a place that stands under another one stands under this one. -/
theorem Under.trans (h : p.Under q) (hr : q.Under r) : p.Under r := by
  induction hr with
  | self => exact h
  | child _ hc ih => exact .child ih hc

/-- What a walk over a stack comes to stands under a place of the stack. -/
theorem under_of_mem_walkStack (stack : List Place) :
    ∀ q ∈ walkStack stack, ∃ p ∈ stack, p.Under q := by
  fun_induction walkStack stack with
  | case1 => simp
  | case2 p stack ih =>
    intro q hq
    rcases List.mem_cons.1 hq with rfl | hq
    · exact ⟨q, List.mem_cons_self, .self⟩
    · obtain ⟨r, hr, hunder⟩ := ih q hq
      rcases List.mem_append.1 hr with hr | hr
      · exact ⟨p, List.mem_cons_self, (Under.child .self hr).trans hunder⟩
      · exact ⟨r, List.mem_cons_of_mem p hr, hunder⟩

/-- A walk comes to what stands under its place. -/
theorem mem_walk_iff : q ∈ p.walk ↔ p.Under q := by
  constructor
  · intro h
    obtain ⟨r, hr, hunder⟩ := under_of_mem_walkStack [p] q h
    rw [List.mem_singleton] at hr
    exact hr ▸ hunder
  · intro h
    induction h with
    | self => exact mem_walkStack_of_mem _ p List.mem_cons_self
    | child _ hc ih => exact mem_walkStack_namedChild _ _ ih _ hc

/-! ### Ways up -/

/-- Above a child stand its parent and what stands above that. -/
theorem above_of_mem_namedChildren (hc : c ∈ q.namedChildren) : c.above = q.node :: q.above := by
  obtain ⟨n, -, rfl⟩ := List.mem_map.1 hc
  rfl

/-- The node of a child is a child of the node. -/
theorem node_mem_namedChildren (hc : c ∈ q.namedChildren) : c.node ∈ q.node.namedChildren := by
  obtain ⟨n, hn, rfl⟩ := List.mem_map.1 hc
  exact hn

/-- A named child is named. -/
theorem isNamed_of_mem_namedChildren (hc : c ∈ q.namedChildren) : c.node.isNamed = true :=
  (List.mem_filter.1 (node_mem_namedChildren hc)).2

/-- A place is a child of one place only. -/
theorem parent_unique (hq : c ∈ q.namedChildren) (hp : c ∈ p.namedChildren) : q = p := by
  have h := (above_of_mem_namedChildren hq).symm.trans (above_of_mem_namedChildren hp)
  cases q
  cases p
  injection h with hnode habove
  subst hnode habove
  rfl

/-- What is reached is the place itself or has more nodes above it. -/
theorem Under.eq_or_length_lt (h : p.Under q) : q = p ∨ p.above.length < q.above.length := by
  induction h with
  | self => exact .inl rfl
  | @child q c _ hc ih =>
    have hlength : c.above.length = q.above.length + 1 := by
      rw [above_of_mem_namedChildren hc, List.length_cons]
    rcases ih with rfl | ih
    · exact .inr (by omega)
    · exact .inr (by omega)

/-- Places that stand under each other are the same. -/
theorem Under.antisymm (h : p.Under q) (h' : q.Under p) : q = p := by
  rcases h.eq_or_length_lt with h | h
  · exact h
  · rcases h'.eq_or_length_lt with h' | h'
    · exact h'.symm
    · omega

/-- A child is reached from itself and from whatever its parent is reached from. -/
theorem under_child_iff (hc : c ∈ q.namedChildren) : p.Under c ↔ p = c ∨ p.Under q := by
  constructor
  · intro h
    cases h with
    | self => exact .inl rfl
    | @child q' _ h hc' => exact .inr (parent_unique hc' hc ▸ h)
  · rintro (rfl | h)
    · exact .self
    · exact .child h hc

/-- In a tree, a place with nodes above it that is reached from the root is a child of the place above it,
which is reached as well. -/
theorem under_above {n m : Node} {rest : List Node} (h : (root n).Under c)
    (habove : c.above = m :: rest) :
    (root n).Under ⟨m, rest⟩ ∧ c ∈ namedChildren ⟨m, rest⟩ := by
  cases h with
  | self => cases habove
  | @child q _ hq hc =>
    have hparent := (above_of_mem_namedChildren hc).symm.trans habove
    cases q
    cases hparent
    exact ⟨hq, hc⟩

namespace Under

/-- The walk over nodes comes to every place that is reached. -/
theorem mem_walk (h : p.Under q) : q.node ∈ p.node.walk := by
  induction h with
  | self => exact p.node.mem_walk_self
  | child _ hc ih =>
    obtain ⟨n, hn, rfl⟩ := List.mem_map.1 hc
    exact Node.mem_walk_trans ih (Node.mem_walk_of_namedChild hn)

/-- A place that is reached and is another one lies below the place it is reached from, with the nodes
on the way in between. -/
theorem exists_above (h : p.Under q) :
    q = p ∨ ∃ way, q.above = way ++ p.node :: p.above ∧
      ∃ c ∈ p.node.namedChildren, q.node ∈ c.walk ∧ ∀ n ∈ way, n ∈ c.walk := by
  induction h with
  | self => exact .inl rfl
  | @child q r _ hc ih =>
    obtain ⟨n, hn, rfl⟩ := List.mem_map.1 hc
    refine .inr ?_
    rcases ih with rfl | ⟨way, habove, c, hc, hq, hway⟩
    · exact ⟨[], rfl, n, hn, n.mem_walk_self, by simp⟩
    · refine ⟨q.node :: way, by rw [habove]; rfl, c, hc, ?_, ?_⟩
      · exact Node.mem_walk_trans hq (Node.mem_walk_of_namedChild hn)
      · intro m hm
        rcases List.mem_cons.1 hm with rfl | hm
        · exact hq
        · exact hway m hm

end Under

/-! ### A walk through its parts -/

/-- A walk over two stacks goes over the one and then over the other. -/
theorem walkStack_append (a b : List Place) : walkStack (a ++ b) = walkStack a ++ walkStack b := by
  fun_induction walkStack a with
  | case1 => rfl
  | case2 p stack ih =>
    rw [List.cons_append, walkStack, ← List.append_assoc, ih]
    rfl

/-- A walk over a stack is the walk from each of its places. -/
theorem walkStack_eq_flatMap (stack : List Place) : walkStack stack = stack.flatMap walk := by
  induction stack with
  | nil => rw [walkStack]; rfl
  | cons p stack ih =>
    have hsplit := walkStack_append [p] stack
    rw [List.singleton_append] at hsplit
    rw [hsplit, ih]
    rfl

/-- A walk comes to the place and then goes through the walks of the named children. -/
theorem walk_eq (p : Place) : p.walk = p :: p.namedChildren.flatMap walk := by
  rw [walk, walkStack, List.append_nil, walkStack_eq_flatMap]

/-! ### Ways down -/

/-- The place that a way down leads to: each number picks one of the named children. -/
def at? (p : Place) : List Nat → Option Place
  | [] => some p
  | i :: way => p.namedChildren[i]?.bind fun c => c.at? way

/-- A walk comes to every place that a way down leads to. -/
theorem mem_walk_of_at? {way : List Nat} (h : p.at? way = some q) : q ∈ p.walk := by
  rw [mem_walk_iff]
  induction way generalizing p with
  | nil =>
    cases h
    exact .self
  | cons i way ih =>
    obtain ⟨c, hc, h⟩ := Option.bind_eq_some_iff.1 h
    exact (Under.child .self (List.mem_of_getElem? hc)).trans (ih h)

/-- The place that a way leads to whose first step picks one of several places. -/
def pick? (cs : List Place) : List Nat → Option Place
  | [] => none
  | i :: way => cs[i]?.bind fun c => c.at? way

/-- The same way with one more place before those that its first step picks from. -/
def shifted : List Nat → List Nat
  | [] => []
  | i :: way => (i + 1) :: way

/-- Ways that agree after a shift agree. -/
theorem shifted_injective : Function.Injective shifted := by
  rintro (_ | ⟨i, v⟩) (_ | ⟨j, w⟩) h <;> simp_all [shifted]

/-- A shifted way leads past the first of a row. -/
theorem pick?_shifted (c : Place) (cs : List Place) {way : List Nat} (h : way ≠ []) :
    pick? (c :: cs) (shifted way) = pick? cs way := by
  cases way with
  | nil => exact absurd rfl h
  | cons i way => rfl

/-- If the walks of several places go along ways without taking one twice, so do these walks one after
the other. -/
theorem exists_ways_flatMap (cs : List Place)
    (h : ∀ c ∈ cs, ∃ ways : List (List Nat), ways.Nodup ∧ ways.map c.at? = c.walk.map some) :
    ∃ ways : List (List Nat), ways.Nodup ∧ [] ∉ ways ∧
      ways.map (pick? cs) = (cs.flatMap walk).map some := by
  induction cs with
  | nil => exact ⟨[], List.nodup_nil, List.not_mem_nil, rfl⟩
  | cons c cs ih =>
    obtain ⟨first, hfirst, hwalk⟩ := h c List.mem_cons_self
    obtain ⟨rest, hrest, hne, hwalks⟩ := ih fun d hd => h d (List.mem_cons_of_mem c hd)
    refine ⟨first.map (0 :: ·) ++ rest.map shifted, ?_, ?_, ?_⟩
    · refine (hfirst.map (List.cons_injective)).append (hrest.map shifted_injective) ?_
      intro way hway hshifted
      obtain ⟨v, -, rfl⟩ := List.mem_map.1 hway
      obtain ⟨w, -, hw⟩ := List.mem_map.1 hshifted
      cases w <;> simp [shifted] at hw
    · intro hmem
      rcases List.mem_append.1 hmem with hmem | hmem
      · simp at hmem
      · obtain ⟨w, hw, hnil⟩ := List.mem_map.1 hmem
        cases w with
        | nil => exact hne hw
        | cons i w => simp [shifted] at hnil
    · rw [List.map_append, List.map_map, List.map_map, List.flatMap_cons, List.map_append, ← hwalk,
        ← hwalks]
      refine congrArg₂ (· ++ ·) rfl (List.map_congr_left fun w hw => ?_)
      exact pick?_shifted c cs fun hnil => hne (hnil ▸ hw)

/-- A walk goes along ways down and takes none of them twice. -/
theorem exists_ways_walk (p : Place) :
    ∃ ways : List (List Nat), ways.Nodup ∧ ways.map p.at? = p.walk.map some := by
  obtain ⟨n, above⟩ := p
  induction n using Node.induction_children generalizing above with
  | h l cs ih =>
    let p : Place := ⟨.node l cs, above⟩
    obtain ⟨ways, hnodup, hne, hwalks⟩ := exists_ways_flatMap p.namedChildren fun c hc => by
      obtain ⟨m, hm, rfl⟩ := List.mem_map.1 hc
      exact ih m (List.mem_filter.1 hm).1 _
    refine ⟨[] :: ways, List.nodup_cons.2 ⟨hne, hnodup⟩, ?_⟩
    rw [walk_eq, List.map_cons, List.map_cons, ← hwalks]
    refine congrArg (some p :: ·) (List.map_congr_left fun w hw => ?_)
    cases w with
    | nil => exact absurd hw hne
    | cons i w => rfl

end Place

end UxLint
