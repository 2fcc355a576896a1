import UxLint.Rule.InitialLoading
import UxLint.Syntax.Outline

/-!
# Nodes inside a tree

Walks, searches for calls and searches for functions only ever come back with nodes of the tree that
they were started on. Every node of a tree that was laid over a source therefore knows the rows of its
own ends.
-/

set_option autoImplicit false

namespace UxLint

/-- What holds of a node if it holds of its children holds of every node. -/
theorem Node.induction_children {P : Node → Prop}
    (h : ∀ l cs, (∀ c ∈ cs, P c) → P (.node l cs)) (n : Node) : P n := by
  match n with
  | .node l cs => exact h l cs fun c _ => induction_children h c

/-- A node of a tree: the root, or a child of a node of the tree. -/
inductive Node.Inside (root : Node) : Node → Prop where
  | self : Inside root root
  | child {n c : Node} : Inside root n → c ∈ n.children → Inside root c

namespace Node.Inside

variable {root n c : Node}

/-- What is inside of a node inside of a tree is inside of the tree. -/
theorem trans (h : root.Inside n) (hc : n.Inside c) : root.Inside c := by
  induction hc with
  | self => exact h
  | child _ hmem ih => exact ih.child hmem

/-- What fills a field is inside. -/
theorem field? {name : String} (h : root.Inside n) (hf : n.field? name = some c) : root.Inside c :=
  h.child (List.mem_of_find?_eq_some hf)

/-- A named child is inside. -/
theorem namedChild (h : root.Inside n) (hc : c ∈ n.namedChildren) : root.Inside c :=
  h.child (List.mem_filter.1 hc).1

/-- A child that is no comment is inside. -/
theorem item (h : root.Inside n) (hc : c ∈ n.items) : root.Inside c :=
  h.namedChild (List.mem_filter.1 hc).1

end Node.Inside

namespace Node

mutual

/-- Whether all nodes of a tree have a property. -/
def every (p : Node → Bool) : Node → Bool
  | node l cs => p (node l cs) && everyAll p cs

/-- Whether all nodes of several trees have a property. -/
def everyAll (p : Node → Bool) : List Node → Bool
  | [] => true
  | c :: cs => every p c && everyAll p cs

end

/-- What holds everywhere in a row holds everywhere in each of its nodes. -/
theorem every_of_everyAll {p : Node → Bool} {cs : List Node} (h : everyAll p cs = true) {c : Node}
    (hc : c ∈ cs) : c.every p = true := by
  induction cs with
  | nil => cases hc
  | cons d cs ih =>
    rw [everyAll, Bool.and_eq_true] at h
    rcases List.mem_cons.1 hc with rfl | hc
    · exact h.1
    · exact ih h.2 hc

/-- What holds everywhere in a tree holds everywhere in the nodes inside of it. -/
theorem Inside.every {p : Node → Bool} {root n : Node} (h : root.Inside n)
    (hroot : root.every p = true) : n.every p = true := by
  induction h with
  | self => exact hroot
  | @child n c _ hc ih =>
    obtain ⟨l, cs⟩ := n
    rw [Node.every, Bool.and_eq_true] at ih
    exact every_of_everyAll ih.2 hc

/-- What holds everywhere in a node holds of the node. -/
theorem holds_of_every {p : Node → Bool} {n : Node} (h : n.every p = true) : p n = true := by
  obtain ⟨l, cs⟩ := n
  rw [every, Bool.and_eq_true] at h
  exact h.1

end Node

mutual

/-- The named walk of a node stays in its tree. -/
theorem Node.inside_of_mem_walk (n : Node) {m : Node} (h : m ∈ n.walk) : n.Inside m := by
  match n with
  | .node l cs =>
    rw [Node.walk, List.mem_cons] at h
    rcases h with rfl | h
    · exact .self
    · obtain ⟨c, hc, hm⟩ := Node.inside_of_mem_walkAll cs h
      exact (Node.Inside.self.child hc).trans hm

/-- What a walk over a row comes to is inside of one of its nodes. -/
theorem Node.inside_of_mem_walkAll (cs : List Node) {m : Node} (h : m ∈ Node.walkAll cs) :
    ∃ c ∈ cs, c.Inside m := by
  match cs with
  | [] => simp [Node.walkAll] at h
  | c :: cs =>
    rw [Node.walkAll] at h
    have hrest : m ∈ Node.walkAll cs → ∃ d ∈ c :: cs, d.Inside m := by
      intro hm
      obtain ⟨d, hd, hin⟩ := Node.inside_of_mem_walkAll cs hm
      exact ⟨d, List.mem_cons_of_mem c hd, hin⟩
    split at h
    · rcases List.mem_append.1 h with h | h
      · exact ⟨c, List.mem_cons_self, Node.inside_of_mem_walk c h⟩
      · exact hrest h
    · exact hrest h

end

namespace Place

/-- Every place that the walk visits lies in the tree of a place on the stack. -/
theorem inside_of_mem_walkStack (stack : List Place) :
    ∀ p ∈ walkStack stack, ∃ q ∈ stack, q.node.Inside p.node := by
  fun_induction walkStack stack with
  | case1 => simp
  | case2 q stack ih =>
    intro p hp
    rcases List.mem_cons.1 hp with rfl | hp
    · exact ⟨p, List.mem_cons_self, .self⟩
    · obtain ⟨r, hr, hin⟩ := ih p hp
      rcases List.mem_append.1 hr with hr | hr
      · obtain ⟨c, hc, rfl⟩ := List.mem_map.1 hr
        exact ⟨q, List.mem_cons_self, (Node.Inside.self.namedChild hc).trans hin⟩
      · exact ⟨r, List.mem_cons_of_mem q hr, hin⟩

/-- What a walk comes to is inside. -/
theorem inside_of_mem_walk {p q : Place} (h : p ∈ q.walk) : q.node.Inside p.node := by
  obtain ⟨r, hr, hin⟩ := inside_of_mem_walkStack [q] p h
  rw [List.mem_singleton] at hr
  exact hr ▸ hin

/-- What is found below a place is inside. -/
theorem inside_of_mem_findAll {p q : Place} {f : Node → Bool} (h : p ∈ q.findAll f) :
    q.node.Inside p.node :=
  inside_of_mem_walk (List.mem_filter.1 h).1

/-- The arguments of a call are inside. -/
theorem inside_of_mem_arguments {p a : Place} (h : a ∈ p.arguments) : p.node.Inside a.node := by
  unfold arguments field? at h
  cases hf : p.node.field? "arguments" with
  | none => simp [hf] at h
  | some args =>
    simp only [hf, Option.map_some] at h
    obtain ⟨c, hc, rfl⟩ := List.mem_map.1 h
    exact (Node.Inside.self.field? hf).item hc

/-- Adding a place under a name adds no other place to an index. -/
theorem mem_addUnder {name : String} {p x : Place} {index : List (String × List Place)}
    {e : String × List Place} (he : e ∈ addUnder name p index) (hx : x ∈ e.2) :
    x = p ∨ ∃ e' ∈ index, x ∈ e'.2 := by
  induction index with
  | nil =>
    rw [addUnder, List.mem_singleton] at he
    subst he
    exact .inl (List.mem_singleton.1 hx)
  | cons d rest ih =>
    rw [addUnder] at he
    split at he
    · rcases List.mem_cons.1 he with rfl | he
      · rcases List.mem_append.1 hx with hx | hx
        · exact .inr ⟨d, List.mem_cons_self, hx⟩
        · exact .inl (List.mem_singleton.1 hx)
      · exact .inr ⟨e, List.mem_cons_of_mem d he, hx⟩
    · rcases List.mem_cons.1 he with rfl | he
      · exact .inr ⟨e, List.mem_cons_self, hx⟩
      · rcases ih he with h | ⟨e', he', hx'⟩
        · exact .inl h
        · exact .inr ⟨e', List.mem_cons_of_mem d he', hx'⟩

/-- The places in an index are functions that were met on the walk. -/
theorem mem_findAll_of_mem_functionIndex {root x : Place} {e : String × List Place}
    (he : e ∈ root.functionIndex) (hx : x ∈ e.2) : x ∈ root.findAll Node.isFunction := by
  -- The fold keeps: what is in the index is among the places that it started from or went over.
  have hfold : ∀ (found : List Place) (index : List (String × List Place)),
      e ∈ found.foldl
        (fun index p => if p.functionName == "" then index else addUnder p.functionName p index)
        index → x ∈ found ∨ ∃ e' ∈ index, x ∈ e'.2 := by
    intro found
    induction found with
    | nil => exact fun index h => .inr ⟨e, h, hx⟩
    | cons p found ih =>
      intro index h
      rcases ih _ h with h | ⟨e', he', hx'⟩
      · exact .inl (List.mem_cons_of_mem p h)
      · dsimp only at he'
        split at he'
        · exact .inr ⟨e', he', hx'⟩
        · rcases mem_addUnder he' hx' with rfl | h
          · exact .inl List.mem_cons_self
          · exact .inr h
  rcases hfold _ [] he with h | ⟨e', he', -⟩
  · exact h
  · cases he'

/-- A walk comes to the functions of the index. -/
theorem mem_walk_of_mem_functionIndex {root x : Place} {e : String × List Place}
    (he : e ∈ root.functionIndex) (hx : x ∈ e.2) : x ∈ root.walk :=
  (List.mem_filter.1 (mem_findAll_of_mem_functionIndex he hx)).1

end Place

namespace Classifier

/-- A walk comes to the requests. -/
theorem mem_walk_of_mem_requests {r : Classifier} {p q : Place} (h : p ∈ r.requests q) :
    p ∈ q.walk :=
  (List.mem_filter.1 (List.mem_filter.1 (List.mem_mergeSort.1 h)).1).1

end Classifier

/-- The callbacks of page entry lie in the tree that they were looked for in. -/
theorem InitialLoading.inside_of_mem_lifecycleCallbacks {root p : Place}
    (h : p ∈ lifecycleCallbacks root) : root.node.Inside p.node := by
  rcases List.mem_append.1 (List.mem_mergeSort.1 h) with h | h
  · obtain ⟨call, hcall, hp⟩ := List.mem_filterMap.1 h
    unfold hookCallback? at hp
    split at hp
    · have harg := List.mem_of_head? (Option.filter_eq_some_iff.1 hp).1
      exact (Place.inside_of_mem_findAll hcall).trans (Place.inside_of_mem_arguments harg)
    · cases hp
  · obtain ⟨e, he, hp⟩ := List.mem_flatMap.1 h
    exact Place.inside_of_mem_walk
      (Place.mem_walk_of_mem_functionIndex (List.mem_filter.1 he).1 hp)

/-! ## Rows -/

/-- A named node on the first row. -/
def Node.onFirstRow (kind field text : String) (start : Nat) (children : List Node) : Node :=
  .node ⟨kind, field, true, start, start + text.length, 0, 0, text⟩ children

namespace Outline

/-- A node says the rows of its ends rightly. -/
def KnowsRows (source : List UInt8) (n : Node) : Prop :=
  n.label.row = rowAt source n.start ∧ n.label.stopRow = rowAt source n.stop

/-- A node of a row that is laid over a source is one of the row, laid over it. -/
theorem mem_laidOverAll {source : List UInt8} {n : Node} {cs : List Outline}
    (h : n ∈ laidOverAll source cs) : ∃ c ∈ cs, n = laidOver source c := by
  induction cs with
  | nil => simp [laidOverAll] at h
  | cons c cs ih =>
    rw [laidOverAll] at h
    rcases List.mem_cons.1 h with rfl | h
    · exact ⟨c, List.mem_cons_self, rfl⟩
    · obtain ⟨d, hd, rfl⟩ := ih h
      exact ⟨d, List.mem_cons_of_mem c hd, rfl⟩

/-- Every node of a tree that was laid over a source is an outline laid over it. -/
theorem exists_laidOver {source : List UInt8} {o : Outline} {n : Node}
    (h : (laidOver source o).Inside n) : ∃ o', n = laidOver source o' := by
  induction h with
  | self => exact ⟨o, rfl⟩
  | child _ hc ih =>
    obtain ⟨⟨kind, field, named, start, stop, cs⟩, rfl⟩ := ih
    rw [laidOver] at hc
    obtain ⟨d, -, rfl⟩ := mem_laidOverAll hc
    exact ⟨d, rfl⟩

/-- The nodes of a tree that is laid over a source know their rows. -/
theorem knowsRows_of_inside {source : List UInt8} {o : Outline} {n : Node}
    (h : (laidOver source o).Inside n) : KnowsRows source n := by
  obtain ⟨⟨kind, field, named, start, stop, cs⟩, rfl⟩ := exists_laidOver h
  rw [laidOver]
  exact ⟨rfl, rfl⟩

end Outline

end UxLint
