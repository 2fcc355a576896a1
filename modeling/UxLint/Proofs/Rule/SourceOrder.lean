import UxLint.Proofs.Request.Sites
import UxLint.Proofs.Rule.Callbacks
import UxLint.Proofs.Syntax.Traversal
import Mathlib.Data.List.Induction

/-!
# What is found in the order of the source

The rules report on the first of what they find, so what they find is sorted by where it starts. In a tree
whose nodes lie inside one another in the order of the source, a walk goes from the front to the back, and
such a sort leaves what was picked out of a walk as it is: the requests of a place are those of its walk, and
the first of them is the first in the source. The callbacks of page entry are gathered in two goes, those that
are handed over and those that are named so, and the sort puts the two together: callbacks that were gathered
in the order of the walk stay in it, and those that start apart are brought into it (`walk_preorder`).
-/

set_option autoImplicit false

namespace UxLint

/-! ## Named nodes -/

namespace Node

/-- Whether the unnamed nodes below a node hold unnamed nodes only. The marks of a parsed text are single tokens, so
this holds of every tree that a parser makes. -/
def marksHoldMarks (n : Node) : Bool :=
  n.every fun m => m.children.all fun c => c.isNamed || c.children.all fun d => !d.isNamed

end Node

namespace Place

variable {p q : Place} {way : List Nat} {name : String} {index : List (String × List Place)}

/-- What stands below the start of a way is named or holds unnamed nodes only. -/
theorem isNamed_or_mark_of_follow (hmarks : p.node.marksHoldMarks = true) (h : p.follow way = some q)
    (hne : way ≠ []) : q.node.isNamed = true ∨ ∀ c ∈ q.node.children, c.isNamed = false := by
  induction way generalizing p with
  | nil => exact absurd rfl hne
  | cons j way ih =>
    obtain ⟨c, hc, hq⟩ := follow_cons_eq_some_iff.1 h
    have hmem : c ∈ p.node.children := List.mem_of_getElem? hc
    by_cases hnil : way = []
    · subst hnil
      cases hq
      have hchild := List.all_eq_true.1 (Node.holds_of_every hmarks) c hmem
      simpa using hchild
    · exact ih (p := ⟨c, p.node :: p.above⟩) ((Node.Inside.self.child hmem).every hmarks) hq hnil

/-- On a way to a named node, every step comes to a named node. -/
theorem leadsToNamed_of_append (hmarks : p.node.marksHoldMarks = true) (hne : way ≠ []) {rest : List Nat}
    (h : p.LeadsToNamed (way ++ rest)) : p.LeadsToNamed way := by
  induction rest using List.reverseRecOn with
  | nil => simpa using h
  | append_singleton rest j ih =>
    -- The last step goes from a node that holds a named one, so this node is named as well.
    obtain ⟨q, hq, hnamed⟩ := h
    rw [← List.append_assoc, follow_append] at hq
    obtain ⟨r, hr, hq⟩ := Option.bind_eq_some_iff.1 hq
    obtain ⟨c, hc, hq⟩ := follow_cons_eq_some_iff.1 hq
    cases hq
    apply ih
    refine ⟨r, hr, (isNamed_or_mark_of_follow hmarks hr (by simp [hne])).resolve_right ?_⟩
    intro hmark
    have hunnamed := hmark c (List.mem_of_getElem? hc)
    rw [hnamed] at hunnamed
    cases hunnamed

/-- Where marks hold marks only, a walk goes along all ways that lead to a named node. -/
theorem mem_ways_iff_of_marksHoldMarks (hmarks : p.node.marksHoldMarks = true) (hne : way ≠ []) :
    way ∈ p.node.ways ↔ p.LeadsToNamed way := by
  rw [mem_ways_iff]
  constructor
  · intro h
    exact h way (List.prefix_refl way) hne
  · rintro h v ⟨rest, rfl⟩ hv
    exact leadsToNamed_of_append hmarks hv h

/-! ## Functions by their names -/

/-- Adding the next place of a row to an index whose places are taken in the order of the row keeps them so. -/
theorem sublist_of_mem_addUnder {found : List Place} (h : ∀ e ∈ index, e.2.Sublist found) :
    ∀ e ∈ addUnder name p index, e.2.Sublist (found ++ [p]) := by
  induction index with
  | nil => simp [addUnder]
  | cons d rest ih =>
    have hrest : ∀ e ∈ rest, e.2.Sublist (found ++ [p]) := by
      intro e he
      exact (h e (List.mem_cons_of_mem d he)).trans (List.sublist_append_left found [p])
    have hfirst := h d List.mem_cons_self
    intro e he
    rw [addUnder] at he
    by_cases hname : d.1 = name
    · rw [if_pos (by simpa using hname)] at he
      rcases List.mem_cons.1 he with rfl | he
      · exact hfirst.append (List.Sublist.refl [p])
      · exact hrest e he
    · rw [if_neg (by simpa using hname)] at he
      rcases List.mem_cons.1 he with rfl | he
      · exact hfirst.trans (List.sublist_append_left found [p])
      · exact ih (fun e he => h e (List.mem_cons_of_mem d he)) e he

/-- The functions under a name stand in the order of the walk. -/
theorem sublist_walk_of_mem_functionIndex {root : Place} {e : String × List Place}
    (he : e ∈ root.functionIndex) : e.2.Sublist root.walk := by
  -- The fold keeps: what the index has under a name is taken in order from what it went over.
  have hfold : ∀ (later earlier : List Place) (index : List (String × List Place)),
      (∀ e ∈ index, e.2.Sublist earlier) → ∀ e ∈ later.foldl
        (fun index p => if p.functionName == "" then index else addUnder p.functionName p index)
        index, e.2.Sublist (earlier ++ later) := by
    intro later
    induction later with
    | nil =>
      intro earlier index h
      simpa using h
    | cons p later ih =>
      intro earlier index h
      rw [List.foldl_cons, ← List.singleton_append, ← List.append_assoc]
      apply ih
      split
      · intro e he
        exact (h e he).trans (List.sublist_append_left earlier [p])
      · exact sublist_of_mem_addUnder h
  have hfound := hfold (root.findAll Node.isFunction) [] [] (by simp) e he
  exact hfound.trans List.filter_sublist

end Place

namespace InitialLoading

variable {root p : Place}

/-- The callbacks of page entry in the order in which they are gathered. -/
def gathered (root : Place) : List Place :=
  root.calls.filterMap hookCallback? ++ Place.indexed lifecycleMethods.contains root.functionIndex

/-- The callbacks of page entry are sorted by where they start. -/
theorem lifecycleCallbacks_eq (root : Place) :
    lifecycleCallbacks root = (gathered root).mergeSort fun a b => a.node.start ≤ b.node.start := rfl

/-- A callback of page entry is named. -/
theorem isNamed_of_mem_lifecycleCallbacks (h : p ∈ lifecycleCallbacks root) : p.node.isNamed = true := by
  have hfunction : p.node.isFunction = true := by
    rcases mem_lifecycleCallbacks_iff.1 h with ⟨call, -, hcall⟩ | ⟨-, hmethod⟩
    · unfold hookCallback? at hcall
      split at hcall
      · exact (Option.filter_eq_some_iff.1 hcall).2
      · cases hcall
    · exact (Bool.and_eq_true_iff.1 hmethod).1
  exact (Bool.and_eq_true_iff.1 hfunction).1

/-- Where marks hold marks only, a walk comes to all callbacks. -/
theorem mem_walk_of_mem_lifecycleCallbacks (hmarks : root.node.marksHoldMarks = true)
    (h : p ∈ lifecycleCallbacks root) : p ∈ root.walk := by
  have hnamed := isNamed_of_mem_lifecycleCallbacks h
  obtain ⟨c, hc, rfl⟩ := List.mem_map.1 ((map_place_callbacks root).mem_iff.2 h)
  have hsite := follow_site hc
  by_cases hnil : c.site = []
  · exact Place.mem_walk_of_mem_ways (hnil ▸ root.node.nil_mem_ways) hsite
  · exact Place.mem_walk_of_mem_ways
      ((Place.mem_ways_iff_of_marksHoldMarks hmarks hnil).2 ⟨_, hsite, hnamed⟩) hsite

/-- Callbacks that were gathered in the order of the walk stay in this order. -/
theorem sublist_lifecycleCallbacks (h : root.node.inSourceOrder = true) {l : List Place}
    (hgathered : l.Sublist (gathered root)) (hwalk : l.Sublist root.walk) :
    l.Sublist (lifecycleCallbacks root) := by
  rw [lifecycleCallbacks_eq]
  apply List.sublist_mergeSort Place.comparison_start.trans Place.comparison_start.total _ hgathered
  simpa using (Place.pairwise_walk_start h).sublist hwalk

/-- The callbacks of page entry stand in the order of their starts. -/
theorem pairwise_lifecycleCallbacks (root : Place) :
    (lifecycleCallbacks root).Pairwise fun a b => a.node.start ≤ b.node.start :=
  Place.pairwise_mergeSort_start (gathered root)

end InitialLoading

namespace Classifier

variable {p : Place} (r : Classifier)

/-- The requests of a place are sorted already when they are picked out of its walk. -/
theorem requests_eq (h : p.node.inSourceOrder = true) :
    r.requests p = p.calls.filter fun c => r.startsRequest c.node :=
  Place.mergeSort_of_sublist_walk h (List.filter_sublist.trans List.filter_sublist)

/-- The first request of a place is the first one that its walk comes to. -/
theorem head?_requests (h : p.node.inSourceOrder = true) :
    (r.requests p).head? = p.walk.find? fun c => c.node.isCall && r.startsRequest c.node := by
  rw [requests_eq r h, List.head?_filter, Place.calls, Place.findAll, List.find?_filter]
  simp

/-- No request of a place starts in front of the first one. -/
theorem start_le_of_head? {first c : Place} (hfirst : (r.requests p).head? = some first)
    (hc : c ∈ r.requests p) : first.node.start ≤ c.node.start := by
  have hordered := r.requests_ordered p
  obtain ⟨rest, hrest⟩ := List.head?_eq_some_iff.1 hfirst
  rw [hrest] at hc hordered
  by_cases hsame : c = first
  · rw [hsame]
  · exact (List.pairwise_cons.1 hordered).1 c ((List.mem_cons.1 hc).resolve_left hsame)

end Classifier

namespace Place

/-- What a traversal visits is the pre-order of the tree below a place. -/
structure InPreorder (p : Place) (visited : List Place) : Prop where
  /-- The place comes first, and behind it come the walks of its named children in their order. -/
  parts : visited = p :: p.namedChildren.flatMap walk
  /-- The nodes are those of the recursion over the tree. -/
  nodes : visited.map (·.node) = p.node.walk
  /-- The turns over the stack end, and they end exactly when these places have been visited. -/
  ends : ∀ n t, (Traversal.after? n (.start p) = some t ∧ t.turn? = none) ↔
    n = visited.length ∧ t = ⟨[], visited⟩
  /-- Every way over named nodes is taken once, and no other way. Where marks hold marks only, these are
  all ways to the named nodes of the tree. -/
  once : ∃ ways : List (List Nat), ways.Nodup ∧ ways.map p.follow = visited.map some ∧
    (∀ way, way ∈ ways ↔ ∀ v, v <+: way → v ≠ [] → p.LeadsToNamed v) ∧
    (p.node.marksHoldMarks = true → ∀ way, way ∈ ways ↔ way = [] ∨ p.LeadsToNamed way)

/-- What is found below a place is found in the order of the source. -/
structure FoundInOrder (p : Place) : Prop where
  /-- A walk goes from the front to the back. -/
  starts : p.walk.Pairwise fun a b => a.node.start ≤ b.node.start
  /-- A sort by the start changes nothing about what is picked out of the walk. -/
  sorted : ∀ l : List Place, l.Sublist p.walk →
    (l.mergeSort fun a b => a.node.start ≤ b.node.start) = l
  /-- The requests are picked out of the walk. -/
  requests : ∀ r : Classifier, r.requests p = p.calls.filter fun c => r.startsRequest c.node
  /-- The first request is the first one that the walk comes to, and none starts in front of it. -/
  first : ∀ r : Classifier,
    (r.requests p).head? = p.walk.find? (fun c => c.node.isCall && r.startsRequest c.node) ∧
      ∀ first ∈ (r.requests p).head?, ∀ c ∈ r.requests p, first.node.start ≤ c.node.start
  /-- The callbacks are gathered from calls and from functions that are picked out of the walk. -/
  inputs : p.calls.Sublist p.walk ∧ ∀ e ∈ p.functionIndex, e.2.Sublist p.walk
  /-- Callbacks that are gathered in the order of the walk stay in it. -/
  kept : ∀ l : List Place, l.Sublist (InitialLoading.gathered p) → l.Sublist p.walk →
    l.Sublist (InitialLoading.lifecycleCallbacks p)
  /-- Callbacks that start apart are brought into the order of the walk. -/
  brought : (InitialLoading.lifecycleCallbacks p).Pairwise fun a b => a.node.start ≤ b.node.start ∧
    (a.node.start < b.node.start → a ∈ p.walk → b ∈ p.walk → [a, b].Sublist p.walk)
  /-- Where marks hold marks only, the walk comes to all callbacks. -/
  met : p.node.marksHoldMarks = true → ∀ q ∈ InitialLoading.lifecycleCallbacks p, q ∈ p.walk

/-- A walk is the pre-order of the tree. -/
theorem preorder_walk (p : Place) : p.InPreorder p.walk where
  parts := p.walk_eq
  nodes := p.map_node_walk
  ends _ _ := Traversal.ends_iff
  once := by
    refine ⟨p.node.ways, p.node.nodup_ways, p.map_follow_ways, fun way => mem_ways_iff, ?_⟩
    intro hmarks way
    by_cases hnil : way = []
    · simp [hnil, Node.nil_mem_ways]
    · simp [hnil, mem_ways_iff_of_marksHoldMarks hmarks hnil]

/-- In a tree in the order of the source, what is found is found in this order. -/
theorem foundInOrder {p : Place} (h : p.node.inSourceOrder = true) : p.FoundInOrder where
  starts := pairwise_walk_start h
  sorted _ hl := mergeSort_of_sublist_walk h hl
  requests r := r.requests_eq h
  first r := ⟨r.head?_requests h, fun _ hfirst _ hc => r.start_le_of_head? hfirst hc⟩
  inputs := ⟨List.filter_sublist, fun _ he => sublist_walk_of_mem_functionIndex he⟩
  kept _ hgathered hwalk := InitialLoading.sublist_lifecycleCallbacks h hgathered hwalk
  brought := by
    refine (InitialLoading.pairwise_lifecycleCallbacks p).imp fun {a b} hab => ⟨hab, ?_⟩
    intro hlt ha hb
    exact sublist_walk_of_start_lt h ha hb hlt
  met hmarks _ hq := InitialLoading.mem_walk_of_mem_lifecycleCallbacks hmarks hq

/-- A walk is the pre-order of the tree, and where the nodes of the tree lie inside one another in the order of
the source, what is found on it is found in this order. Two of the facts are said of trees whose marks hold marks
only, as a parser makes them: that the walk comes to all named nodes, and to all callbacks of page entry. -/
theorem walk_preorder (p : Place) :
    p.InPreorder p.walk ∧ (p.node.inSourceOrder = true → p.FoundInOrder) :=
  ⟨p.preorder_walk, foundInOrder⟩

/-! ### A page with two callbacks -/

section Page

open Node (onFirstRow)

/-- The block of a function that calls another one. -/
def blockOver (name : String) (start : Nat) : Node :=
  onFirstRow "statement_block" "body" ("\x7b " ++ name ++ "(); \x7d") start
    [callStatement name (start + 2)]

/-- The method of `class A { mounted() { getA(); } }`. -/
def mountedMethod : Node :=
  onFirstRow "method_definition" "" "mounted() \x7b getA(); \x7d" 10
    [onFirstRow "property_identifier" "name" "mounted" 10 [],
      onFirstRow "formal_parameters" "parameters" "()" 17 [], blockOver "getA" 20]

def mountedClass : Node :=
  onFirstRow "class_declaration" "" "class A \x7b mounted() \x7b getA(); \x7d \x7d" 0
    [onFirstRow "identifier" "name" "A" 6 [],
      onFirstRow "class_body" "body" "\x7b mounted() \x7b getA(); \x7d \x7d" 8 [mountedMethod]]

/-- The call of `useEffect(() => getB())`. -/
def effectCall : Node :=
  onFirstRow "call_expression" "" "useEffect(() => getB())" 34
    [onFirstRow "identifier" "function" "useEffect" 34 [],
      onFirstRow "arguments" "arguments" "(() => getB())" 43
        [onFirstRow "arrow_function" "" "() => getB()" 44
          [onFirstRow "formal_parameters" "parameters" "()" 44 [], plainCall "getB" 50]]]

def twoCallbacks : Node :=
  onFirstRow "program" "" "class A \x7b mounted() \x7b getA(); \x7d \x7d useEffect(() => getB())" 0
    [mountedClass, onFirstRow "expression_statement" "" "useEffect(() => getB())" 34 [effectCall]]

/-- The function handed to the effect is gathered first, and comes behind the method above it. -/
theorem walk_preorder_twoCallbacks :
    let p := root twoCallbacks
    p.node.inSourceOrder = true ∧ p.node.marksHoldMarks = true ∧
      (InitialLoading.gathered p).map (·.node.start) = [44, 10] ∧
      (InitialLoading.lifecycleCallbacks p).map (·.node.start) = [10, 44] ∧
      ((Classifier.ofWords []).requests p).map (·.node.start) = [22, 50] ∧
      p.InPreorder p.walk ∧ p.FoundInOrder := by
  intro p
  have horder : p.node.inSourceOrder = true := by decide +kernel
  have hgathered : (InitialLoading.gathered p).map (·.node.start) = [44, 10] := by decide +kernel
  have hcallbacks : (InitialLoading.lifecycleCallbacks p).map (·.node.start) = [10, 44] := by
    rw [InitialLoading.lifecycleCallbacks_eq,
      List.map_mergeSort (s := fun a b => decide (a ≤ b)) (by simp), hgathered]
    simp [List.mergeSort]
  have hrequests : ((Classifier.ofWords []).requests p).map (·.node.start) = [22, 50] := by
    rw [(Classifier.ofWords []).requests_eq horder]
    decide +kernel
  exact ⟨horder, rfl, hgathered, hcallbacks, hrequests,
    (walk_preorder p).1, (walk_preorder p).2 horder⟩

end Page

end Place

end UxLint
