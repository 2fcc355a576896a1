import UxLint.Proofs.Syntax.Surroundings
import Mathlib.Data.List.Pairwise

/-!
# Chains read downwards

The callbacks of a chain are collected by going up from its first call. Read downwards, a chain is a row of
links (`Links`): each is the call of a method on what the link before it gives, which may stand in
parentheses or be marked as not null. In every tree in which a call calls the member that it holds, a place
starts exactly one such row, and the callbacks that are found are the functions that its links are handed,
up to the first link whose method is not asked for (`promiseCallbacks_eq_links`).

A cast is taken off on the way down to a value, but a chain neither goes on through it nor is awaited through
it: in wrappers a call has the answers of the outermost of them if none is a cast, and no answers otherwise
(`answers_in_wrappers`, `cast_hides_await`).
-/

set_option autoImplicit false

namespace UxLint

namespace Node

/-- Whether no two children of a node of a walk look alike. -/
def childrenApart (n : Node) : Bool :=
  n.walk.all fun m => decide (m.children.Pairwise fun a b => a.sameSpot b = false)

/-- A member that a call holds is what it calls. -/
def MembersCalled (n : Node) : Prop :=
  ∀ call ∈ n.walk, call.kind = "call_expression" → ∀ m ∈ call.namedChildren, m.isMember = true →
    call.field? "function" = some m

/-- Whether nodes look alike does not depend on their order. -/
theorem sameSpot_comm (a b : Node) : a.sameSpot b = b.sameSpot a := by
  unfold sameSpot
  rw [BEq.comm (a := a.start), BEq.comm (a := a.stop), BEq.comm (a := a.kind)]

/-- Children that look alike are the same. -/
theorem eq_of_sameSpot {n m a b : Node} (h : n.childrenApart = true) (hm : m ∈ n.walk)
    (ha : a ∈ m.children) (hb : b ∈ m.children) (hab : a.sameSpot b = true) : a = b := by
  have hapart := of_decide_eq_true (List.all_eq_true.1 h m hm)
  by_contra hne
  have hsymmetric : Std.Symm fun a b : Node => a.sameSpot b = false :=
    ⟨fun a b h => (sameSpot_comm b a).trans h⟩
  have hfalse := hapart.forall ha hb hne
  rw [hfalse] at hab
  cases hab

end Node

namespace Place

variable {p q c w next next' : Place} {method method' : String} {methods : List String}
  {same : Node → Node → Prop} {links links' : List (String × Place)} {tree : Node}

/-! ## Wrappers -/

/-- Parentheses and marks of what is not null, or none, stand around `p`; `w` is the outermost. -/
inductive Wraps : Place → Place → Prop where
  | self {p : Place} : Wraps p p
  | wrap {w d p : Place} (kind : w.node.kind ∈ chainWrappers) (child : d ∈ w.namedChildren)
      (inner : Wraps d p) : Wraps w p

/-- One more wrapper may stand inside the others. -/
theorem Wraps.inside (h : w.Wraps q) (kind : q.node.kind ∈ chainWrappers)
    (child : c ∈ q.namedChildren) : w.Wraps c := by
  induction h with
  | self => exact .wrap kind child .self
  | wrap kind' child' _ ih => exact .wrap kind' child' (ih kind child)

/-- A chain goes on from what stands in wrappers as it goes on from the outermost of them. -/
theorem Wraps.chainCallbacks_eq (h : w.Wraps c) (methods : List String) :
    Node.chainCallbacks methods c.node c.above = Node.chainCallbacks methods w.node w.above := by
  induction h with
  | self => rfl
  | @wrap w d p kind child _ ih =>
    have hkind : (w.node.kind == "parenthesized_expression" ||
        w.node.kind == "non_null_expression") = true := by
      simpa [chainWrappers] using kind
    rw [ih, above_of_mem_namedChildren child, Node.chainCallbacks.eq_def]
    dsimp only
    rw [if_pos hkind]

/-- Above wrappers stands what stands above what they wrap. -/
theorem Wraps.dropWhile_above (h : w.Wraps c) :
    (c.above.dropWhile fun n => chainWrappers.contains n.kind) =
      w.above.dropWhile fun n => chainWrappers.contains n.kind := by
  induction h with
  | self => rfl
  | wrap kind child _ ih =>
    rw [ih, above_of_mem_namedChildren child]
    exact List.dropWhile_cons_of_pos (List.contains_iff_mem.2 kind)

/-- Wrappers stand in the tree in which what they wrap stands. -/
theorem Wraps.under (h : w.Wraps c) (hc : (root tree).Under c) : (root tree).Under w := by
  induction h with
  | self => exact hc
  | wrap _ child _ ih => exact (under_above (ih hc) (above_of_mem_namedChildren child)).1

/-! ## Links -/

/-- A method is called on `c`, which may stand in wrappers; `same` says when the object of a member is one of
the children of the member. -/
inductive Link (same : Node → Node → Prop) (c : Place) : String → Place → Prop where
  | intro {call member object around : Place} (kind : call.node.kind = "call_expression")
      (target : call.field? "function" = some member) (selects : member.node.isMember = true)
      (object_field : member.field? "object" = some object) (child : around ∈ member.namedChildren)
      (is_object : same object.node around.node) (wraps : around.Wraps c) :
      Link same c (member.node.fieldText "property") call

/-- All the links of the chain that goes on from a place, each with the name of its method. -/
inductive Links (same : Node → Node → Prop) : Place → List (String × Place) → Prop where
  | last {c : Place} (stops : ∀ method next, ¬Link same c method next) : Links same c []
  | more {c next : Place} {method : String} {links : List (String × Place)}
      (link : Link same c method next) (rest : Links same next links) :
      Links same c ((method, next) :: links)

/-- Nodes that have one kind and cover the same octets. -/
abbrev LooksLike (a b : Node) : Prop := a.sameSpot b = true

/-- The first node above a place that is no wrapper is the member of its link, the next one the call. -/
theorem Link.dropWhile_above (h : Link same c method next) :
    ∃ member : Node, (c.above.dropWhile fun n => chainWrappers.contains n.kind) =
      member :: next.node :: next.above ∧ method = member.fieldText "property" := by
  cases h with
  | intro kind target selects object_field child is_object wraps =>
    obtain ⟨n, -, rfl⟩ := Option.map_eq_some_iff.1 target
    refine ⟨n, ?_, rfl⟩
    have hkind : n.kind = "member_expression" := beq_iff_eq.1 selects
    rw [wraps.dropWhile_above, above_of_mem_namedChildren child]
    exact List.dropWhile_cons_of_neg (by rw [hkind]; decide)

/-- A place has one link at most. -/
theorem Link.unique (h : Link same c method next) (h' : Link same c method' next') :
    method = method' ∧ next = next' := by
  obtain ⟨member, habove, rfl⟩ := h.dropWhile_above
  obtain ⟨member', habove', rfl⟩ := h'.dropWhile_above
  rw [habove] at habove'
  cases next
  cases next'
  simp_all

/-- The next link of a chain stands less deep. -/
theorem Link.length_lt (h : Link same c method next) : next.above.length < c.above.length := by
  obtain ⟨member, habove, -⟩ := h.dropWhile_above
  have hle := (List.dropWhile_sublist (l := c.above) fun n => chainWrappers.contains n.kind).length_le
  rw [habove, List.length_cons, List.length_cons] at hle
  omega

/-- The next link of a chain stands in the same tree. -/
theorem Link.under (h : Link same c method next) (hc : (root tree).Under c) :
    (root tree).Under next := by
  cases h with
  | intro kind target selects object_field child is_object wraps =>
    obtain ⟨n, -, rfl⟩ := Option.map_eq_some_iff.1 target
    have hmember := (under_above (wraps.under hc) (above_of_mem_namedChildren child)).1
    exact (under_above hmember rfl).1

/-- A call has one row of links. -/
theorem Links.unique (h : Links same c links) (h' : Links same c links') : links = links' := by
  induction h generalizing links' with
  | last stops =>
    cases h' with
    | last => rfl
    | more link => exact absurd link (stops _ _)
  | more link _ ih =>
    cases h' with
    | last stops => exact absurd link (stops _ _)
    | more link' rest' =>
      obtain ⟨rfl, rfl⟩ := link.unique link'
      rw [ih rest']

/-- Every place starts a row of links. -/
theorem exists_links (same : Node → Node → Prop) (c : Place) : ∃ links, Links same c links := by
  by_cases h : ∃ method next, Link same c method next
  · obtain ⟨method, next, link⟩ := h
    obtain ⟨links, rest⟩ := exists_links same next
    exact ⟨_, .more link rest⟩
  · exact ⟨[], .last fun method next link => h ⟨method, next, link⟩⟩
termination_by c.above.length
decreasing_by exact link.length_lt

/-! ## The callbacks of a chain -/

/-- A link hands on its functions if its method is asked for. -/
theorem Link.promiseCallbacks_eq (h : Link LooksLike c method next) (methods : List String) :
    c.promiseCallbacks methods =
      if methods.contains method then
        Node.callbacksOf method next.node ++ next.promiseCallbacks methods
      else [] := by
  cases h with
  | @intro _ member object around kind target selects object_field child is_object wraps =>
    obtain ⟨n, -, rfl⟩ := Option.map_eq_some_iff.1 target
    obtain ⟨o, hobject, rfl⟩ := Option.map_eq_some_iff.1 object_field
    have hlooks : (n.field? "object").any (·.sameSpot around.node) = true := by
      rw [hobject, Option.any_some]
      exact is_object
    rw [promiseCallbacks, wraps.chainCallbacks_eq, above_of_mem_namedChildren child]
    exact chainCallbacks_link methods selects hlooks kind

/-- What stands in a wrapper has the link that the wrapper has. -/
theorem Link.inside (h : Link same q method next) (kind : q.node.kind ∈ chainWrappers)
    (child : c ∈ q.namedChildren) : Link same c method next := by
  cases h with
  | intro kind' target selects object_field child' is_object wraps =>
    exact .intro kind' target selects object_field child' is_object (wraps.inside kind child)

/-- A child of a member that looks like the object of the member has a link if a call calls the member. -/
theorem link_of_member {outer : Node} {rest : List Node} (kind : outer.kind = "call_expression")
    (target : outer.field? "function" = some q.node) (habove : q.above = outer :: rest)
    (selects : q.node.isMember = true) (child : c ∈ q.namedChildren)
    (object : (q.node.field? "object").any (·.sameSpot c.node) = true) :
    Link LooksLike c (q.node.fieldText "property") ⟨outer, rest⟩ := by
  obtain ⟨o, hobject, hlooks⟩ := (Option.any_eq_true _ _).1 object
  have hmember : field? ⟨outer, rest⟩ "function" = some q := by
    rw [field?, target, Option.map_some, ← habove]
  exact .intro kind hmember selects (by rw [field?, hobject]; rfl) child hlooks .self

/-- Where no link goes on, no callbacks are found. -/
theorem promiseCallbacks_of_no_link (hcalled : tree.MembersCalled) (hc : (root tree).Under c)
    (hstops : ∀ method next, ¬Link LooksLike c method next) : c.promiseCallbacks methods = [] := by
  induction hc with
  | self => rfl
  | @child q c hq hchild ih =>
    rw [promiseCallbacks, above_of_mem_namedChildren hchild, Node.chainCallbacks.eq_def]
    dsimp only
    split
    · next hkind =>
      have hwrapper : q.node.kind ∈ chainWrappers := by
        simpa [chainWrappers] using hkind
      exact ih fun method next h => hstops method next (h.inside hwrapper hchild)
    · split
      · next hmember =>
        rw [Bool.and_eq_true] at hmember
        cases habove : q.above with
        | nil => rfl
        | cons outer rest =>
          -- A call above the member would be a link.
          have hkind : outer.kind ≠ "call_expression" := by
            intro hkind
            obtain ⟨houter, hq'⟩ := under_above hq habove
            have htarget := hcalled outer houter.mem_walk hkind q.node
              (node_mem_namedChildren hq') hmember.1
            exact hstops _ _ (link_of_member hkind htarget habove hmember.1 hchild hmember.2)
          dsimp only
          rw [beq_eq_false_iff_ne.2 hkind, Bool.and_false]
          rfl
      · rfl

/-- The callbacks of a chain are the functions that its links are handed, up to the first link whose method
is not asked for. -/
theorem Links.promiseCallbacks_eq (h : Links LooksLike c links) (hcalled : tree.MembersCalled)
    (hc : (root tree).Under c) (methods : List String) :
    c.promiseCallbacks methods =
      (links.takeWhile fun l => methods.contains l.1).flatMap fun l =>
        Node.callbacksOf l.1 l.2.node := by
  induction h with
  | last stops => exact promiseCallbacks_of_no_link hcalled hc stops
  | more link _ ih =>
    rw [link.promiseCallbacks_eq, ih (link.under hc), List.takeWhile_cons]
    split
    · rw [List.flatMap_cons]
    · rfl

/-- In a tree in which no two children of a node look alike, an object is told from what it looks like. -/
theorem link_iff_of_childrenApart (hapart : tree.childrenApart = true) (hc : (root tree).Under c) :
    Link LooksLike c method next ↔ Link Eq c method next := by
  constructor
  · intro h
    cases h with
    | intro kind target selects object_field child is_object wraps =>
      refine .intro kind target selects object_field child ?_ wraps
      obtain ⟨o, hobject, rfl⟩ := Option.map_eq_some_iff.1 object_field
      have hmember := (under_above (wraps.under hc) (above_of_mem_namedChildren child)).1
      exact Node.eq_of_sameSpot hapart hmember.mem_walk (List.mem_of_find?_eq_some hobject)
        (List.mem_filter.1 (node_mem_namedChildren child)).1 is_object
  · intro h
    cases h with
    | intro kind target selects object_field child is_object wraps =>
      refine .intro kind target selects object_field child ?_ wraps
      rw [is_object]
      exact Node.sameSpot_self _

/-- Where no child looks like a sibling, links are told by their looks. -/
theorem links_iff_of_childrenApart (hapart : tree.childrenApart = true) (hc : (root tree).Under c) :
    Links LooksLike c links ↔ Links Eq c links := by
  constructor
  · intro h
    induction h with
    | last stops =>
      exact .last fun method next link =>
        stops method next ((link_iff_of_childrenApart hapart hc).2 link)
    | more link _ ih =>
      exact .more ((link_iff_of_childrenApart hapart hc).1 link) (ih (link.under hc))
  · intro h
    induction h with
    | last stops =>
      exact .last fun method next link =>
        stops method next ((link_iff_of_childrenApart hapart hc).1 link)
    | more link _ ih =>
      exact .more ((link_iff_of_childrenApart hapart hc).2 link) (ih (link.under hc))

/-- In a tree in which a call calls the member that it holds, every place starts exactly one row of links,
and the callbacks of its chain are the functions that these are handed, up to the first link whose method is
not asked for. The object of a member is told by what it looks like; where no two children of a node look
alike, the row is the one in which it is that very child. -/
theorem promiseCallbacks_eq_links (hcalled : tree.MembersCalled) (hc : (root tree).Under c) :
    ∃ links, (∀ links', Links LooksLike c links' ↔ links' = links) ∧
      (tree.childrenApart = true → ∀ links', Links Eq c links' ↔ links' = links) ∧
      ∀ methods, c.promiseCallbacks methods =
        (links.takeWhile fun l => methods.contains l.1).flatMap fun l =>
          Node.callbacksOf l.1 l.2.node := by
  obtain ⟨links, hlinks⟩ := exists_links LooksLike c
  have honly : ∀ links', Links LooksLike c links' ↔ links' = links := by
    intro links'
    constructor
    · exact fun h => h.unique hlinks
    · rintro rfl
      exact hlinks
  refine ⟨links, honly, ?_, hlinks.promiseCallbacks_eq hcalled hc⟩
  intro hapart links'
  rw [← links_iff_of_childrenApart hapart hc]
  exact honly links'

/-! ### A chain with two links -/

section Calls

open Node (onFirstRow)

/-- The first call of `(post(url)!).then(() => a).finally(b)`. -/
def firstCall : Node :=
  onFirstRow "call_expression" "" "post(url)" 1
    [onFirstRow "identifier" "function" "post" 1 [],
      onFirstRow "arguments" "arguments" "(url)" 5 [onFirstRow "identifier" "" "url" 6 []]]

def firstMarked : Node := onFirstRow "non_null_expression" "" "post(url)!" 1 [firstCall]

def firstInParentheses : Node :=
  onFirstRow "parenthesized_expression" "object" "(post(url)!)" 0 [firstMarked]

def thenOfFirst : Node :=
  onFirstRow "member_expression" "function" "(post(url)!).then" 0
    [firstInParentheses, onFirstRow "property_identifier" "property" "then" 13 []]

def arrowToThen : Node :=
  onFirstRow "arrow_function" "" "() => a" 18
    [onFirstRow "formal_parameters" "parameters" "()" 18 [],
      onFirstRow "identifier" "body" "a" 24 []]

def secondCall : Node :=
  onFirstRow "call_expression" "object" "(post(url)!).then(() => a)" 0
    [thenOfFirst, onFirstRow "arguments" "arguments" "(() => a)" 17 [arrowToThen]]

def finallyOfSecond : Node :=
  onFirstRow "member_expression" "function" "(post(url)!).then(() => a).finally" 0
    [secondCall, onFirstRow "property_identifier" "property" "finally" 27 []]

def thirdCall : Node :=
  onFirstRow "call_expression" "" "(post(url)!).then(() => a).finally(b)" 0
    [finallyOfSecond,
      onFirstRow "arguments" "arguments" "(b)" 34 [onFirstRow "identifier" "" "b" 35 []]]

def firstPlace : Place :=
  ⟨firstCall, [firstMarked, firstInParentheses, thenOfFirst, secondCall, finallyOfSecond, thirdCall]⟩

/-- In the example a member that a call holds is what it calls. -/
theorem membersCalled_thirdCall : thirdCall.MembersCalled := by
  have hcalls : (thirdCall.walk.filter fun n => n.kind == "call_expression") =
      [thirdCall, secondCall, firstCall] := by with_unfolding_all rfl
  have hthird : thirdCall.namedChildren.filter Node.isMember = [finallyOfSecond] := by
    with_unfolding_all rfl
  have hsecond : secondCall.namedChildren.filter Node.isMember = [thenOfFirst] := by
    with_unfolding_all rfl
  have hfirst : firstCall.namedChildren.filter Node.isMember = [] := by with_unfolding_all rfl
  intro call hcall hkind m hm hmember
  have hcall' : call ∈ thirdCall.walk.filter fun n => n.kind == "call_expression" :=
    List.mem_filter.2 ⟨hcall, beq_iff_eq.2 hkind⟩
  have hm' := List.mem_filter.2 ⟨hm, hmember⟩
  rw [hcalls] at hcall'
  rcases List.mem_cons.1 hcall' with rfl | hcall'
  · rw [hthird, List.mem_singleton] at hm'
    exact hm' ▸ rfl
  · rcases List.mem_cons.1 hcall' with rfl | hcall'
    · rw [hsecond, List.mem_singleton] at hm'
      exact hm' ▸ rfl
    · rw [List.mem_singleton.1 hcall', hfirst] at hm'
      cases hm'

/-- The callbacks of a chain of two links, the second of which is handed no function. -/
theorem promiseCallbacks_eq_links_first :
    thirdCall.MembersCalled ∧ (root thirdCall).Under firstPlace ∧
      firstPlace.promiseCallbacks promiseMethods = [("then", arrowToThen)] ∧
      ∃ links, (∀ links', Links LooksLike firstPlace links' ↔ links' = links) ∧
        (thirdCall.childrenApart = true → ∀ links', Links Eq firstPlace links' ↔ links' = links) ∧
        ∀ methods, firstPlace.promiseCallbacks methods =
          (links.takeWhile fun l => methods.contains l.1).flatMap fun l =>
            Node.callbacksOf l.1 l.2.node := by
  have hunder : (root thirdCall).Under firstPlace :=
    .child (.child (.child (.child (.child (.child .self (.head _)) (.head _)) (.head _)) (.head _))
      (.head _)) (.head _)
  exact ⟨membersCalled_thirdCall, hunder, by with_unfolding_all rfl,
    promiseCallbacks_eq_links membersCalled_thirdCall hunder⟩

end Calls

/-! ## Wrappers around a call -/

/-- The wrappers that do not change what an expression is, awaiting aside. -/
def castWrappers : List String := "as_expression" :: chainWrappers

/-- Awaiting is looked for above a wrapper, but not above a cast. -/
theorem awaitedBelow_wrapper {n : Node} (rest : List Node) (kind : n.kind ∈ castWrappers) :
    Node.awaitedBelow (n :: rest) = (n.kind != "as_expression" && Node.awaitedBelow rest) := by
  have hkinds : ∀ k ∈ castWrappers, (k == "await_expression") = false ∧
      Node.chainKinds.contains k = (k != "as_expression") := by decide
  obtain ⟨hawait, hchain⟩ := hkinds n.kind kind
  rw [Node.awaitedBelow, hawait, hchain]
  cases n.kind != "as_expression" <;> rfl

/-- A chain goes on above a wrapper, but not above a cast. -/
theorem chainCallbacks_wrapper {n : Node} (methods : List String) (current : Node) (rest : List Node)
    (kind : n.kind ∈ castWrappers) :
    Node.chainCallbacks methods current (n :: rest) =
      if n.kind == "as_expression" then [] else Node.chainCallbacks methods n rest := by
  have hkinds : ∀ k ∈ castWrappers, (k == "parenthesized_expression" || k == "non_null_expression") =
      !(k == "as_expression") ∧ (k == "member_expression") = false := by decide
  obtain ⟨hwrapper, hmember⟩ := hkinds n.kind kind
  rw [Node.chainCallbacks.eq_def]
  dsimp only
  rw [hwrapper, Node.isMember, hmember]
  cases n.kind == "as_expression" <;> rfl

/-- Awaiting is looked for above a row of wrappers that holds no cast. -/
theorem awaitedBelow_wrappers {way : List Node} (rest : List Node)
    (hkinds : ∀ n ∈ way, n.kind ∈ castWrappers) :
    Node.awaitedBelow (way ++ rest) =
      (!(way.any fun n => n.kind == "as_expression") && Node.awaitedBelow rest) := by
  induction way with
  | nil => rw [List.nil_append, List.any_nil, Bool.not_false, Bool.true_and]
  | cons n way ih =>
    rw [List.cons_append, awaitedBelow_wrapper _ (hkinds n List.mem_cons_self),
      ih fun m hm => hkinds m (List.mem_cons_of_mem n hm), List.any_cons, Bool.not_or, Bool.and_assoc]
    rfl

/-- A chain goes on above a row of wrappers that holds no cast. -/
theorem chainCallbacks_wrappers {way : List Node} {n : Node} (methods : List String)
    (current : Node) (rest : List Node) (hkinds : ∀ m ∈ way ++ [n], m.kind ∈ castWrappers) :
    Node.chainCallbacks methods current (way ++ n :: rest) =
      if (way ++ [n]).any fun m => m.kind == "as_expression" then []
      else Node.chainCallbacks methods n rest := by
  induction way generalizing current with
  | nil =>
    rw [List.nil_append, chainCallbacks_wrapper _ _ _ (hkinds n (List.mem_singleton_self n)),
      List.nil_append, List.any_cons, List.any_nil, Bool.or_false]
  | cons m way ih =>
    rw [List.cons_append, chainCallbacks_wrapper _ _ _ (hkinds m List.mem_cons_self),
      ih m fun k hk => hkinds k (List.mem_cons_of_mem m hk), List.cons_append, List.any_cons]
    cases m.kind == "as_expression" <;> simp

/-- Whatever stands in wrappers is awaited, and starts a chain, as the outermost of them does if there is no
cast among them. With a cast it is not found to be awaited and its chain ends there. -/
theorem answers_in_wrappers {way : List Node} (habove : c.above = way ++ w.node :: w.above)
    (hkinds : ∀ n ∈ way ++ [w.node], n.kind ∈ castWrappers) :
    let cast := (way ++ [w.node]).any fun n => n.kind == "as_expression"
    c.isAwaited = (!cast && w.isAwaited) ∧
      ∀ methods, c.promiseCallbacks methods = if cast then [] else w.promiseCallbacks methods := by
  intro cast
  constructor
  · have hsplit : c.above = (way ++ [w.node]) ++ w.above := by
      rw [habove, List.append_assoc, List.singleton_append]
    rw [isAwaited, hsplit]
    exact awaitedBelow_wrappers w.above hkinds
  · intro methods
    rw [promiseCallbacks, habove]
    exact chainCallbacks_wrappers methods c.node w.above hkinds

/-- A call in parentheses that is marked as not null starts the chain that the parentheses start. -/
theorem answers_in_wrappers_first :
    let w : Place := ⟨firstInParentheses, [thenOfFirst, secondCall, finallyOfSecond, thirdCall]⟩
    let cast := ([firstMarked] ++ [w.node]).any fun n => n.kind == "as_expression"
    firstPlace.above = [firstMarked] ++ w.node :: w.above ∧
      (∀ n ∈ [firstMarked] ++ [w.node], n.kind ∈ castWrappers) ∧ cast = false ∧
      firstPlace.isAwaited = (!cast && w.isAwaited) ∧
      ∀ methods, firstPlace.promiseCallbacks methods =
        if cast then [] else w.promiseCallbacks methods := by
  intro w cast
  have hkinds : ∀ n ∈ [firstMarked] ++ [w.node], n.kind ∈ castWrappers := by
    intro n hn
    rcases List.mem_cons.1 hn with rfl | hn
    · decide
    · rw [List.mem_singleton.1 hn]
      decide
  exact ⟨rfl, hkinds, by decide, answers_in_wrappers rfl hkinds⟩

/-! ### A call in a cast -/

section Cast

open Node (onFirstRow)

/-- The call in `await (post(url) as T)`. -/
def awaitedCall : Node :=
  onFirstRow "call_expression" "" "post(url)" 7
    [onFirstRow "identifier" "function" "post" 7 [],
      onFirstRow "arguments" "arguments" "(url)" 11 [onFirstRow "identifier" "" "url" 12 []]]

def awaitedCast : Node :=
  onFirstRow "as_expression" "" "post(url) as T" 7
    [awaitedCall, onFirstRow "type_identifier" "" "T" 20 []]

def awaitedInParentheses : Node :=
  onFirstRow "parenthesized_expression" "" "(post(url) as T)" 6 [awaitedCast]

def awaiting : Node :=
  onFirstRow "await_expression" "" "await (post(url) as T)" 0 [awaitedInParentheses]

/-- A call in a cast is not found to be awaited, although the cast is. -/
theorem cast_hides_await :
    let w : Place := ⟨awaitedCast, [awaitedInParentheses, awaiting]⟩
    let c : Place := ⟨awaitedCall, w.node :: w.above⟩
    (root awaiting).Under c ∧ c.node.isCall = true ∧ w.node.kind ∈ castWrappers ∧
      c.isAwaited = false ∧ w.isAwaited = true :=
  ⟨.child (.child (.child .self (.head _)) (.head _)) (.head _), by decide, by decide, by decide,
    by decide⟩

end Cast

end Place

end UxLint
