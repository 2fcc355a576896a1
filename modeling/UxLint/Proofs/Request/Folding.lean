import UxLint.Proofs.Syntax.Walks
import UxLint.Request.Mutation

/-!
# Folding calls into requests

Of a call and the calls that it goes on with, at most one is a request of its own: the innermost that is
a request at all, its origin. The requests of a place stand for all request calls in it, each by its
origin (`exists_mem_requests_iff`). A call that changes data is therefore seen as one exactly if its
origin changes data (`mutation_seen_iff`), and a request that merely fetches a client hides what is sent
with that client (`mutation_hidden`).
-/

set_option autoImplicit false

namespace UxLint

/-! ## What a walk meets -/

namespace Place

/-- The walk from a place comes to a node. -/
def Meets (p : Place) (n : Node) : Prop := ∃ q ∈ p.walk, q.node = n

variable {p : Place} {n m : Node}

/-- What a walk meets stands inside of the place. -/
theorem Meets.inside (h : p.Meets n) : p.node.Inside n := by
  obtain ⟨q, hq, rfl⟩ := h
  exact inside_of_mem_walk hq

/-- A walk that meets a node meets its named children. -/
theorem Meets.namedChild (h : p.Meets n) (hm : m ∈ n.namedChildren) : p.Meets m := by
  obtain ⟨q, hq, rfl⟩ := h
  exact ⟨⟨m, q.node :: q.above⟩, mem_walkStack_namedChild [p] q hq _ (List.mem_map_of_mem hm), rfl⟩

mutual

/-- A walk that meets a node meets what it wraps. -/
theorem Meets.unwrap? (n : Node) (h : p.Meets n) (hm : n.unwrap? = some m) : p.Meets m := by
  match n with
  | .node l cs =>
    rw [Node.unwrap?] at hm
    split at hm
    · refine Meets.unwrapFirst? cs (fun c hc hnamed => ?_) hm
      exact h.namedChild (List.mem_filter.2 ⟨hc, hnamed⟩)
    · cases hm
      exact h

/-- A walk that meets values meets the first one that is unwrapped. -/
theorem Meets.unwrapFirst? (cs : List Node) (h : ∀ c ∈ cs, c.isNamed = true → p.Meets c)
    (hm : Node.unwrapFirst? cs = some m) : p.Meets m := by
  match cs with
  | [] => simp [Node.unwrapFirst?] at hm
  | c :: cs =>
    rw [Node.unwrapFirst?] at hm
    split at hm
    · next hnamed => exact Meets.unwrap? c (h c List.mem_cons_self hnamed) hm
    · exact Meets.unwrapFirst? cs (fun d hd => h d (List.mem_cons_of_mem c hd)) hm

end

end Place

/-! ## Trees in which targets and objects are named -/

namespace Node

/-- The fields in which a call holds its target and a member selection its object. -/
def holderFields : List String := ["function", "constructor", "object"]

mutual

/-- Whether the grammar names all targets of calls and all objects of member selections, as the grammars
of the language do. -/
def namesHeld : Node → Bool
  | node _ cs => namesHeldAll cs

/-- Whether this holds below several nodes, and of these nodes. -/
def namesHeldAll : List Node → Bool
  | [] => true
  | c :: cs =>
    (c.isNamed || !holderFields.contains c.label.field) && namesHeld c && namesHeldAll cs

end

/-- In a row that holds its names, each node does, and it is named or fills no field that holds one. -/
theorem of_namesHeldAll {cs : List Node} (h : namesHeldAll cs = true) {c : Node} (hc : c ∈ cs) :
    (c.isNamed || !holderFields.contains c.label.field) = true ∧ c.namesHeld = true := by
  induction cs with
  | nil => cases hc
  | cons d cs ih =>
    rw [namesHeldAll, Bool.and_eq_true, Bool.and_eq_true] at h
    rcases List.mem_cons.1 hc with rfl | hc
    · exact h.1
    · exact ih h.2 hc

/-- If a tree holds its names, all nodes inside of it do. -/
theorem Inside.namesHeld {root n : Node} (h : root.Inside n) (hroot : root.namesHeld = true) :
    n.namesHeld = true := by
  induction h with
  | self => exact hroot
  | @child n c _ hc ih =>
    obtain ⟨l, cs⟩ := n
    rw [Node.namesHeld] at ih
    exact (of_namesHeldAll ih hc).2

end Node

namespace Place

variable {p : Place} {n m : Node}

/-- A walk that meets a node meets what fills a field that holds names. -/
theorem Meets.field? (hnames : p.node.namesHeld = true) (h : p.Meets n) {name : String}
    (hname : Node.holderFields.contains name = true) (hm : n.field? name = some m) : p.Meets m := by
  have hmem : m ∈ n.children := List.mem_of_find?_eq_some hm
  have hfield : m.label.field = name := by simpa using List.find?_some hm
  have hn : n.namesHeld = true := h.inside.namesHeld hnames
  obtain ⟨l, cs⟩ := n
  rw [Node.namesHeld] at hn
  obtain ⟨hnamed, -⟩ := Node.of_namesHeldAll hn hmem
  rw [hfield, hname] at hnamed
  exact h.namedChild (List.mem_filter.2 ⟨hmem, by simpa using hnamed⟩)

/-- A walk that meets a call meets its receiver, which is a call. -/
theorem Meets.receiver? (hnames : p.node.namesHeld = true) (h : p.Meets n)
    (hm : n.receiver? = some m) : p.Meets m ∧ m.isCall = true := by
  unfold Node.receiver? at hm
  split at hm
  · cases hm
  · next target htarget =>
    split at hm
    · obtain ⟨hobject, hcall⟩ := Option.filter_eq_some_iff.1 hm
      obtain ⟨held, hheld, htarget⟩ := Option.bind_eq_some_iff.1 htarget
      obtain ⟨object, hfield, hobject⟩ := Option.bind_eq_some_iff.1 hobject
      have hkind : Node.holderFields.contains (Node.targetField n.kind) = true := by
        unfold Node.targetField
        split <;> rfl
      have hmet : p.Meets target := Meets.unwrap? held (h.field? hnames hkind hheld) htarget
      exact ⟨Meets.unwrap? object (hmet.field? hnames rfl hfield) hobject, hcall⟩
    · cases hm

end Place

/-! ## The links of a chain of calls -/

namespace Node

/-- A call and the calls that it goes on with, the outermost first. -/
def links (call : Node) : List Node := call :: call.receivers

/-- The receivers of a receiver are those behind it. -/
theorem receivers_of_receivers_eq (call : Node) {outer inner : List Node} {link : Node}
    (h : call.receivers = outer ++ link :: inner) : link.receivers = inner := by
  fun_induction receivers call generalizing outer with
  | case1 call hnone => simp at h
  | case2 call m hm ih =>
    cases outer with
    | nil =>
      rw [List.nil_append, List.cons.injEq] at h
      rw [← h.1, h.2]
    | cons x outer =>
      rw [List.cons_append, List.cons.injEq] at h
      exact ih h.2

/-- The receivers of a link are the links behind it. -/
theorem receivers_of_links_eq {call link : Node} {outer inner : List Node}
    (h : call.links = outer ++ link :: inner) : link.receivers = inner := by
  cases outer with
  | nil =>
    rw [List.nil_append, links, List.cons.injEq] at h
    rw [← h.1, h.2]
  | cons x outer =>
    rw [List.cons_append, links, List.cons.injEq] at h
    exact receivers_of_receivers_eq call h.2

end Node

/-- A walk that meets a call meets all links of its chain. -/
theorem Place.Meets.links {p : Place} {call link : Node} (hnames : p.node.namesHeld = true)
    (h : p.Meets call) (hcall : call.isCall = true) (hlink : link ∈ call.links) :
    p.Meets link ∧ link.isCall = true := by
  rcases List.mem_cons.1 hlink with rfl | hlink
  · exact ⟨h, hcall⟩
  · fun_induction Node.receivers call with
    | case1 => cases hlink
    | case2 call m hm ih =>
      obtain ⟨hmet, hm⟩ := h.receiver? hnames hm
      rcases List.mem_cons.1 hlink with rfl | hlink
      · exact ⟨hmet, hm⟩
      · exact ih hmet hm (List.mem_cons_of_mem m hlink) hlink

/-! ## Origins -/

namespace Classifier

variable (r : Classifier)

/-- The innermost request among a call and the calls that it goes on with. -/
def origin? (call : Node) : Option Node := call.links.reverse.find? r.isRequest

/-- A link is the origin of a chain exactly if a request starts with it. -/
theorem origin?_eq_some_iff {call link : Node} (hlink : link ∈ call.links) :
    r.origin? call = some link ↔ r.startsRequest link = true := by
  unfold origin? startsRequest continuesRequest
  constructor
  · intro h
    obtain ⟨hrequest, inner, outer, hlinks, hinner⟩ := List.find?_eq_some_iff_append.1 h
    have hsplit : call.links = outer.reverse ++ link :: inner.reverse := by
      rw [← call.links.reverse_reverse, hlinks]
      simp
    rw [Node.receivers_of_links_eq hsplit, List.any_reverse, hrequest]
    simpa using hinner
  · intro h
    rw [Bool.and_eq_true, Bool.not_eq_true', List.any_eq_false] at h
    obtain ⟨outer, inner, hsplit⟩ := List.append_of_mem hlink
    rw [Node.receivers_of_links_eq hsplit] at h
    refine List.find?_eq_some_iff_append.2 ⟨h.1, inner.reverse, outer.reverse, ?_, ?_⟩
    · rw [hsplit]
      simp
    · simpa using h.2

/-- A chain that sends a request has an origin. -/
theorem exists_origin? {call : Node} (h : r.isRequest call = true) :
    ∃ origin ∈ call.links, r.origin? call = some origin := by
  have hsome : (r.origin? call).isSome = true :=
    List.find?_isSome.2 ⟨call, by simp [Node.links], h⟩
  obtain ⟨origin, horigin⟩ := Option.isSome_iff_exists.1 hsome
  exact ⟨origin, by simpa using List.mem_of_find?_eq_some horigin, horigin⟩

/-- The requests below a place are the calls that start one. -/
theorem mem_requests_iff {p q : Place} :
    q ∈ r.requests p ↔ q ∈ p.walk ∧ q.node.isCall = true ∧ r.startsRequest q.node = true := by
  unfold requests Place.calls Place.findAll
  rw [List.mem_mergeSort, List.mem_filter, List.mem_filter, and_assoc]

/-- A call with a verb is a request. -/
theorem isRequest_of_mutationVerb?_ne_none {call : Node} (h : r.mutationVerb? call ≠ none) :
    r.isRequest call = true := by
  unfold mutationVerb? at h
  cases hrequest : r.isRequest call with
  | true => rfl
  | false => simp [hrequest] at h

variable {p c : Place} (hnames : p.node.namesHeld = true) (hc : c ∈ p.calls)

include hnames hc

/-- Among the links of a call, the requests of the place hold its origin and nothing else. -/
theorem exists_mem_requests_iff {link : Node} (hlink : link ∈ c.node.links) :
    (∃ q ∈ r.requests p, q.node = link) ↔ r.origin? c.node = some link := by
  rw [r.origin?_eq_some_iff hlink]
  obtain ⟨hwalk, hcall⟩ := List.mem_filter.1 hc
  constructor
  · rintro ⟨q, hq, rfl⟩
    exact (r.mem_requests_iff.1 hq).2.2
  · intro hstarts
    obtain ⟨⟨q, hq, rfl⟩, hlinkCall⟩ :=
      Place.Meets.links hnames ⟨c, hwalk, rfl⟩ hcall hlink
    exact ⟨q, r.mem_requests_iff.2 ⟨hq, hlinkCall, hstarts⟩, rfl⟩

/-- A call that changes data has an origin, and folding keeps one of its links that changes data exactly
if the origin does. -/
theorem mutation_seen_iff (hverb : r.mutationVerb? c.node ≠ none) :
    ∃ origin ∈ c.node.links, r.origin? c.node = some origin ∧
      ((∃ d ∈ r.requests p, d.node ∈ c.node.links ∧ r.mutationVerb? d.node ≠ none) ↔
        r.mutationVerb? origin ≠ none) := by
  obtain ⟨origin, hmem, horigin⟩ :=
    r.exists_origin? (r.isRequest_of_mutationVerb?_ne_none hverb)
  refine ⟨origin, hmem, horigin, ?_, ?_⟩
  · rintro ⟨d, hd, hlink, hchanges⟩
    have hsame : r.origin? c.node = some d.node :=
      (r.exists_mem_requests_iff hnames hc hlink).1 ⟨d, hd, rfl⟩
    rw [horigin, Option.some.injEq] at hsame
    exact hsame ▸ hchanges
  · intro hchanges
    obtain ⟨d, hd, rfl⟩ := (r.exists_mem_requests_iff hnames hc hmem).2 horigin
    exact ⟨d, hd, hmem, hchanges⟩

end Classifier

/-! ## A client that is fetched and used -/

namespace Node

/-- The call that fetches a client. -/
def clientFetch : Node :=
  onFirstRow "call_expression" "object" "getClient()" 0
    [onFirstRow "identifier" "function" "getClient" 0 [],
      onFirstRow "arguments" "arguments" "()" 9 []]

/-- A call that sends with the client that it fetches. -/
def clientPost : Node :=
  onFirstRow "call_expression" "" "getClient().post(url)" 0
    [onFirstRow "member_expression" "function" "getClient().post" 0
      [clientFetch, onFirstRow "property_identifier" "property" "post" 12 []],
      onFirstRow "arguments" "arguments" "(url)" 16
        [onFirstRow "identifier" "" "url" 17 []]]

/-- The receiver of the example is the call that fetches the client. -/
theorem receivers_clientPost : clientPost.receivers = [clientFetch] := by
  have hfetch : clientFetch.receivers = [] := by
    rw [receivers]
    rfl
  rw [receivers]
  change clientFetch :: clientFetch.receivers = _
  rw [hfetch]

/-- The example is a call. -/
theorem clientPost_mem_calls : Place.root clientPost ∈ (Place.root clientPost).calls :=
  List.mem_filter.2 ⟨Place.mem_walkStack_of_mem _ _ (List.mem_singleton.2 rfl), rfl⟩

end Node

namespace Classifier

open Node

/-- The call that fetches the client counts as a request. -/
theorem isRequest_clientFetch : (ofWords []).isRequest clientFetch = true := by decide

/-- The call that fetches the client has no verb. -/
theorem mutationVerb?_clientFetch : (ofWords []).mutationVerb? clientFetch = none := by
  have hshape : (clientFetch.kind != "call_expression" ||
      !(ofWords []).isRequest clientFetch) = false := by decide
  have hname : Request.methodName clientFetch = "getClient" := by decide
  have hending : Request.verbOfEnding "getClient" = none := by decide +kernel
  have hdispatch : occursIn "dispatch" (lowercase "getClient") = false := by decide
  have haction : Request.actionName? clientFetch = none := by decide
  have hoptions : Request.optionsVerb clientFetch = none := by decide
  simp [mutationVerb?, hshape, hname, hending, hdispatch, haction, hoptions]

/-- The call that sends with the client has one. -/
theorem mutationVerb?_clientPost : (ofWords []).mutationVerb? clientPost = some .post := by
  have hshape : (clientPost.kind != "call_expression" ||
      !(ofWords []).isRequest clientPost) = false := by decide
  have hname : Request.methodName clientPost = "getClient.post" := by decide
  have hincluded : Request.excludedMethods.contains (lastSegment "getClient.post") = false := by
    decide
  have hending : Request.verbOfEnding "getClient.post" = some .post := by decide +kernel
  simp only [mutationVerb?, hshape, hname, hincluded, hending, Bool.false_eq_true, if_false]

/-- What is sent with a fetched client: the origin is the call that fetches the client. -/
theorem mutation_seen_iff_client :
    (Place.root clientPost).node.namesHeld = true ∧
      (ofWords []).mutationVerb? clientPost ≠ none ∧
      ∃ origin ∈ clientPost.links, (ofWords []).origin? clientPost = some origin ∧
        ((∃ d ∈ (ofWords []).requests (Place.root clientPost), d.node ∈ clientPost.links ∧
            (ofWords []).mutationVerb? d.node ≠ none) ↔
          (ofWords []).mutationVerb? origin ≠ none) := by
  have hverb : (ofWords []).mutationVerb? clientPost ≠ none := by
    rw [mutationVerb?_clientPost]
    simp
  exact ⟨rfl, hverb, (ofWords []).mutation_seen_iff rfl clientPost_mem_calls hverb⟩

/-- Sending with a fetched client changes data, but no request that stands for it does. -/
theorem mutation_hidden :
    Place.root clientPost ∈ (Place.root clientPost).calls ∧
      (ofWords []).mutationVerb? clientPost = some .post ∧
      ¬∃ d ∈ (ofWords []).requests (Place.root clientPost), d.node ∈ clientPost.links ∧
        (ofWords []).mutationVerb? d.node ≠ none := by
  refine ⟨clientPost_mem_calls, mutationVerb?_clientPost, ?_⟩
  rintro ⟨d, hd, hlink, hchanges⟩
  have hstarts := ((ofWords []).mem_requests_iff.1 hd).2.2
  rw [links, receivers_clientPost, List.mem_cons, List.mem_singleton] at hlink
  rcases hlink with hnode | hnode
  · rw [hnode, startsRequest, continuesRequest, receivers_clientPost, List.any_cons,
      isRequest_clientFetch] at hstarts
    simp at hstarts
  · rw [hnode, mutationVerb?_clientFetch] at hchanges
    exact hchanges rfl

end Classifier

end UxLint
