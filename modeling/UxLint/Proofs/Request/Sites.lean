import UxLint.Proofs.Request.Folding
import UxLint.Proofs.Syntax.Traversal
import Mathlib.Data.List.Perm.Basic
import Mathlib.Data.List.Perm.Subperm
import Mathlib.Data.Option.Basic

/-!
# No request is lost

Folding drops the calls that go on with a request, yet every request call of a place is still accounted
for: it is kept itself, or one of the calls that it goes on with is (`folded_requests`). What is kept
starts a request, stands in the order of the source and is kept once. The one thing asked of the tree is
that the marks which its grammar leaves unnamed hold nothing: what stands below such a mark is met by no
walk.
-/

set_option autoImplicit false

namespace UxLint

/-! ## Marks -/

namespace Node

/-- Whether the unnamed nodes below a node have no children. The marks of a parsed text are single tokens, so this
holds of every tree that a parser makes. -/
def marksBare (n : Node) : Bool :=
  n.every fun m => m.children.all fun c => c.isNamed || c.children.isEmpty

variable {n m : Node}

/-- A node without children has no fields. -/
theorem field?_of_bare (h : n.children = []) (name : String) : n.field? name = none := by
  rw [field?, h]
  rfl

/-- A bare node is unwrapped to itself, if to anything. -/
theorem eq_of_unwrap?_bare (h : n.children = []) (hm : n.unwrap? = some m) : m = n := by
  obtain ⟨l, cs⟩ := n
  obtain rfl : cs = [] := h
  rw [unwrap?] at hm
  split at hm
  · cases hm
  · exact (Option.some.inj hm).symm

/-- A node without children has no receiver. -/
theorem receiver?_of_bare (h : n.children = []) : n.receiver? = none := by
  rw [receiver?, target?, callTarget?, field?_of_bare h]
  rfl

/-- A node without children has no receivers at all. -/
theorem receivers_of_bare (h : n.children = []) : n.receivers = [] := by
  unfold receivers
  split
  · rfl
  · next m hm =>
    rw [receiver?_of_bare h] at hm
    cases hm

end Node

/-! ## The links of a call are met -/

namespace Place

variable {p : Place} {n m call link : Node}

/-- What fills a field of a node that the walk meets is met as well, or is a bare mark. -/
theorem Meets.field_or_bare (hmarks : p.node.marksBare = true) (h : p.Meets n) {name : String}
    (hm : n.field? name = some m) : p.Meets m ∨ m.children = [] := by
  have hmem : m ∈ n.children := List.mem_of_find?_eq_some hm
  have hn := List.all_eq_true.1 (Node.holds_of_every (h.inside.every hmarks)) m hmem
  rcases Bool.or_eq_true_iff.1 hn with hnamed | hbare
  · exact .inl (h.namedChild (List.mem_filter.2 ⟨hmem, hnamed⟩))
  · exact .inr (List.isEmpty_iff.1 hbare)

/-- What is wrapped in a field is met by the walk or has no children. -/
theorem Meets.unwrapped_or_bare (hmarks : p.node.marksBare = true) (h : p.Meets n) {name : String}
    (hm : Node.unwrapped (n.field? name) = some m) : p.Meets m ∨ m.children = [] := by
  obtain ⟨held, hheld, hm⟩ := Option.bind_eq_some_iff.1 hm
  rcases h.field_or_bare hmarks hheld with hmet | hbare
  · exact .inl (hmet.unwrap? held hm)
  · exact .inr (Node.eq_of_unwrap?_bare hbare hm ▸ hbare)

/-- A receiver is met by the walk or has no children. -/
theorem Meets.receiver_or_bare (hmarks : p.node.marksBare = true) (h : p.Meets n)
    (hm : n.receiver? = some m) : p.Meets m ∨ m.children = [] := by
  unfold Node.receiver? at hm
  split at hm
  · cases hm
  · next target htarget =>
    split at hm
    · obtain ⟨hobject, -⟩ := Option.filter_eq_some_iff.1 hm
      rcases h.unwrapped_or_bare hmarks htarget with hmet | hbare
      · exact hmet.unwrapped_or_bare hmarks hobject
      · -- A bare target selects from nothing.
        rw [Node.field?_of_bare hbare] at hobject
        cases hobject
    · cases hm

/-- A link of a chain is met by the walk or has no children. -/
theorem Meets.link_or_bare (hmarks : p.node.marksBare = true) (h : p.Meets call)
    (hlink : link ∈ call.links) : p.Meets link ∨ link.children = [] := by
  rcases List.mem_cons.1 hlink with rfl | hlink
  · exact .inl h
  · fun_induction Node.receivers call with
    | case1 => cases hlink
    | case2 call m hm ih =>
      rcases h.receiver_or_bare hmarks hm with hmet | hbare
      · rcases List.mem_cons.1 hlink with rfl | hlink
        · exact .inl hmet
        · exact ih hmet (List.mem_cons_of_mem m hlink) hlink
      · rw [Node.receivers_of_bare hbare, List.mem_singleton] at hlink
        exact .inr (hlink ▸ hbare)

end Place

/-! ## A bare node is no request -/

namespace Text

/-- In lower case, too, a character is something. -/
theorem lowerChar_ne_nil (c : Char) : lowerChar c ≠ [] := by
  unfold lowerChar
  split
  · exact List.cons_ne_nil _ _
  · unfold mapCase
    split
    · next e he =>
      rw [List.mem_singleton.1 (List.mem_of_find?_eq_some he)]
      exact List.cons_ne_nil _ _
    · split <;> exact List.cons_ne_nil _ _

/-- Only the empty text is empty in lower case. -/
theorem lower_eq_nil {t : Text} (h : lower t = []) : t = [] := by
  cases t with
  | nil => rfl
  | cons c t =>
    rw [lower, lowerFrom] at h
    have hhere := (List.append_eq_nil_iff.1 h).1
    split at hhere
    · split at hhere <;> cases hhere
    · exact absurd hhere (lowerChar_ne_nil c)

end Text

/-- Nothing but the empty word has an empty lower case. -/
theorem lowercase_eq_empty {s : String} (h : lowercase s = "") : s = "" := by
  have hlower : Text.lower s.toList = [] := by
    rw [← String.toList_ofList (l := Text.lower s.toList)]
    exact congrArg String.toList h
  exact String.toList_injective (Text.lower_eq_nil hlower)

namespace Classifier

open Request

/-- A request is a call. -/
theorem isCall_of_isRequest {r : Classifier} {n : Node} (h : r.isRequest n = true) :
    n.isCall = true := by
  unfold isRequest classify at h
  unfold Node.isCall
  split at h
  · next hkind => rw [eq_of_beq hkind]; rfl
  · split at h
    · cases h
    · next hkind => rw [show n.kind = "call_expression" by simpa using hkind]; rfl

/-- No word of a project is empty. -/
theorem ne_empty_of_mem_keywords {words : List String} {w : String}
    (h : w ∈ (ofWords words).keywords) : w ≠ "" := by
  obtain ⟨word, hword, rfl⟩ := List.mem_map.1 h
  intro hempty
  have hne := (List.mem_filter.1 hword).2
  rw [lowercase_eq_empty hempty] at hne
  exact absurd hne (by decide)

/-- The empty name has no keyword. -/
theorem hasKeyword_empty (words : List String) :
    hasKeyword (ofWords words).keywords "" = false := by
  have hnone : holdsAny (ofWords words).keywords "" = false := by
    refine List.any_eq_false.2 fun w hw => ?_
    have hne := ne_empty_of_mem_keywords hw
    simpa [occursIn, Text.holds] using hne
  rw [hasKeyword, hnone, Bool.false_and]

/-- A node without children is no request. -/
theorem isRequest_of_bare (words : List String) {n : Node} (h : n.children = []) :
    (ofWords words).isRequest n = false := by
  have htarget : n.callTarget? = none := Node.field?_of_bare h _
  have hname : lowercase n.targetName = "" := by
    rw [Node.targetName, htarget]
    rfl
  have hverb : hasVerb "" = false := by decide
  unfold isRequest classify
  split
  · rw [htarget]
    rfl
  · split
    · rfl
    · simp [shapes, hname, hverb, hasKeyword_empty, Node.target?, htarget, Node.unwrapped]

/-! ## What folding keeps -/

/-- What is asked of the calls that are kept for a place, so that none of its requests is lost. -/
structure Folded (r : Classifier) (p : Place) (kept : List Place) : Prop where
  /-- A request is kept, or goes on with one that is. -/
  accounted : ∀ c ∈ p.calls, r.isRequest c.node = true →
    c ∈ kept ∨ ∃ q ∈ kept, c.Under q ∧ q.node ∈ c.node.receivers
  /-- What is kept is a request and goes on with none. -/
  starts : ∀ q ∈ kept, q ∈ p.calls ∧ r.isRequest q.node = true ∧
    ∀ m ∈ q.node.receivers, r.isRequest m = false
  /-- Something is kept where there is a request. -/
  hasRequest_iff : r.hasRequest p = true ↔ kept ≠ []
  /-- What is kept stands in the order of the source. -/
  ordered : kept.Pairwise fun a b => a.node.start ≤ b.node.start
  /-- No two of what is kept are found on one way down. -/
  once : ∃ ways : List (List Nat), ways.Nodup ∧ ways.map p.at? = kept.map some

variable (r : Classifier) {p c : Place}

/-- A call starts a request exactly if it is one and none of its receivers is. -/
theorem startsRequest_iff {call : Node} : r.startsRequest call = true ↔
    r.isRequest call = true ∧ ∀ m ∈ call.receivers, r.isRequest m = false := by
  rw [startsRequest, continuesRequest, Bool.and_eq_true, Bool.not_eq_true', List.any_eq_false]
  simp only [Bool.not_eq_true]

/-- Requests stand in the order of their starts. -/
theorem requests_ordered (p : Place) :
    (r.requests p).Pairwise fun a b => a.node.start ≤ b.node.start :=
  Place.pairwise_mergeSort_start _

/-- Filtering and sorting a list whose members were found on different ways leaves them on different
ways. -/
theorem exists_ways_requests (p : Place) :
    ∃ ways : List (List Nat), ways.Nodup ∧ ways.map p.at? = (r.requests p).map some := by
  obtain ⟨ways, hnodup, hwalk⟩ := p.exists_ways_walk
  have hsub : (r.requests p).Subperm p.walk :=
    (List.mergeSort_perm _ _).subperm.trans (List.filter_sublist.trans List.filter_sublist).subperm
  have hmap : ((r.requests p).map some).Subperm (ways.map p.at?) :=
    hwalk ▸ hsub.map (Option.some_injective _)
  obtain ⟨l, hl, hsublist⟩ := hmap
  obtain ⟨taken, htaken, rfl⟩ := List.sublist_map_iff.1 hsublist
  -- To sort what is found on some ways is to sort the ways.
  have hsorted := congrFun₂ (List.eq_map_comp_perm p.at?) ((r.requests p).map some) taken
  obtain ⟨kept, hkept, hperm⟩ := hsorted.mpr hl.symm
  exact ⟨kept, hperm.nodup_iff.2 (hnodup.sublist htaken), hkept.symm⟩

/-- A request is kept, or goes on with a request that is kept. -/
theorem mem_requests_or_receivers (words : List String) (hmarks : p.node.marksBare = true)
    (hc : c ∈ p.calls) (hrequest : (ofWords words).isRequest c.node = true) :
    c ∈ (ofWords words).requests p ∨
      ∃ q ∈ (ofWords words).requests p, c.Under q ∧ q.node ∈ c.node.receivers := by
  obtain ⟨hwalk, hcall⟩ := List.mem_filter.1 hc
  obtain ⟨origin, hlink, horigin⟩ := (ofWords words).exists_origin? hrequest
  have hstarts := ((ofWords words).origin?_eq_some_iff hlink).1 horigin
  rcases List.mem_cons.1 hlink with rfl | hreceiver
  · exact .inl ((ofWords words).mem_requests_iff.2 ⟨hwalk, hcall, hstarts⟩)
  · have horiginRequest := ((ofWords words).startsRequest_iff.1 hstarts).1
    have hmarksHere : c.node.marksBare = true := (Place.inside_of_mem_walk hwalk).every hmarks
    have hself : c.Meets c.node := ⟨c, Place.mem_walk_iff.2 .self, rfl⟩
    rcases hself.link_or_bare hmarksHere hlink with ⟨q, hq, rfl⟩ | hbare
    · have hunder : c.Under q := Place.mem_walk_iff.1 hq
      have hqwalk : q ∈ p.walk := Place.mem_walk_iff.2 ((Place.mem_walk_iff.1 hwalk).trans hunder)
      exact .inr ⟨q, (ofWords words).mem_requests_iff.2
        ⟨hqwalk, isCall_of_isRequest horiginRequest, hstarts⟩, hunder, hreceiver⟩
    · rw [isRequest_of_bare words hbare] at horiginRequest
      cases horiginRequest

/-- Folding loses no request: each is kept or goes on with one that is, and what is kept starts a
request, in the order of the source and once each. The tree is one whose marks hold nothing, as a parser
makes it. -/
theorem folded_requests (words : List String) (p : Place) (hmarks : p.node.marksBare = true) :
    (ofWords words).Folded p ((ofWords words).requests p) where
  accounted _ hc hrequest := mem_requests_or_receivers words hmarks hc hrequest
  starts q hq := by
    obtain ⟨hwalk, hcall, hstarts⟩ := (ofWords words).mem_requests_iff.1 hq
    exact ⟨List.mem_filter.2 ⟨hwalk, hcall⟩, (ofWords words).startsRequest_iff.1 hstarts⟩
  hasRequest_iff := by
    rw [hasRequest, List.any_eq_true]
    constructor
    · rintro ⟨c, hc, hrequest⟩
      rcases mem_requests_or_receivers words hmarks hc hrequest with hkept | ⟨q, hkept, -⟩
      · exact List.ne_nil_of_mem hkept
      · exact List.ne_nil_of_mem hkept
    · intro hne
      obtain ⟨q, hq⟩ := List.exists_mem_of_ne_nil _ hne
      obtain ⟨hwalk, hcall, hstarts⟩ := (ofWords words).mem_requests_iff.1 hq
      exact ⟨q, List.mem_filter.2 ⟨hwalk, hcall⟩, ((ofWords words).startsRequest_iff.1 hstarts).1⟩
  ordered := (ofWords words).requests_ordered p
  once := (ofWords words).exists_ways_requests p

/-- Of a call that sends with the client that it fetches, the call that fetches it is kept. -/
theorem folded_requests_client : Node.clientPost.marksBare = true ∧
    (ofWords []).Folded (Place.root Node.clientPost)
      ((ofWords []).requests (Place.root Node.clientPost)) :=
  ⟨rfl, folded_requests [] (Place.root Node.clientPost) rfl⟩

end Classifier

end UxLint
