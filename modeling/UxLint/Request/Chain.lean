import UxLint.Request.Shape
import UxLint.Syntax.Place

/-!
# Requests and their continuations

A call on the result of a request goes on with that request and is no request of its own. The calls
that a call goes on with are its receivers: the object of its target, if that is a call, and then the
receivers of that.
-/

set_option autoImplicit false

namespace UxLint

namespace Node

mutual

/-- What a node wraps has no more nodes than it. -/
theorem count_unwrap?_le (n : Node) {m : Node} (h : n.unwrap? = some m) : m.count ≤ n.count := by
  match n with
  | node l cs =>
    rw [unwrap?] at h
    split at h
    · have := countAll_unwrapFirst?_le cs h
      simp only [count]; omega
    · cases h; exact Nat.le_refl _

/-- The first value that is unwrapped has no more nodes than all values together. -/
theorem countAll_unwrapFirst?_le (cs : List Node) {m : Node} (h : unwrapFirst? cs = some m) :
    m.count ≤ countAll cs := by
  match cs with
  | [] => simp [unwrapFirst?] at h
  | c :: cs =>
    rw [unwrapFirst?] at h
    split at h
    · have := count_unwrap?_le c h
      simp only [countAll]; omega
    · have := countAll_unwrapFirst?_le cs h
      simp only [countAll]; omega

end

/-- A member of a row has no more nodes than the row. -/
theorem count_le_countAll {c : Node} {cs : List Node} (h : c ∈ cs) : c.count ≤ countAll cs := by
  induction cs with
  | nil => cases h
  | cons d cs ih =>
    simp only [countAll]
    rcases List.mem_cons.1 h with rfl | h
    · omega
    · have := ih h; omega

/-- What fills a field has fewer nodes than the node with the field. -/
theorem count_field?_lt {n c : Node} {name : String} (h : n.field? name = some c) :
    c.count < n.count := by
  cases n with
  | node l cs =>
    have := count_le_countAll (List.mem_of_find?_eq_some h)
    simp only [children, count] at this ⊢
    omega

/-- The call whose result a call is made on. -/
def receiver? (call : Node) : Option Node :=
  match call.target? with
  | none => none
  | some target =>
    if target.isMember then (unwrapped (target.field? "object")).filter isCall else none

/-- What is wrapped in a field has fewer nodes than the node with the field. -/
theorem count_unwrapped_lt {n c m : Node} {name : String} (hf : n.field? name = some c)
    (h : c.unwrap? = some m) : m.count < n.count :=
  Nat.lt_of_le_of_lt (count_unwrap?_le c h) (count_field?_lt hf)

/-- The receiver of a call has fewer nodes than the call. -/
theorem count_receiver?_lt {call m : Node} (h : call.receiver? = some m) :
    m.count < call.count := by
  unfold receiver? at h
  split at h
  · cases h
  · next target ht =>
    split at h
    · obtain ⟨hm, -⟩ := Option.filter_eq_some_iff.1 h
      obtain ⟨o, ho, hm⟩ := Option.bind_eq_some_iff.1 hm
      obtain ⟨f, hf, ht⟩ := Option.bind_eq_some_iff.1 ht
      exact Nat.lt_trans (count_unwrapped_lt ho hm) (count_unwrapped_lt hf ht)
    · cases h

/-- The calls that a call goes on with, the nearest first. -/
def receivers (call : Node) : List Node :=
  match _h : call.receiver? with
  | none => []
  | some m => m :: receivers m
termination_by call.count
decreasing_by exact count_receiver?_lt _h

end Node

namespace Classifier

/-- Whether a call is made on the result of a request. -/
def continuesRequest (r : Classifier) (call : Node) : Bool := call.receivers.any r.isRequest

/-- Whether a call is a request of its own. -/
def startsRequest (r : Classifier) (call : Node) : Bool :=
  r.isRequest call && !r.continuesRequest call

/-- The requests of the walk in the order of their starts. -/
def requests (r : Classifier) (p : Place) : List Place :=
  (p.calls.filter fun c => r.startsRequest c.node).mergeSort
    fun a b => a.node.start ≤ b.node.start

/-- Whether the walk holds a request. -/
def hasRequest (r : Classifier) (p : Place) : Bool := p.calls.any fun c => r.isRequest c.node

end Classifier

end UxLint
