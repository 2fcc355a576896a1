import UxLint.Loading.Flow
import UxLint.Proofs.Syntax.Walks

/-!
# Flags of a function

What is asked about the flags around a request goes over three different parts of its function: the
statements before the request, the parts that run once it has settled, and the whole function. The blocks
around a place end at the function that bounds the search, so a flag that is switched on before a request
is one that the function switches at all (`flagsSetBefore_subset`), and a flag that protects a request is
one of those. None of the three lists repeats a flag (`nested`).
-/

set_option autoImplicit false

namespace UxLint

/-- A call is no function. -/
theorem Node.not_isFunction_of_isCall {n : Node} (h : n.isCall = true) : n.isFunction = false := by
  have hkind : ∀ k ∈ callKinds, functionKinds.contains k = false := by decide
  unfold Node.isFunction
  rw [hkind n.kind (List.contains_iff_mem.1 h), Bool.and_false]

namespace Place

variable {f c : Place} {stop : Node}

/-- The blocks around a place are nodes on the way up to the node that bounds the search. -/
theorem mem_of_mem_blocksFrom {b : Node × Node} {child : Node} (way rest : List Node)
    (h : b ∈ blocksFrom stop child (way ++ stop :: rest)) : b.1 ∈ way ∨ b.1 = stop := by
  have hhere : ∀ {n m : Node}, b ∈ (if n.kind == "statement_block" then [(n, m)] else []) →
      b.1 = n := by
    intro n m hb
    split at hb
    · rw [List.mem_singleton.1 hb]
    · cases hb
  induction way generalizing child with
  | nil =>
    rw [List.nil_append, blocksFrom, if_pos stop.sameSpot_self] at h
    exact .inr (hhere h)
  | cons n way ih =>
    rw [List.cons_append, blocksFrom] at h
    split at h
    · exact .inl (hhere h ▸ List.mem_cons_self)
    · rcases List.mem_append.1 h with h | h
      · exact .inl (hhere h ▸ List.mem_cons_self)
      · exact (ih h).imp (List.mem_cons_of_mem n) id

/-- The way from a call up to the function that it is a call of. -/
theorem exists_way (hf : f.node.isFunction = true) (hc : c ∈ f.walk)
    (hcall : c.node.isCall = true) :
    ∃ way, c.above = way ++ f.node :: f.above ∧
      ∃ d ∈ f.node.namedChildren, c.node ∈ d.walk ∧ ∀ n ∈ way, n ∈ d.walk := by
  rcases (mem_walk_iff.1 hc).exists_above with rfl | h
  · rw [Node.not_isFunction_of_isCall hcall] at hf
    cases hf
  · exact h

/-- The blocks around a call lie in its function. -/
theorem mem_walk_of_mem_blocks (hf : f.node.isFunction = true) (hc : c ∈ f.walk)
    (hcall : c.node.isCall = true) {b : Node × Node} (hb : b ∈ c.blocks f.node) :
    b.1 ∈ f.node.walk := by
  obtain ⟨way, habove, d, hd, -, hway⟩ := exists_way hf hc hcall
  unfold blocks at hb
  rw [habove] at hb
  rcases mem_of_mem_blocksFrom way f.above hb with h | h
  · exact Node.mem_walk_iff.2 (.inr ⟨d, hd, hway b.1 h⟩)
  · exact h ▸ f.node.mem_walk_self

/-- The statements before a call within its function lie in the function. -/
theorem mem_walk_of_mem_statementsBefore (hf : f.node.isFunction = true) (hc : c ∈ f.walk)
    (hcall : c.node.isCall = true) {s : Node} (hs : s ∈ c.statementsBefore f.node) :
    s ∈ f.node.walk := by
  obtain ⟨b, hb, hs⟩ := List.mem_flatMap.1 hs
  have hitem : s ∈ b.1.items := (List.takeWhile_sublist _).mem hs
  exact Node.mem_walk_trans (mem_walk_of_mem_blocks hf hc hcall hb)
    (Node.mem_walk_of_namedChild (List.mem_filter.1 hitem).1)

end Place

namespace Classifier

variable {r : Classifier} {f c : Place}

/-- A request is a call. -/
theorem isCall_of_mem_requests (h : c ∈ r.requests f) : c.node.isCall = true :=
  (List.mem_filter.1 (List.mem_filter.1 (List.mem_mergeSort.1 h)).1).2

end Classifier

namespace Loading

/-! ## Lists without repetitions -/

/-- What is left without repetitions is what there was, but for what was seen. -/
theorem mem_distinct {seen l : List String} {s : String} :
    s ∈ distinct seen l ↔ s ∈ l ∧ s ∉ seen := by
  induction l generalizing seen with
  | nil => simp [distinct]
  | cons x l ih =>
    rw [distinct]
    split
    · next hx =>
      rw [List.contains_iff_mem] at hx
      rw [ih, List.mem_cons]
      constructor
      · exact fun h => ⟨.inr h.1, h.2⟩
      · rintro ⟨rfl | h, hs⟩
        · exact absurd hx hs
        · exact ⟨h, hs⟩
    · next hx =>
      rw [List.contains_iff_mem] at hx
      rw [List.mem_cons, ih, List.mem_cons, List.mem_cons, not_or]
      constructor
      · rintro (rfl | ⟨h, -, hs⟩)
        · exact ⟨.inl rfl, hx⟩
        · exact ⟨.inr h, hs⟩
      · rintro ⟨rfl | h, hs⟩
        · exact .inl rfl
        · exact (Decidable.em (s = x)).imp id fun hne => ⟨h, hne, hs⟩

/-- What is left without repetitions has none. -/
theorem nodup_distinct (seen l : List String) : (distinct seen l).Nodup := by
  induction l generalizing seen with
  | nil => exact List.nodup_nil
  | cons x l ih =>
    rw [distinct]
    split
    · exact ih seen
    · refine List.nodup_cons.2 ⟨fun h => ?_, ih (x :: seen)⟩
      exact (mem_distinct.1 h).2 List.mem_cons_self

/-! ## Flags -/

variable {r : Classifier} {f c : Place} {flag : String}

/-- What a node of a walk switches, the whole walk switches. -/
theorem mem_assignments_of_mem_walk {n m : Node} {a : FlagAssignment} (hm : m ∈ n.walk)
    (ha : a ∈ assignments m) : a ∈ assignments n := by
  obtain ⟨k, hk, ha⟩ := List.mem_flatMap.1 ha
  exact List.mem_flatMap.2 ⟨k, Node.mem_walk_trans hm hk, ha⟩

/-- A flag is set in front of a statement if a statement there switches on a flag of a busy name. -/
theorem mem_flagsSetBefore_iff {p : Place} {stop : Node} :
    flag ∈ flagsSetBefore p stop false ↔
      isBusyName flag = true ∧ ∃ s ∈ p.statementsBefore stop, ∃ a ∈ assignments s,
        a.value = true ∧ a.flag = flag := by
  unfold flagsSetBefore
  rw [mem_distinct]
  simp only [List.mem_map, List.mem_filter, List.mem_flatMap, Bool.false_or, Bool.and_eq_true,
    List.not_mem_nil, not_false_eq_true, and_true]
  constructor
  · rintro ⟨a, ⟨⟨s, hs, ha⟩, hvalue, hbusy⟩, rfl⟩
    exact ⟨hbusy, s, hs, a, ha, hvalue, rfl⟩
  · rintro ⟨hbusy, s, hs, a, ha, hvalue, rfl⟩
    exact ⟨a, ⟨⟨s, hs, ha⟩, hvalue, hbusy⟩, rfl⟩

/-- A function defines the flags of busy names that it assigns. -/
theorem mem_definedFlags_iff {n : Node} :
    flag ∈ definedFlags n ↔ isBusyName flag = true ∧ ∃ a ∈ assignments n, a.flag = flag := by
  unfold definedFlags
  rw [mem_distinct]
  simp only [List.mem_map, List.mem_filter, List.not_mem_nil, not_false_eq_true, and_true]
  constructor
  · rintro ⟨a, ⟨ha, hbusy⟩, rfl⟩
    exact ⟨hbusy, a, ha, rfl⟩
  · rintro ⟨hbusy, a, ha, rfl⟩
    exact ⟨a, ⟨ha, hbusy⟩, rfl⟩

/-- A flag that protects a request is switched on before it. -/
theorem protectedFlags_subset (p : Place) (stop : Node) :
    protectedFlags p stop ⊆ flagsSetBefore p stop false :=
  List.filter_sublist.subset

/-- A flag that is switched on before a request of a function is one that the function switches. -/
theorem flagsSetBefore_subset (hf : f.node.isFunction = true) (hc : c ∈ r.requests f) :
    flagsSetBefore c f.node false ⊆ definedFlags f.node := by
  intro flag hflag
  obtain ⟨hbusy, s, hs, a, ha, -, rfl⟩ := mem_flagsSetBefore_iff.1 hflag
  have hin := Place.mem_walk_of_mem_statementsBefore hf (r.mem_walk_of_mem_requests hc)
    (r.isCall_of_mem_requests hc) hs
  exact mem_definedFlags_iff.2 ⟨hbusy, a, mem_assignments_of_mem_walk hin ha, rfl⟩

/-- The three lists of flags around a place: each holds the one before it, and none repeats a flag. -/
structure Nested (p : Place) (stop : Node) : Prop where
  protected_subset : protectedFlags p stop ⊆ flagsSetBefore p stop false
  before_subset : flagsSetBefore p stop false ⊆ definedFlags stop
  nodup_protected : (protectedFlags p stop).Nodup
  nodup_before : (flagsSetBefore p stop false).Nodup
  nodup_defined : (definedFlags stop).Nodup

/-- A request is nested in the function that sends it. -/
theorem nested (hf : f.node.isFunction = true) (hc : c ∈ r.requests f) : Nested c f.node where
  protected_subset := protectedFlags_subset c f.node
  before_subset := flagsSetBefore_subset hf hc
  nodup_protected := (nodup_distinct _ _).filter _
  nodup_before := nodup_distinct _ _
  nodup_defined := nodup_distinct _ _

end Loading

end UxLint
