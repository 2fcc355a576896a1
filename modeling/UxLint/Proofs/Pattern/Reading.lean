import UxLint.Pattern.Search

/-!
# What a pattern reads

`run` looks for a reading that the rest of the search accepts. `Reads` says which readings there are,
without preferences and without what comes after, and `exists_reads` that `run` comes back with one of
them. The cursors of a reading stay on the text, so every match is a piece of the text that was searched,
found at the offset that the match names (`search?_found`, `all_found`).
-/

set_option autoImplicit false

namespace UxLint.Pattern

/-- The readings of a pattern: from where to where. A repetition only goes on with pieces that are not
empty, and a captured piece is remembered behind its end. -/
inductive Reads : Pattern → Cursor → Cursor → Prop where
  | nothing (c : Cursor) : Reads nothing c c
  | one {q : Char → Bool} {c d : Cursor} {x : Char} (next : c.next? = some (x, d))
      (accepted : q x = true) : Reads (one q) c d
  | look {test : Option Char → Text → Bool} {c : Cursor} (holds : test c.before c.rest = true) :
      Reads (look test) c c
  | both {a b : Pattern} {c d e : Cursor} (first : Reads a c d) (second : Reads b d e) :
      Reads (both a b) c e
  | left {a b : Pattern} {c d : Cursor} (reads : Reads a c d) : Reads (either a b) c d
  | right {a b : Pattern} {c d : Cursor} (reads : Reads b c d) : Reads (either a b) c d
  | stop {greedy : Bool} {a : Pattern} (c : Cursor) : Reads (many greedy a) c c
  | more {greedy : Bool} {a : Pattern} {c d e : Cursor} (reads : Reads a c d)
      (shorter : d.left < c.left) (rest : Reads (many greedy a) d e) : Reads (many greedy a) c e
  | capture {number : Nat} {a : Pattern} {c d : Cursor} (reads : Reads a c d) :
      Reads (capture number a) c
        (d.remember ⟨number, c.offset, d.offset - c.offset, c.rest⟩)

/-- Whatever `run` accepts, it accepts at the end of a reading. -/
theorem exists_reads {α : Type} (p : Pattern) :
    ∀ (c : Cursor) (accept : Cursor → Option α) (r : α), p.run c accept = some r →
      ∃ d, Reads p c d ∧ accept d = some r := by
  induction p with
  | nothing =>
    intro c accept r h
    rw [run] at h
    exact ⟨c, .nothing c, h⟩
  | one q =>
    intro c accept r h
    rw [run] at h
    split at h
    · cases h
    · next x d hnext =>
      split at h
      · next hq => exact ⟨d, .one hnext hq, h⟩
      · cases h
  | look test =>
    intro c accept r h
    rw [run] at h
    split at h
    · next htest => exact ⟨c, .look htest, h⟩
    · cases h
  | both a b iha ihb =>
    intro c accept r h
    rw [run] at h
    obtain ⟨d, hfirst, h⟩ := iha c _ r h
    obtain ⟨e, hsecond, h⟩ := ihb d accept r h
    exact ⟨e, .both hfirst hsecond, h⟩
  | either a b iha ihb =>
    intro c accept r h
    rw [run] at h
    split at h
    · next r' hleft =>
      obtain ⟨d, hreads, haccept⟩ := iha c accept r' hleft
      exact ⟨d, .left hreads, haccept.trans h⟩
    · obtain ⟨d, hreads, haccept⟩ := ihb c accept r h
      exact ⟨d, .right hreads, haccept⟩
  | many greedy a iha =>
    intro c accept r
    -- Going on reads a piece that leaves less text, so the induction is on what is left.
    induction hn : c.left using Nat.strongRecOn generalizing c with
    | _ n ih =>
      have hmore : (a.run c fun d => if d.left < c.left then (many greedy a).run d accept else none) =
          some r → ∃ d, Reads (many greedy a) c d ∧ accept d = some r := by
        intro h
        obtain ⟨d, hreads, h⟩ := iha c _ r h
        split at h
        · next hshorter =>
          obtain ⟨e, hrest, haccept⟩ := ih d.left (hn ▸ hshorter) d rfl h
          exact ⟨e, .more hreads hshorter hrest, haccept⟩
        · cases h
      intro h
      cases greedy with
      | true =>
        rw [run_greedy] at h
        split at h
        · next r' hgo => exact hmore (hgo.trans h)
        · exact ⟨c, .stop c, h⟩
      | false =>
        rw [run_reluctant] at h
        split at h
        · next r' hstop => exact ⟨c, .stop c, hstop.trans h⟩
        · exact hmore h
  | capture number a iha =>
    intro c accept r h
    rw [run] at h
    obtain ⟨d, hreads, haccept⟩ := iha c _ r h
    exact ⟨_, .capture hreads, haccept⟩

/-! ## Fixed characters -/

/-- A place with a next character has it in front of the rest. -/
theorem Cursor.rest_of_next? {x : Char} {c d : Cursor} (h : c.next? = some (x, d)) :
    c.rest = x :: d.rest := by
  unfold next? at h
  split at h
  · cases h
  · next y rest hrest =>
    cases h
    exact hrest

/-- To read a character is to find it in front of the rest. -/
theorem Reads.char_rest {x : Char} {c d : Cursor} (h : Reads (char x) c d) :
    c.rest = x :: d.rest := by
  cases h with
  | one next accepted => rw [Cursor.rest_of_next? next, beq_iff_eq.1 accepted]

/-- To read a row of characters is to find it in front of the rest. -/
theorem Reads.chars_rest {w : Text} {c d : Cursor} (h : Reads (inOrder (w.map char)) c d) :
    c.rest = w ++ d.rest := by
  induction w generalizing c with
  | nil =>
    cases h
    rfl
  | cons x w ih =>
    cases w with
    | nil => exact h.char_rest
    | cons y w =>
      cases h with
      | both first second =>
        rw [first.char_rest, ih second]
        rfl

/-- A literal is read where it stands. -/
theorem Reads.literal_prefix {s : String} {c d : Cursor} (h : Reads (literal s) c d) :
    s.toList <+: c.rest :=
  ⟨d.rest, h.chars_rest.symm⟩

/-! ## Cursors on a text -/

/-- A remembered piece is one of the text. -/
structure Capture.On (t : Text) (k : Capture) : Prop where
  source : k.source = t.drop k.start
  bound : k.start + k.length ≤ t.length

/-- A cursor is a place of the text, and so are the pieces that it remembers. -/
structure Cursor.On (t : Text) (c : Cursor) : Prop where
  rest : c.rest = t.drop c.offset
  bound : c.offset ≤ t.length
  captures : ∀ k ∈ c.captures, k.On t

variable {t : Text} {c d : Cursor}

/-- The start of a text is a place in it. -/
theorem Cursor.on_start (t : Text) : (Cursor.start t).On t where
  rest := rfl
  bound := Nat.zero_le _
  captures := by
    intro k hk
    cases hk

/-- A step from a place in a text leads to the next one. -/
theorem Cursor.On.next {x : Char} (h : c.On t) (hnext : c.next? = some (x, d)) :
    d.On t ∧ d.offset = c.offset + 1 := by
  have hrest : t.drop c.offset = x :: d.rest := h.rest.symm.trans (rest_of_next? hnext)
  have hbound : c.offset < t.length := by
    have hlength := congrArg List.length hrest
    rw [List.length_drop, List.length_cons] at hlength
    omega
  unfold Cursor.next? at hnext
  split at hnext
  · cases hnext
  · cases hnext
    refine ⟨⟨?_, hbound, h.captures⟩, rfl⟩
    dsimp only at hrest ⊢
    rw [← List.drop_drop, hrest]
    rfl

/-- A reading stays on the text and does not go back. -/
theorem Reads.on {p : Pattern} (hreads : Reads p c d) (h : c.On t) :
    d.On t ∧ c.offset ≤ d.offset := by
  induction hreads with
  | nothing => exact ⟨h, Nat.le_refl _⟩
  | look => exact ⟨h, Nat.le_refl _⟩
  | stop => exact ⟨h, Nat.le_refl _⟩
  | one next =>
    obtain ⟨hd, hoffset⟩ := h.next next
    exact ⟨hd, hoffset ▸ Nat.le_succ _⟩
  | both _ _ ih ih' =>
    obtain ⟨hd, hle⟩ := ih h
    obtain ⟨he, hle'⟩ := ih' hd
    exact ⟨he, Nat.le_trans hle hle'⟩
  | left _ ih => exact ih h
  | right _ ih => exact ih h
  | more _ _ _ ih ih' =>
    obtain ⟨hd, hle⟩ := ih h
    obtain ⟨he, hle'⟩ := ih' hd
    exact ⟨he, Nat.le_trans hle hle'⟩
  | @capture number a c d _ ih =>
    obtain ⟨hd, hle⟩ := ih h
    refine ⟨⟨hd.rest, hd.bound, ?_⟩, hle⟩
    intro k hk
    rcases List.mem_cons.1 hk with rfl | hk
    · refine ⟨h.rest, ?_⟩
      have := hd.bound
      change c.offset + (d.offset - c.offset) ≤ t.length
      omega
    · exact hd.captures k hk

/-! ## Matches -/

/-- A match is a reading of the pattern from a place of the text. -/
def Found (p : Pattern) (t : Text) (m : Match) : Prop :=
  ∃ c : Cursor, c.On t ∧ m.start = c.offset ∧ Reads p c m.stop

/-- A match starts inside of the text. -/
theorem Found.start_le {p : Pattern} {m : Match} (h : p.Found t m) : m.start ≤ t.length := by
  obtain ⟨c, hc, hstart, -⟩ := h
  exact hstart ▸ hc.bound

/-- A match stops at a place in the text. -/
theorem Found.stop_on {p : Pattern} {m : Match} (h : p.Found t m) : m.stop.On t := by
  obtain ⟨c, hc, -, hreads⟩ := h
  exact (hreads.on hc).1

/-- What a search finds is found in the text. -/
theorem searchFrom?_found {p : Pattern} {m : Match} (hc : c.On t)
    (h : p.searchFrom? c = some m) : p.Found t m := by
  fun_induction searchFrom? p c with
  | case1 c m' hmatch =>
    cases h
    obtain ⟨d, hrun, rfl⟩ := Option.map_eq_some_iff.1 hmatch
    obtain ⟨d', hreads, hd⟩ := exists_reads p _ some d hrun
    cases hd
    have hplace : Cursor.On t { c with captures := [] } := by
      refine ⟨hc.rest, hc.bound, fun k hk => ?_⟩
      exact absurd hk List.not_mem_nil
    exact ⟨{ c with captures := [] }, hplace, rfl, hreads⟩
  | case2 => cases h
  | case3 c _ x d hnext ih => exact ih (hc.next hnext).1 h

/-- The first match in a text is found in the text. -/
theorem search?_found {p : Pattern} {m : Match} (h : p.search? t = some m) : p.Found t m :=
  searchFrom?_found (Cursor.on_start t) h

/-- All that is found from a place on is found in the text. -/
theorem allFrom_found {p : Pattern} (hc : c.On t) : ∀ m ∈ p.allFrom c, p.Found t m := by
  fun_induction allFrom p c with
  | case1 => simp
  | case2 c m hsearch _ ih =>
    have hm := searchFrom?_found hc hsearch
    intro m' hm'
    rcases List.mem_cons.1 hm' with rfl | hm'
    · exact hm
    · exact ih hm.stop_on m' hm'
  | case3 c m hsearch =>
    intro m' hm'
    rw [List.mem_singleton.1 hm']
    exact searchFrom?_found hc hsearch
  | case4 c m hsearch _ x d hnext ih =>
    intro m' hm'
    rcases List.mem_cons.1 hm' with rfl | hm'
    · exact searchFrom?_found hc hsearch
    · exact ih (hc.next hnext).1 m' hm'

/-- Every match in a text is found in the text. -/
theorem all_found {p : Pattern} : ∀ m ∈ p.all t, p.Found t m := allFrom_found (Cursor.on_start t)

end UxLint.Pattern
