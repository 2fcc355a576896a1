import UxLint.Proofs.Pattern.Reading

/-!
# Which pieces a pattern fits

`Fits` says that a pattern fits a piece of a text, between the character before the piece and the text
behind it. It does not speak of cursors, so the pieces of a pattern made of parts are computed from those
of the parts. A search that only asks whether there is a match finds one exactly if the pattern fits some
piece (`occurs_iff`), whatever the preferences of its repetitions. Scanning for all matches leaves no piece
that fits without a match at its start or across it (`allFrom_covers`).
-/

set_option autoImplicit false

namespace UxLint.Pattern

/-- The last character of a piece, or the one before it if the piece is empty. -/
def lastOf (before : Option Char) : Text → Option Char
  | [] => before
  | x :: w => lastOf (some x) w

/-- The last character of two texts is that of the second one, behind the first. -/
theorem lastOf_append (before : Option Char) (v w : Text) :
    lastOf before (v ++ w) = lastOf (lastOf before v) w := by
  induction v generalizing before with
  | nil => rfl
  | cons x v ih => exact ih (some x)

/-- A pattern fits a piece of a text, given the character before it and the text behind it. -/
inductive Fits : Pattern → Option Char → Text → Text → Prop where
  | nothing (before : Option Char) (behind : Text) : Fits nothing before [] behind
  | one {q : Char → Bool} {x : Char} (before : Option Char) (behind : Text) (accepted : q x = true) :
      Fits (one q) before [x] behind
  | look {test : Option Char → Text → Bool} {before : Option Char} {behind : Text}
      (holds : test before behind = true) : Fits (look test) before [] behind
  | both {a b : Pattern} {before : Option Char} {v w behind : Text}
      (first : Fits a before v (w ++ behind)) (second : Fits b (lastOf before v) w behind) :
      Fits (both a b) before (v ++ w) behind
  | left {a b : Pattern} {before : Option Char} {w behind : Text} (fits : Fits a before w behind) :
      Fits (either a b) before w behind
  | right {a b : Pattern} {before : Option Char} {w behind : Text} (fits : Fits b before w behind) :
      Fits (either a b) before w behind
  | stop {greedy : Bool} {a : Pattern} (before : Option Char) (behind : Text) :
      Fits (many greedy a) before [] behind
  | more {greedy : Bool} {a : Pattern} {before : Option Char} {v w behind : Text}
      (fits : Fits a before v (w ++ behind)) (nonempty : v ≠ [])
      (rest : Fits (many greedy a) (lastOf before v) w behind) :
      Fits (many greedy a) before (v ++ w) behind
  | capture {number : Nat} {a : Pattern} {before : Option Char} {w behind : Text}
      (fits : Fits a before w behind) : Fits (capture number a) before w behind

/-! ## Readings and pieces -/

/-- A cursor comes to another one over a piece of the text. -/
structure Cursor.Reaches (c : Cursor) (w : Text) (d : Cursor) : Prop where
  rest : c.rest = w ++ d.rest
  before : d.before = lastOf c.before w
  offset : d.offset = c.offset + w.length

namespace Cursor.Reaches

variable {c d e : Cursor} {v w : Text}

/-- A place reaches itself over nothing. -/
theorem refl (c : Cursor) : c.Reaches [] c := ⟨rfl, rfl, rfl⟩

/-- A place reaches over two texts what it reaches over the one and then over the other. -/
theorem trans (h : c.Reaches v d) (h' : d.Reaches w e) : c.Reaches (v ++ w) e where
  rest := by rw [h.rest, h'.rest, List.append_assoc]
  before := by rw [lastOf_append, ← h.before, h'.before]
  offset := by rw [h'.offset, h.offset, List.length_append, Nat.add_assoc]

/-- A step reaches over one character. -/
theorem next {x : Char} (h : c.next? = some (x, d)) : c.Reaches [x] d := by
  refine ⟨Cursor.rest_of_next? h, ?_, ?_⟩
  all_goals
    unfold Cursor.next? at h
    split at h
    · cases h
    · cases h
      rfl

/-- A place that is reached over some text leaves less. -/
theorem left_lt (h : c.Reaches w d) (hw : w ≠ []) : d.left < c.left := by
  have := List.length_pos_iff.2 hw
  rw [d.left_eq, c.left_eq, h.rest, List.length_append]
  omega

/-- A place that leaves less is reached over some text. -/
theorem ne_nil (h : c.Reaches w d) (hleft : d.left < c.left) : w ≠ [] := by
  rintro rfl
  rw [d.left_eq, c.left_eq, h.rest] at hleft
  exact Nat.lt_irrefl _ hleft

end Cursor.Reaches

/-- In front of a character a place has a next one. -/
theorem Cursor.exists_next? {c : Cursor} {x : Char} {r : Text} (h : c.rest = x :: r) :
    ∃ d, c.next? = some (x, d) ∧ d.rest = r := by
  unfold Cursor.next?
  split
  · next hr => rw [hr] at h; cases h
  · next y t hr =>
    rw [hr] at h
    cases h
    exact ⟨_, rfl, rfl⟩

variable {p a b : Pattern} {c d : Cursor} {before : Option Char} {u v w r behind t : Text}

/-- A reading goes over a piece that the pattern fits. -/
theorem Reads.exists_fits (h : Reads p c d) :
    ∃ w, c.Reaches w d ∧ Fits p c.before w d.rest := by
  induction h with
  | nothing c => exact ⟨[], .refl c, .nothing _ _⟩
  | @one q c d x next accepted => exact ⟨[x], .next next, .one _ _ accepted⟩
  | @look test c holds => exact ⟨[], .refl c, .look holds⟩
  | @both a b c d e _ _ ih ih' =>
    obtain ⟨v, hv, hfits⟩ := ih
    obtain ⟨w, hw, hfits'⟩ := ih'
    rw [hw.rest] at hfits
    rw [hv.before] at hfits'
    exact ⟨v ++ w, hv.trans hw, .both hfits hfits'⟩
  | left _ ih =>
    obtain ⟨w, hw, hfits⟩ := ih
    exact ⟨w, hw, .left hfits⟩
  | right _ ih =>
    obtain ⟨w, hw, hfits⟩ := ih
    exact ⟨w, hw, .right hfits⟩
  | stop c => exact ⟨[], .refl c, .stop _ _⟩
  | @more greedy a c d e _ shorter _ ih ih' =>
    obtain ⟨v, hv, hfits⟩ := ih
    obtain ⟨w, hw, hfits'⟩ := ih'
    rw [hw.rest] at hfits
    rw [hv.before] at hfits'
    exact ⟨v ++ w, hv.trans hw, .more hfits (hv.ne_nil shorter) hfits'⟩
  | capture _ ih =>
    obtain ⟨w, hw, hfits⟩ := ih
    exact ⟨w, ⟨hw.rest, hw.before, hw.offset⟩, .capture hfits⟩

/-- Wherever a pattern fits a piece, there is a reading over it. -/
theorem Fits.exists_reads (h : Fits p before w behind) :
    ∀ c : Cursor, c.before = before → c.rest = w ++ behind →
      ∃ d, Reads p c d ∧ c.Reaches w d ∧ d.rest = behind := by
  induction h with
  | nothing => exact fun c _ hrest => ⟨c, .nothing c, .refl c, hrest⟩
  | one before behind accepted =>
    intro c _ hrest
    obtain ⟨d, hnext, hd⟩ := Cursor.exists_next? hrest
    exact ⟨d, .one hnext accepted, .next hnext, hd⟩
  | look holds =>
    intro c hbefore hrest
    exact ⟨c, .look (by rw [hbefore, hrest]; exact holds), .refl c, hrest⟩
  | @both a b before v w behind _ _ ih ih' =>
    intro c hbefore hrest
    rw [List.append_assoc] at hrest
    obtain ⟨d, hreads, hd, hdrest⟩ := ih c hbefore hrest
    obtain ⟨e, hreads', he, herest⟩ := ih' d (by rw [hd.before, hbefore]) hdrest
    exact ⟨e, .both hreads hreads', hd.trans he, herest⟩
  | left _ ih =>
    intro c hbefore hrest
    obtain ⟨d, hreads, hd⟩ := ih c hbefore hrest
    exact ⟨d, .left hreads, hd⟩
  | right _ ih =>
    intro c hbefore hrest
    obtain ⟨d, hreads, hd⟩ := ih c hbefore hrest
    exact ⟨d, .right hreads, hd⟩
  | stop => exact fun c _ hrest => ⟨c, .stop c, .refl c, hrest⟩
  | @more greedy a before v w behind _ nonempty _ ih ih' =>
    intro c hbefore hrest
    rw [List.append_assoc] at hrest
    obtain ⟨d, hreads, hd, hdrest⟩ := ih c hbefore hrest
    obtain ⟨e, hreads', he, herest⟩ := ih' d (by rw [hd.before, hbefore]) hdrest
    exact ⟨e, .more hreads (hd.left_lt nonempty) hreads', hd.trans he, herest⟩
  | capture _ ih =>
    intro c hbefore hrest
    obtain ⟨d, hreads, hd, hdrest⟩ := ih c hbefore hrest
    exact ⟨_, .capture hreads, ⟨hd.rest, hd.before, hd.offset⟩, hdrest⟩

/-- If the end of some reading is accepted, `run` accepts something. -/
theorem Reads.run_isSome (h : Reads p c d) :
    ∀ {α : Type} (accept : Cursor → Option α), (accept d).isSome = true →
      (p.run c accept).isSome = true := by
  induction h with
  | nothing c =>
    intro α accept haccept
    rw [run]
    exact haccept
  | one next accepted =>
    intro α accept haccept
    rw [run, next]
    dsimp only
    rw [if_pos accepted]
    exact haccept
  | look holds =>
    intro α accept haccept
    rw [run, if_pos holds]
    exact haccept
  | both _ _ ih ih' =>
    intro α accept haccept
    rw [run]
    exact ih _ (ih' accept haccept)
  | left _ ih =>
    intro α accept haccept
    obtain ⟨r, hr⟩ := Option.isSome_iff_exists.1 (ih accept haccept)
    rw [run, hr]
    rfl
  | right _ ih =>
    intro α accept haccept
    rw [run]
    split
    · rfl
    · exact ih accept haccept
  | @stop greedy a c =>
    intro α accept haccept
    cases greedy with
    | true =>
      rw [run_greedy]
      split
      · rfl
      · exact haccept
    | false =>
      obtain ⟨r, hr⟩ := Option.isSome_iff_exists.1 haccept
      rw [run_reluctant, hr]
      rfl
  | @more greedy a c d e _ shorter _ ih ih' =>
    intro α accept haccept
    have hmore := ih (fun d => if d.left < c.left then (many greedy a).run d accept else none)
      (by rw [if_pos shorter]; exact ih' accept haccept)
    cases greedy with
    | true =>
      obtain ⟨r, hr⟩ := Option.isSome_iff_exists.1 hmore
      rw [run_greedy, hr]
      rfl
    | false =>
      rw [run_reluctant]
      split
      · rfl
      · exact hmore
  | capture _ ih =>
    intro α accept haccept
    rw [run]
    exact ih _ haccept

/-! ## Searches -/

/-- There is a match at a place exactly if the pattern fits a piece that starts there. -/
theorem matchAt?_isSome_iff :
    (p.matchAt? c).isSome = true ↔ ∃ w r, c.rest = w ++ r ∧ Fits p c.before w r := by
  unfold matchAt?
  rw [Option.isSome_map]
  constructor
  · intro h
    obtain ⟨d, hd⟩ := Option.isSome_iff_exists.1 h
    obtain ⟨e, hreads, -⟩ := Pattern.exists_reads p _ _ d hd
    obtain ⟨w, hw, hfits⟩ := hreads.exists_fits
    exact ⟨w, e.rest, hw.rest, hfits⟩
  · rintro ⟨w, r, hrest, hfits⟩
    obtain ⟨d, hreads, -, -⟩ := hfits.exists_reads { c with captures := [] } rfl hrest
    exact hreads.run_isSome some rfl

/-- What a match at a place reaches. -/
theorem reaches_of_matchAt? {m : Match} (h : p.matchAt? c = some m) :
    m.start = c.offset ∧ ∃ w, c.Reaches w m.stop ∧ Fits p c.before w m.stop.rest := by
  obtain ⟨d, hrun, rfl⟩ := Option.map_eq_some_iff.1 h
  obtain ⟨e, hreads, he⟩ := Pattern.exists_reads p _ some d hrun
  cases he
  obtain ⟨w, hw, hfits⟩ := hreads.exists_fits
  exact ⟨rfl, w, ⟨hw.rest, hw.before, hw.offset⟩, hfits⟩

/-- A search finds a match that starts where it starts. -/
theorem searchFrom?_of_match {m : Match} (h : p.matchAt? c = some m) : p.searchFrom? c = some m := by
  rw [searchFrom?, h]

/-- A search finds the match at the first place where the pattern fits. -/
theorem searchFrom?_first {m : Match} (h : p.searchFrom? c = some m) :
    ∃ u d, c.Reaches u d ∧ p.matchAt? d = some m ∧
      ∀ u' w r, c.rest = u' ++ w ++ r → Fits p (lastOf c.before u') w r →
        u.length ≤ u'.length := by
  fun_induction searchFrom? p c with
  | case1 c m' hmatch =>
    cases h
    exact ⟨[], c, .refl c, hmatch, fun _ _ _ _ _ => Nat.zero_le _⟩
  | case2 => cases h
  | case3 c hnone x d hnext ih =>
    obtain ⟨u, e, he, hmatch, hfirst⟩ := ih h
    have hd := Cursor.Reaches.next hnext
    refine ⟨x :: u, e, hd.trans he, hmatch, fun u' w r hrest hfits => ?_⟩
    cases u' with
    | nil =>
      have hhere := matchAt?_isSome_iff.2 ⟨w, r, hrest, hfits⟩
      rw [hnone] at hhere
      cases hhere
    | cons y u' =>
      rw [hd.rest] at hrest
      obtain ⟨rfl, htail⟩ := List.cons.inj hrest
      have := hfirst u' w r htail (by rw [hd.before]; exact hfits)
      simp only [List.length_cons]
      omega

/-- A search finds something exactly if the pattern fits somewhere. -/
theorem searchFrom?_isSome_iff :
    (p.searchFrom? c).isSome = true ↔
      ∃ u w r, c.rest = u ++ w ++ r ∧ Fits p (lastOf c.before u) w r := by
  constructor
  · intro h
    obtain ⟨m, hm⟩ := Option.isSome_iff_exists.1 h
    obtain ⟨u, d, hd, hmatch, -⟩ := searchFrom?_first hm
    obtain ⟨-, w, hw, hfits⟩ := reaches_of_matchAt? hmatch
    exact ⟨u, w, m.stop.rest, by rw [hd.rest, hw.rest, List.append_assoc],
      by rw [← hd.before]; exact hfits⟩
  · rintro ⟨u, w, r, hrest, hfits⟩
    induction u generalizing c with
    | nil =>
      have hhere := matchAt?_isSome_iff.2 ⟨w, r, hrest, hfits⟩
      obtain ⟨m, hm⟩ := Option.isSome_iff_exists.1 hhere
      rw [searchFrom?, hm]
      rfl
    | cons x u ih =>
      obtain ⟨d, hnext, hd⟩ := Cursor.exists_next? hrest
      have hreach := Cursor.Reaches.next hnext
      have hfound := ih hd (by rw [hreach.before]; exact hfits)
      rw [searchFrom?]
      split
      · rfl
      · split
        · next hnone => rw [hnext] at hnone; cases hnone
        · next hsome =>
          rw [hnext] at hsome
          cases hsome
          exact hfound

/-- A pattern occurs in a text exactly if it fits a piece of it. -/
theorem occurs_iff :
    p.occurs t = true ↔ ∃ u w r, t = u ++ w ++ r ∧ Fits p (lastOf none u) w r :=
  searchFrom?_isSome_iff

/-- A pattern matches at the start of a text exactly if it fits a piece there. -/
theorem match?_isSome_iff :
    (p.match? t).isSome = true ↔ ∃ w r, t = w ++ r ∧ Fits p none w r :=
  matchAt?_isSome_iff

/-- Every match of a scan is the match at some place. -/
theorem exists_matchAt?_of_mem_allFrom {m : Match} (h : m ∈ p.allFrom c) :
    ∃ u d, c.Reaches u d ∧ p.matchAt? d = some m := by
  fun_induction allFrom p c with
  | case1 => cases h
  | case2 c m' hsearch _ ih =>
    obtain ⟨u, d, hd, hmatch, -⟩ := searchFrom?_first hsearch
    rcases List.mem_cons.1 h with rfl | h
    · exact ⟨u, d, hd, hmatch⟩
    · obtain ⟨-, w, hw, -⟩ := reaches_of_matchAt? hmatch
      obtain ⟨u', d', hd', hmatch'⟩ := ih h
      exact ⟨_, d', (hd.trans hw).trans hd', hmatch'⟩
  | case3 c m' hsearch =>
    rw [List.mem_singleton] at h
    obtain ⟨u, d, hd, hmatch, -⟩ := searchFrom?_first hsearch
    exact ⟨u, d, hd, h ▸ hmatch⟩
  | case4 c m' hsearch _ x d' hnext ih =>
    rcases List.mem_cons.1 h with rfl | h
    · obtain ⟨u, d, hd, hmatch, -⟩ := searchFrom?_first hsearch
      exact ⟨u, d, hd, hmatch⟩
    · obtain ⟨u, d, hd, hmatch⟩ := ih h
      exact ⟨_, d, (Cursor.Reaches.next hnext).trans hd, hmatch⟩

/-- A search finds nothing that starts before its place. -/
theorem searchFrom?_le_start {m : Match} (h : p.searchFrom? c = some m) : c.offset ≤ m.start := by
  obtain ⟨u₁, d, hd, hmatch, -⟩ := searchFrom?_first h
  rw [(reaches_of_matchAt? hmatch).1, hd.offset]
  exact Nat.le_add_right _ _

/-- A search finds nothing that starts behind a place where the pattern fits. -/
theorem searchFrom?_start_le {m : Match} (h : p.searchFrom? c = some m) (hrest : c.rest = u ++ w ++ r)
    (hfits : Fits p (lastOf c.before u) w r) : m.start ≤ c.offset + u.length := by
  obtain ⟨u₁, d, hd, hmatch, hfirst⟩ := searchFrom?_first h
  rw [(reaches_of_matchAt? hmatch).1, hd.offset]
  exact Nat.add_le_add_left (hfirst u w r hrest hfits) c.offset

/-- A cursor that has passed no more than the start of a piece still has the rest of it before it. -/
theorem Cursor.Reaches.exists_behind {v x : Text} (h : c.Reaches v d) (hrest : c.rest = u ++ x)
    (hlength : v.length ≤ u.length) : ∃ u', u = v ++ u' ∧ d.rest = u' ++ x := by
  obtain ⟨u', rfl⟩ := List.prefix_of_prefix_length_le ⟨_, h.rest.symm⟩ ⟨_, hrest.symm⟩ hlength
  have hboth := h.rest.symm.trans hrest
  rw [List.append_assoc, List.append_cancel_left_eq] at hboth
  exact ⟨u', rfl, hboth⟩

/-- A place where the pattern fits is the start of a match of the scan, or lies inside one. -/
theorem allFrom_covers (hrest : c.rest = u ++ w ++ r) (hfits : Fits p (lastOf c.before u) w r) :
    ∃ m ∈ p.allFrom c, m.start ≤ c.offset + u.length ∧
      (m.start = c.offset + u.length ∨ c.offset + u.length < m.stop.offset) := by
  fun_induction allFrom p c generalizing u with
  | case1 c hnone =>
    have hsome := searchFrom?_isSome_iff.2 ⟨u, w, r, hrest, hfits⟩
    rw [hnone] at hsome
    cases hsome
  | case2 c m hsearch hshorter ih =>
    have hstart := searchFrom?_start_le hsearch hrest hfits
    by_cases hinside : c.offset + u.length < m.stop.offset
    · exact ⟨m, List.mem_cons_self, hstart, .inr hinside⟩
    · -- The place lies behind the match, so the rest of the scan comes to it.
      obtain ⟨u₁, d, hd, hmatch, -⟩ := searchFrom?_first hsearch
      obtain ⟨-, w₁, hw, -⟩ := reaches_of_matchAt? hmatch
      have hstop := hd.trans hw
      have hlength : (u₁ ++ w₁).length ≤ u.length := by
        have := hstop.offset
        omega
      rw [List.append_assoc] at hrest
      obtain ⟨u₂, rfl, hbehind⟩ := hstop.exists_behind hrest hlength
      rw [← List.append_assoc] at hbehind
      rw [lastOf_append, ← hstop.before] at hfits
      obtain ⟨m', hm', hcovers⟩ := ih hbehind hfits
      refine ⟨m', List.mem_cons_of_mem m hm', ?_⟩
      rwa [List.length_append, ← Nat.add_assoc, ← hstop.offset]
  | case3 c m hsearch hlong hend =>
    have hle := searchFrom?_start_le hsearch hrest hfits
    have hle' := searchFrom?_le_start hsearch
    have hempty : u = [] := by
      cases u with
      | nil => rfl
      | cons x u =>
        obtain ⟨e, hnext, -⟩ := Cursor.exists_next? hrest
        rw [hnext] at hend
        cases hend
    subst hempty
    exact ⟨m, List.mem_singleton_self m, hle, .inl (Nat.le_antisymm hle hle')⟩
  | case4 c m hsearch hlong x e hnext ih =>
    have hle := searchFrom?_start_le hsearch hrest hfits
    have hle' := searchFrom?_le_start hsearch
    have hreach := Cursor.Reaches.next hnext
    cases u with
    | nil => exact ⟨m, List.mem_cons_self, hle, .inl (Nat.le_antisymm hle hle')⟩
    | cons y u =>
      rw [hreach.rest] at hrest
      obtain ⟨rfl, htail⟩ := List.cons.inj hrest
      obtain ⟨m', hm', hcovers⟩ := ih htail (by rw [hreach.before]; exact hfits)
      refine ⟨m', List.mem_cons_of_mem m hm', ?_⟩
      rw [hreach.offset, List.length_singleton] at hcovers
      rwa [List.length_cons, Nat.add_comm u.length 1, ← Nat.add_assoc]

/-! ## Common pieces -/

/-- A class fits one of its characters. -/
theorem fits_one_iff {q : Char → Bool} : Fits (one q) before w behind ↔ ∃ x, w = [x] ∧ q x = true := by
  constructor
  · intro h
    cases h with
    | one _ _ accepted => exact ⟨_, rfl, accepted⟩
  · rintro ⟨x, rfl, hx⟩
    exact .one _ _ hx

/-- A test fits nothing, where it holds. -/
theorem fits_look_iff {test : Option Char → Text → Bool} :
    Fits (look test) before w behind ↔ w = [] ∧ test before behind = true := by
  constructor
  · intro h
    cases h with
    | look holds => exact ⟨rfl, holds⟩
  · rintro ⟨rfl, h⟩
    exact .look h

/-- Two patterns in a row fit a piece of the one and then a piece of the other. -/
theorem fits_both_iff :
    Fits (both a b) before w behind ↔
      ∃ v v', w = v ++ v' ∧ Fits a before v (v' ++ behind) ∧ Fits b (lastOf before v) v' behind := by
  constructor
  · intro h
    cases h with
    | both first second => exact ⟨_, _, rfl, first, second⟩
  · rintro ⟨v, v', rfl, hfirst, hsecond⟩
    exact .both hfirst hsecond

/-- A pattern that starts with a character does not fit the empty piece. -/
theorem not_fits_nil_of_char {x : Char} (before : Option Char) (behind : Text) :
    ¬Fits (both (char x) b) before [] behind := by
  intro h
  obtain ⟨v, v', hnil, hfirst, -⟩ := fits_both_iff.1 h
  obtain ⟨y, rfl, -⟩ := fits_one_iff.1 hfirst
  cases hnil

/-- A pattern fits as often as it may what it fits once. -/
theorem fits_many_one_iff {greedy : Bool} {q : Char → Bool} :
    Fits (many greedy (one q)) before w behind ↔ ∀ x ∈ w, q x = true := by
  constructor
  · intro h
    generalize hp : many greedy (one q) = p at h
    induction h with
    | stop => simp
    | more fits _ _ _ ih =>
      cases hp
      obtain ⟨y, rfl, hy⟩ := fits_one_iff.1 fits
      intro x hx
      rcases List.mem_cons.1 hx with rfl | hx
      · exact hy
      · exact ih rfl x hx
    | nothing => cases hp
    | one => cases hp
    | look => cases hp
    | both => cases hp
    | left => cases hp
    | right => cases hp
    | capture => cases hp
  · intro h
    induction w generalizing before with
    | nil => exact .stop _ _
    | cons x w ih =>
      have hrest : Fits (many greedy (one q)) (some x) w behind :=
        ih fun y hy => h y (List.mem_cons_of_mem x hy)
      exact .more (v := [x]) (.one _ _ (h x List.mem_cons_self)) (List.cons_ne_nil x []) hrest

/-- A class that is repeated fits some of its characters. -/
theorem fits_plus_one_iff {q : Char → Bool} :
    Fits (plus (one q)) before w behind ↔ w ≠ [] ∧ ∀ x ∈ w, q x = true := by
  rw [plus, fits_both_iff]
  constructor
  · rintro ⟨v, v', rfl, hfirst, hrest⟩
    obtain ⟨x, rfl, hx⟩ := fits_one_iff.1 hfirst
    refine ⟨List.cons_ne_nil x v', fun y hy => ?_⟩
    rcases List.mem_cons.1 hy with rfl | hy
    · exact hx
    · exact fits_many_one_iff.1 hrest y hy
  · rintro ⟨hne, hw⟩
    obtain ⟨x, w, rfl⟩ := List.exists_cons_of_ne_nil hne
    exact ⟨[x], w, rfl, fits_one_iff.2 ⟨x, rfl, hw x List.mem_cons_self⟩,
      fits_many_one_iff.2 fun y hy => hw y (List.mem_cons_of_mem x hy)⟩

/-- A row of characters fits itself. -/
theorem fits_chars_iff {x : Text} :
    Fits (inOrder (x.map char)) before w behind ↔ w = x := by
  induction x generalizing before w with
  | nil =>
    constructor
    · intro h
      cases h
      rfl
    · rintro rfl
      exact .nothing _ _
  | cons y x ih =>
    cases x with
    | nil =>
      rw [List.map_cons, List.map_nil, inOrder, char, fits_one_iff]
      simp
    | cons z x =>
      have hrow : inOrder ((y :: z :: x).map char) = both (char y) (inOrder ((z :: x).map char)) := rfl
      rw [hrow, fits_both_iff]
      constructor
      · rintro ⟨v, v', rfl, hfirst, hsecond⟩
        rw [char, fits_one_iff] at hfirst
        obtain ⟨y', rfl, hy⟩ := hfirst
        rw [ih.1 hsecond, beq_iff_eq.1 hy]
        rfl
      · rintro rfl
        exact ⟨[y], z :: x, rfl, .one _ _ (beq_self_eq_true y), ih.2 rfl⟩

/-- A literal fits itself. -/
theorem fits_literal_iff {s : String} : Fits (literal s) before w behind ↔ w = s.toList :=
  fits_chars_iff

end UxLint.Pattern
