import UxLint.Markup.Binding
import UxLint.Proofs.Pattern.Fitting
import UxLint.Proofs.Text.Trimming

/-!
# Two readings of a binding

Whether an element binds a flag is asked in two ways: by a search for the flag behind an entry `loading`,
and by collecting the expressions that are bound and looking for the flag in each. The search may skip any
characters between the colon and the flag that are no comma and no brace, while collecting takes the
values one after the other, each up to the next comma or brace. They agree because a value reaches as far
as the search may skip, and an entry inside the value of another is read as part of that value
(`exists_value_around`). `bindsFlag_iff` is the top.
-/

set_option autoImplicit false

namespace UxLint

open Pattern

variable {before : Option Char} {w behind : Text}

/-! ## Whole identifiers -/

/-- Whether a character goes on with an identifier. -/
def goesOn (c : Option Char) : Bool := c.any Text.isIdentifier

/-- No name goes on behind blanks. -/
theorem goesOn_lastOf_blanks {s : Text} (hbefore : goesOn before = false)
    (hs : ∀ x ∈ s, Text.isBlank x = true) : goesOn (lastOf before s) = false := by
  induction s generalizing before with
  | nil => exact hbefore
  | cons x s ih =>
    have hx : goesOn (some x) = false := Text.not_identifier_of_blank (hs x List.mem_cons_self)
    exact ih hx fun y hy => hs y (List.mem_cons_of_mem x hy)

/-- The last character of some text does not depend on what stands in front. -/
theorem lastOf_of_ne_nil {s : Text} (hs : s ≠ []) (before : Option Char) :
    lastOf before s = lastOf none s := by
  cases s with
  | nil => exact absurd rfl hs
  | cons x s => rfl

/-- The pattern of a name fits this name where it neither goes on to the left nor to the right. -/
theorem fits_identifierPattern_iff {name : String} :
    Fits (identifierPattern name) before w behind ↔
      w = name.toList ∧ goesOn before = false ∧ goesOn behind.head? = false := by
  have hrow : identifierPattern name =
      both identifierStart (both (literal name) identifierEnd) := rfl
  rw [hrow, fits_both_iff]
  constructor
  · rintro ⟨v, v', rfl, hstart, hrest⟩
    obtain ⟨rfl, hbefore⟩ := fits_look_iff.1 hstart
    obtain ⟨s, s', rfl, hname, hend⟩ := fits_both_iff.1 hrest
    obtain ⟨rfl, hbehind⟩ := fits_look_iff.1 hend
    rw [fits_literal_iff.1 hname]
    refine ⟨by simp, ?_, ?_⟩
    · simpa [goesOn] using hbefore
    · simpa [goesOn] using hbehind
  · rintro ⟨rfl, hbefore, hbehind⟩
    refine ⟨[], name.toList, rfl, fits_look_iff.2 ⟨rfl, ?_⟩, fits_both_iff.2
      ⟨name.toList, [], by simp, fits_literal_iff.2 rfl, fits_look_iff.2 ⟨rfl, ?_⟩⟩⟩
    · simpa [goesOn] using hbefore
    · simpa [goesOn] using hbehind

/-- An expression refers to a name exactly if the name stands in it with no identifier going on at
either side. -/
theorem refersTo_iff {expression name : String} :
    refersTo expression name = true ↔
      name ≠ "" ∧ ∃ s r, expression.toList = s ++ name.toList ++ r ∧
        goesOn (lastOf none s) = false ∧ goesOn r.head? = false := by
  unfold refersTo
  rw [Bool.and_eq_true, Bool.and_eq_true, bne_iff_ne, bne_iff_ne, occurs_iff]
  constructor
  · rintro ⟨⟨-, hname⟩, s, v, r, htext, hfits⟩
    obtain ⟨rfl, hbefore, hbehind⟩ := fits_identifierPattern_iff.1 hfits
    exact ⟨hname, s, r, htext, hbefore, hbehind⟩
  · rintro ⟨hname, s, r, htext, hbefore, hbehind⟩
    refine ⟨⟨?_, hname⟩, s, name.toList, r, htext,
      fits_identifierPattern_iff.2 ⟨rfl, hbefore, hbehind⟩⟩
    rintro rfl
    have hnil : name.toList = [] := by
      have := htext.symm
      simp only [String.toList_empty, List.append_eq_nil_iff] at this
      exact this.1.2
    exact hname (String.toList_eq_nil_iff.1 hnil)

/-! ## Entries -/

/-- Whether a character can stand in the value of an entry. -/
def inValue (c : Char) : Bool := !",\x7d".toList.contains c

/-- A class of characters that has neither the comma nor the closing brace stays in values. -/
theorem inValue_of_class {q : Char → Bool} (hcomma : q ',' = false) (hbrace : q '\x7d' = false)
    {c : Char} (h : q c = true) : inValue c = true := by
  cases hin : inValue c with
  | true => rfl
  | false =>
    have hmem : c ∈ [',', '\x7d'] := by
      unfold inValue at hin
      rw [Bool.not_eq_false'] at hin
      exact List.contains_iff_mem.1 hin
    simp only [List.mem_cons, List.not_mem_nil, or_false] at hmem
    rcases hmem with rfl | rfl
    · rw [hcomma] at h
      cases h
    · rw [hbrace] at h
      cases h

/-- A character of a name may stand in a value. -/
theorem inValue_of_identifier {c : Char} : Text.isIdentifier c = true → inValue c = true :=
  inValue_of_class (by decide) (by decide)

/-- A blank may stand in a value. -/
theorem inValue_of_blank {c : Char} : Text.isBlank c = true → inValue c = true :=
  inValue_of_class (by decide) (by decide)

/-- The entry `loading` up to its colon and the blanks behind it. -/
def IsEntry (w : Text) : Prop :=
  ∃ s s', (∀ x ∈ s, Text.isBlank x = true) ∧ (∀ x ∈ s', Text.isBlank x = true) ∧
    w = "loading".toList ++ s ++ ':' :: s'

/-- The pattern of loading entries fits an entry in front of which no word goes on. -/
theorem fits_loadingEntry_iff :
    Fits loadingEntry before w behind ↔ before.any Text.isWord = false ∧ IsEntry w := by
  have hrow : loadingEntry =
      both wordEdge (both (literal "loading") (both blanks (both (char ':') blanks))) := rfl
  -- An entry starts with a word character, so there is an edge before it if none is to its left.
  have hedge_iff : ∀ x : Text, ((before.any Text.isWord !=
      ("loading".toList ++ x).head?.any Text.isWord) = true) ↔ before.any Text.isWord = false := by
    intro x
    have hword : ("loading".toList ++ x).head?.any Text.isWord = true := by
      change Text.isWord 'l' = true
      decide
    rw [hword]
    cases before.any Text.isWord <;> decide
  rw [hrow, fits_both_iff]
  constructor
  · rintro ⟨v, v', rfl, hedge, hrest⟩
    obtain ⟨rfl, hbefore⟩ := fits_look_iff.1 hedge
    obtain ⟨l, v, rfl, hliteral, hrest⟩ := fits_both_iff.1 hrest
    obtain ⟨s, v, rfl, hs, hrest⟩ := fits_both_iff.1 hrest
    obtain ⟨c, s', rfl, hcolon, hs'⟩ := fits_both_iff.1 hrest
    obtain ⟨x, rfl, hx⟩ := fits_one_iff.1 hcolon
    rw [fits_literal_iff.1 hliteral] at hbefore ⊢
    rw [beq_iff_eq.1 hx]
    refine ⟨?_, s, s', fits_many_one_iff.1 hs, fits_many_one_iff.1 hs', ?_⟩
    · rw [List.append_assoc] at hbefore
      exact (hedge_iff _).1 hbefore
    · simp only [List.nil_append, List.singleton_append, List.append_assoc]
  · rintro ⟨hbefore, s, s', hs, hs', rfl⟩
    have hcolon : Fits (both (char ':') blanks) (lastOf (lastOf before "loading".toList) s)
        (':' :: s') behind :=
      fits_both_iff.2 ⟨[':'], s', rfl, fits_one_iff.2 ⟨':', rfl, by decide⟩, fits_many_one_iff.2 hs'⟩
    have hbehind : Fits (both blanks (both (char ':') blanks)) (lastOf before "loading".toList)
        (s ++ ':' :: s') behind :=
      fits_both_iff.2 ⟨s, ':' :: s', rfl, fits_many_one_iff.2 hs, hcolon⟩
    have hname : Fits (both (literal "loading") (both blanks (both (char ':') blanks))) before
        ("loading".toList ++ (s ++ ':' :: s')) behind :=
      fits_both_iff.2 ⟨"loading".toList, s ++ ':' :: s', rfl, fits_literal_iff.2 rfl, hbehind⟩
    rw [List.append_assoc]
    refine ⟨[], "loading".toList ++ (s ++ ':' :: s'), rfl, fits_look_iff.2 ⟨rfl, ?_⟩, hname⟩
    rw [List.append_assoc]
    exact (hedge_iff _).2 hbefore

namespace IsEntry

/-- An entry starts with its only letter of that kind. -/
theorem head (h : IsEntry w) : ∃ t, w = 'l' :: t ∧ 'l' ∉ t := by
  obtain ⟨s, s', hs, hs', rfl⟩ := h
  have hblank : Text.isBlank 'l' = false := by decide
  have hnot : ∀ {v : Text}, (∀ x ∈ v, Text.isBlank x = true) → 'l' ∉ v := by
    intro v hv hmem
    rw [hv _ hmem] at hblank
    cases hblank
  refine ⟨"oading".toList ++ s ++ ':' :: s', rfl, ?_⟩
  simp [hnot hs, hnot hs']

/-- The characters of an entry may stand in a value. -/
theorem inValue (h : IsEntry w) : ∀ x ∈ w, UxLint.inValue x = true := by
  obtain ⟨s, s', hs, hs', rfl⟩ := h
  intro x hx
  simp only [List.mem_append, List.mem_cons] at hx
  rcases hx with (hx | hx) | rfl | hx
  · exact List.all_eq_true.1 (by decide : "loading".toList.all UxLint.inValue = true) x hx
  · exact inValue_of_blank (hs x hx)
  · decide
  · exact inValue_of_blank (hs' x hx)

/-- No identifier goes on behind an entry, nor behind blanks that follow it. -/
theorem not_goesOn (h : IsEntry w) {s : Text} (hs : ∀ x ∈ s, Text.isBlank x = true) :
    goesOn (lastOf before (w ++ s)) = false := by
  obtain ⟨e, e', -, he', rfl⟩ := h
  rw [lastOf_append, lastOf_append]
  have hcolon : goesOn (some ':') = false := by decide
  have hvalue : goesOn (lastOf (some ':') e') = false := goesOn_lastOf_blanks hcolon he'
  exact goesOn_lastOf_blanks hvalue hs

/-- An entry is not empty. -/
theorem ne_nil (h : IsEntry w) : w ≠ [] := by
  obtain ⟨t, rfl, -⟩ := h.head
  exact List.cons_ne_nil 'l' t

/-- An entry ends before the next one starts. -/
theorem prefix_of_entry {k e r r' : Text} (h : IsEntry w) (he : IsEntry e) (hk : k ≠ [])
    (heq : w ++ r' = k ++ e ++ r) : ∃ k', k = w ++ k' := by
  rw [List.append_assoc] at heq
  rcases List.append_eq_append_iff.1 heq with ⟨x, hx, -⟩ | ⟨x, hx, htail⟩
  · exact ⟨x, hx⟩
  · cases x with
    | nil => exact ⟨[], by rw [hx, List.append_nil, List.append_nil]⟩
    | cons c x =>
      obtain ⟨t, ht, hnot⟩ := h.head
      obtain ⟨t', ht', -⟩ := he.head
      obtain ⟨d, k, rfl⟩ := List.exists_cons_of_ne_nil hk
      rw [ht'] at htail
      obtain ⟨rfl, -⟩ := List.cons.inj htail
      rw [ht] at hx
      obtain ⟨-, rfl⟩ := List.cons.inj hx
      exact absurd (by simp) hnot

/-- Behind the colon of an entry there are only blanks. -/
theorem blank_of_append_colon {s x : Text} (h : IsEntry (s ++ ':' :: x)) :
    ∀ c ∈ x, Text.isBlank c = true := by
  obtain ⟨b, b', hb, hb', heq⟩ := h
  have hcolon : Text.isBlank ':' = false := by decide
  have hnot : ∀ {v : Text}, (∀ c ∈ v, Text.isBlank c = true) → ':' ∉ v := by
    intro v hv hmem
    rw [hv _ hmem] at hcolon
    cases hcolon
  rcases List.append_eq_append_iff.1 heq with ⟨a, hhead, htail⟩ | ⟨a, -, htail⟩
  · cases a with
    | nil =>
      obtain ⟨-, rfl⟩ := List.cons.inj htail
      exact hb'
    | cons c a =>
      obtain ⟨rfl, -⟩ := List.cons.inj htail
      have hin : ':' ∈ "loading".toList ++ b := by rw [hhead]; simp
      rcases List.mem_append.1 hin with hin | hin
      · exact absurd hin (by decide)
      · exact absurd hin (hnot hb)
  · cases a with
    | nil =>
      obtain ⟨-, rfl⟩ := List.cons.inj htail
      exact hb'
    | cons c a =>
      obtain ⟨-, rfl⟩ := List.cons.inj htail
      exact absurd (by simp) (hnot hb')

/-- Of two entries at one place, neither goes on over an identifier behind the other. -/
theorem prefix_of_append {e s f r r' : Text} (h : IsEntry w) (he : IsEntry e) (hf : f ≠ [])
    (hflag : ∀ x ∈ f, Text.isIdentifier x = true) (heq : w ++ r' = e ++ s ++ f ++ r) :
    ∃ x, e ++ s = w ++ x := by
  rw [List.append_assoc] at heq
  rcases List.append_eq_append_iff.1 heq with ⟨x, hx, -⟩ | ⟨x, hx, htail⟩
  · exact ⟨x, hx⟩
  · cases x with
    | nil => exact ⟨[], by rw [hx, List.append_nil, List.append_nil]⟩
    | cons c x =>
      obtain ⟨d, f, rfl⟩ := List.exists_cons_of_ne_nil hf
      obtain ⟨rfl, -⟩ := List.cons.inj htail
      obtain ⟨b, b', -, -, rfl⟩ := he
      rw [hx] at h
      have hcolon : "loading".toList ++ b ++ ':' :: b' ++ s ++ d :: x =
          "loading".toList ++ b ++ ':' :: (b' ++ s ++ d :: x) := by
        simp only [List.append_assoc, List.cons_append]
      rw [hcolon] at h
      have hd := Text.not_identifier_of_blank (h.blank_of_append_colon d (by simp))
      rw [hflag d List.mem_cons_self] at hd
      cases hd

end IsEntry

/-- The pattern of entries with values fits an entry and some text of a value. -/
theorem fits_loadingEntryValue_iff :
    Fits loadingEntryValue before w behind ↔
      ∃ e g, w = e ++ g ∧ before.any Text.isWord = false ∧ IsEntry e ∧ g ≠ [] ∧
        ∀ x ∈ g, inValue x = true := by
  have hrow : loadingEntryValue = both loadingEntry (capture 1 (plus (one inValue))) := rfl
  rw [hrow, fits_both_iff]
  constructor
  · rintro ⟨e, g, rfl, hentry, hvalue⟩
    cases hvalue with
    | capture fits =>
      obtain ⟨hbefore, he⟩ := fits_loadingEntry_iff.1 hentry
      obtain ⟨hne, hg⟩ := fits_plus_one_iff.1 fits
      exact ⟨e, g, rfl, hbefore, he, hne, hg⟩
  · rintro ⟨e, g, rfl, hbefore, he, hne, hg⟩
    exact ⟨e, g, rfl, fits_loadingEntry_iff.2 ⟨hbefore, he⟩, .capture (fits_plus_one_iff.2 ⟨hne, hg⟩)⟩

/-- The pattern of entries with a flag fits an entry, some text of a value and the flag as a name of its own. -/
theorem fits_loadingEntryWith_iff {flag : String} :
    Fits (loadingEntryWith flag) before w behind ↔
      ∃ e s, w = e ++ s ++ flag.toList ∧ before.any Text.isWord = false ∧ IsEntry e ∧
        (∀ x ∈ s, inValue x = true) ∧ goesOn (lastOf before (e ++ s)) = false ∧
        goesOn behind.head? = false := by
  have hrow : loadingEntryWith flag =
      both loadingEntry (both (star (one inValue)) (identifierPattern flag)) := rfl
  rw [hrow, fits_both_iff]
  constructor
  · rintro ⟨e, v, rfl, hentry, hrest⟩
    obtain ⟨s, v, rfl, hs, hflag⟩ := fits_both_iff.1 hrest
    obtain ⟨rfl, hstart, hend⟩ := fits_identifierPattern_iff.1 hflag
    obtain ⟨hbefore, he⟩ := fits_loadingEntry_iff.1 hentry
    rw [← lastOf_append] at hstart
    exact ⟨e, s, by simp, hbefore, he, fits_many_one_iff.1 hs, hstart, hend⟩
  · rintro ⟨e, s, rfl, hbefore, he, hs, hstart, hend⟩
    rw [lastOf_append] at hstart
    exact ⟨e, s ++ flag.toList, by simp, fits_loadingEntry_iff.2 ⟨hbefore, he⟩,
      fits_both_iff.2 ⟨s, flag.toList, rfl, fits_many_one_iff.2 hs,
        fits_identifierPattern_iff.2 ⟨rfl, hstart, hend⟩⟩⟩

/-! ## Values -/

namespace Pattern

variable {q : Char → Bool}

/-- A greedy repetition goes on as long as it can if whatever follows accepts. -/
theorem run_star_one {α : Type} (accept : Cursor → Option α)
    (haccept : ∀ d, (accept d).isSome = true) (c : Cursor) :
    ∃ s d, c.Reaches s d ∧ (∀ x ∈ s, q x = true) ∧ (∀ x ∈ d.rest.head?, q x = false) ∧
      (star (one q)).run c accept = accept d := by
  generalize hrest : c.rest = r
  induction r generalizing c with
  | nil =>
    refine ⟨[], c, .refl c, by simp, by simp [hrest], ?_⟩
    have hnone : c.next? = none := by
      unfold Cursor.next?
      split
      · rfl
      · next hr => rw [hrest] at hr; cases hr
    rw [star, run_greedy, run, hnone]
  | cons x r ih =>
    obtain ⟨d, hnext, hd⟩ := Cursor.exists_next? hrest
    have hreach := Cursor.Reaches.next hnext
    by_cases hx : q x = true
    · obtain ⟨s, e, he, hs, hmax, hrun⟩ := ih d hd
      refine ⟨x :: s, e, hreach.trans he, ?_, hmax, ?_⟩
      · intro y hy
        rcases List.mem_cons.1 hy with rfl | hy
        · exact hx
        · exact hs y hy
      · obtain ⟨a, ha⟩ := Option.isSome_iff_exists.1 (haccept e)
        rw [star] at hrun ⊢
        rw [run_greedy, run, hnext]
        dsimp only
        rw [if_pos hx, if_pos (hreach.left_lt (List.cons_ne_nil x [])), hrun, ha]
    · refine ⟨[], c, .refl c, by simp, by simpa [hrest] using hx, ?_⟩
      rw [star, run_greedy, run, hnext]
      dsimp only
      rw [if_neg hx]

/-- A remembered greedy piece is as long as it can be. -/
theorem run_capture_plus {number : Nat} {c d : Cursor}
    (h : (capture number (plus (one q))).run c some = some d) :
    ∃ g, g ≠ [] ∧ c.Reaches g d ∧ (∀ x ∈ g, q x = true) ∧ (∀ x ∈ d.rest.head?, q x = false) ∧
      d.captures.head? = some ⟨number, c.offset, g.length, c.rest⟩ := by
  rw [run, plus, run, run] at h
  split at h
  · cases h
  · next x e hnext =>
    split at h
    · next hx =>
      obtain ⟨s, f, hf, hs, hmax, hrun⟩ := run_star_one (q := q)
        (fun d => some (d.remember ⟨number, c.offset, d.offset - c.offset, c.rest⟩))
        (fun _ => rfl) e
      rw [hrun] at h
      cases h
      have hreach := (Cursor.Reaches.next hnext).trans hf
      refine ⟨x :: s, List.cons_ne_nil x s, ⟨hreach.rest, hreach.before, hreach.offset⟩, ?_, hmax, ?_⟩
      · intro y hy
        rcases List.mem_cons.1 hy with rfl | hy
        · exact hx
        · exact hs y hy
      · have hlength : f.offset - c.offset = (x :: s).length := by
          have := hreach.offset
          rw [List.singleton_append] at this
          omega
        rw [← hlength]
        rfl
    · cases h

end Pattern

/-- The value of an entry in a text, between the entry and the comma, brace or end behind the value. -/
structure ValueAt (t : Text) (m : Match) (u e g r : Text) : Prop where
  text : t = u ++ e ++ g ++ r
  edge : (lastOf none u).any Text.isWord = false
  entry : IsEntry e
  value : ∀ x ∈ g, inValue x = true
  whole : ∀ x ∈ r.head?, inValue x = false
  group : m.group 1 = g
  start : m.start = u.length
  stop : m.stop.offset = (u ++ e ++ g).length

/-- Every match of the collecting scan is an entry with its whole value. -/
theorem exists_valueAt {t : Text} {m : Match} (h : m ∈ loadingEntryValue.all t) :
    ∃ u e g r, ValueAt t m u e g r := by
  obtain ⟨u, c, hc, hmatch⟩ := exists_matchAt?_of_mem_allFrom h
  obtain ⟨d, hrun, rfl⟩ := Option.map_eq_some_iff.1 hmatch
  have hrow : loadingEntryValue = both loadingEntry (capture 1 (plus (one inValue))) := rfl
  rw [hrow, run] at hrun
  obtain ⟨f, hreads, hrun⟩ := exists_reads loadingEntry _ _ d hrun
  obtain ⟨e, he, hfits⟩ := hreads.exists_fits
  obtain ⟨g, -, hg, hvalue, hwhole, hcaptures⟩ := run_capture_plus hrun
  obtain ⟨hedge, hentry⟩ := fits_loadingEntry_iff.1 hfits
  have hrest : c.rest = e ++ f.rest := he.rest
  have hstop : d.offset = c.offset + e.length + g.length := by
    rw [hg.offset, he.offset]
  have hoffset : c.offset = u.length := by
    rw [hc.offset]
    exact Nat.zero_add _
  have htext : t = u ++ c.rest := hc.rest
  refine ⟨u, e, g, d.rest, ?_, ?_, hentry, hvalue, hwhole, ?_, hoffset, ?_⟩
  · rw [htext, hrest, hg.rest]
    simp only [List.append_assoc]
  · rw [← show c.before = lastOf none u from hc.before]
    exact hedge
  · obtain ⟨k, captures, hk⟩ : ∃ k captures, d.captures = k :: captures := by
      cases hcs : d.captures with
      | nil => rw [hcs] at hcaptures; cases hcaptures
      | cons k captures => exact ⟨k, captures, rfl⟩
    rw [hk] at hcaptures
    cases hcaptures
    unfold Match.group Match.capture?
    dsimp only
    rw [hk]
    change f.rest.take g.length = g
    rw [hg.rest, List.take_left]
  · simp only [List.length_append]
    omega

/-- What starts in a value and has no comma or brace in it lies in the value. -/
theorem ValueAt.exists_eq {t : Text} {m : Match} {u e g r s x y : Text} (h : ValueAt t m u e g r)
    (ht : t = u ++ e ++ s ++ x ++ y) (hs : ∀ c ∈ s, inValue c = true) (hx : ∀ c ∈ x, inValue c = true) :
    ∃ z, g = s ++ x ++ z ∧ y = z ++ r := by
  have hboth : g ++ r = s ++ x ++ y := by
    have := h.text.symm.trans ht
    simpa only [List.append_assoc, List.append_cancel_left_eq] using this
  rcases List.append_eq_append_iff.1 hboth with ⟨z, hz, hr⟩ | ⟨z, hg, hy⟩
  · -- The value cannot end before the piece does, because a comma or a brace would be in the piece.
    cases z with
    | nil => exact ⟨[], by simpa using hz.symm, by simpa using hr.symm⟩
    | cons c z =>
      have hin : inValue c = true := by
        have hmem : c ∈ s ++ x := by rw [hz]; simp
        rcases List.mem_append.1 hmem with hmem | hmem
        · exact hs c hmem
        · exact hx c hmem
      have hout := h.whole c (by rw [hr]; rfl)
      rw [hin] at hout
      cases hout
  · exact ⟨z, hg, hy⟩

/-! ## The two readings -/

variable {t : Text} {flag : String}

/-- A flag in the value of an entry is found behind that entry. -/
theorem occurs_of_value {m : Match} (hm : m ∈ loadingEntryValue.all t)
    (h : refersTo (String.ofList (Text.trim (m.group 1))) flag = true) :
    (loadingEntryWith flag).occurs t = true := by
  obtain ⟨u, e, g, r, hvalue⟩ := exists_valueAt hm
  rw [hvalue.group] at h
  obtain ⟨-, x, y, htrim, hx, hy⟩ := refersTo_iff.1 h
  rw [String.toList_ofList] at htrim
  obtain ⟨b, b', hg, hb, hb'⟩ := Text.exists_blanks_trim g
  rw [htrim] at hg
  refine occurs_iff.2 ⟨u, e ++ (b ++ x) ++ flag.toList, y ++ b' ++ r, ?_,
    fits_loadingEntryWith_iff.2 ⟨e, b ++ x, rfl, hvalue.edge, hvalue.entry, ?_, ?_, ?_⟩⟩
  · rw [hvalue.text, hg]
    simp only [List.append_assoc]
  · intro c hc
    refine hvalue.value c ?_
    rw [hg]
    simp only [List.mem_append] at hc ⊢
    rcases hc with hc | hc
    · exact .inl (.inl hc)
    · exact .inl (.inr (.inl (.inl hc)))
  · by_cases hempty : x = []
    · rw [hempty, List.append_nil]
      exact hvalue.entry.not_goesOn hb
    · rw [← List.append_assoc, lastOf_append, lastOf_of_ne_nil hempty]
      exact hx
  · cases y with
    | cons c y => exact hy
    | nil =>
      cases b' with
      | cons c b' => exact Text.not_identifier_of_blank (hb' c List.mem_cons_self)
      | nil =>
        cases r with
        | nil => rfl
        | cons c r =>
          have hout := hvalue.whole c rfl
          cases hc : Text.isIdentifier c with
          | false => exact hc
          | true =>
            rw [inValue_of_identifier hc] at hout
            cases hout

/-- From a value's entry to the flag of an entry that starts at or inside that value, there is neither a
comma nor a brace. -/
theorem ValueAt.reaches {m : Match} {u e g r k e' s f r' : Text} (h : ValueAt t m u e g r)
    (htext : e ++ (g ++ r) = k ++ (e' ++ s ++ f ++ r')) (hk : k = [] ∨ k.length < (e ++ g).length)
    (he : IsEntry e') (hs : ∀ x ∈ s, inValue x = true) (hne : f ≠ [])
    (hflag : ∀ x ∈ f, Text.isIdentifier x = true) :
    ∃ x, k ++ e' ++ s = e ++ x ∧ ∀ c ∈ x, inValue c = true := by
  cases k with
  | nil =>
    obtain ⟨x, hx⟩ := h.entry.prefix_of_append he hne hflag htext
    refine ⟨x, hx, fun c hc => ?_⟩
    have hmem : c ∈ e' ++ s := by rw [hx]; exact List.mem_append_right e hc
    exact (List.mem_append.1 hmem).elim (he.inValue c) (hs c)
  | cons c k =>
    have hentries : e ++ (g ++ r) = c :: k ++ e' ++ (s ++ f ++ r') := by
      simpa only [List.append_assoc] using htext
    obtain ⟨k', hk'⟩ := h.entry.prefix_of_entry he (List.cons_ne_nil c k) hentries
    rw [hk'] at htext hk
    have hshort := hk.resolve_left (List.append_ne_nil_of_left_ne_nil h.entry.ne_nil k')
    rw [List.length_append, List.length_append, Nat.add_lt_add_iff_left] at hshort
    rw [List.append_assoc, List.append_cancel_left_eq] at htext
    have hvalue : k' <+: g :=
      List.prefix_of_prefix_length_le ⟨_, htext.symm⟩ ⟨r, rfl⟩ (Nat.le_of_lt hshort)
    refine ⟨k' ++ e' ++ s, by rw [hk']; simp only [List.append_assoc], fun c hc => ?_⟩
    simp only [List.mem_append] at hc
    rcases hc with (hc | hc) | hc
    · exact h.value c (hvalue.subset hc)
    · exact he.inValue c hc
    · exact hs c hc

/-- A flag behind an entry lies in the value of some entry that the collecting scan finds: of this one,
or of an earlier one whose value holds this one. -/
theorem exists_value_around {u e s f r : Text} (ht : t = u ++ e ++ s ++ f ++ r)
    (hedge : (lastOf none u).any Text.isWord = false) (he : IsEntry e)
    (hs : ∀ x ∈ s, inValue x = true) (hne : f ≠ [])
    (hflag : ∀ x ∈ f, Text.isIdentifier x = true) :
    ∃ m ∈ loadingEntryValue.all t, ∃ x z z', m.group 1 = x ++ f ++ z ∧ r = z ++ z' ∧
      x <:+ u ++ e ++ s := by
  have hf : ∀ x ∈ f, inValue x = true := fun x hx => inValue_of_identifier (hflag x hx)
  have hrest : (Cursor.start t).rest = u ++ (e ++ (s ++ f)) ++ r := by
    change t = _
    rw [ht]
    simp only [List.append_assoc]
  have hfits : Fits loadingEntryValue (lastOf none u) (e ++ (s ++ f)) r := by
    refine fits_loadingEntryValue_iff.2 ⟨e, s ++ f, rfl, hedge, he, ?_, ?_⟩
    · exact fun hnil => hne (List.append_eq_nil_iff.1 hnil).2
    · intro x hx
      exact (List.mem_append.1 hx).elim (hs x) (hf x)
  obtain ⟨m, hm, hstart, hcovers⟩ := allFrom_covers hrest hfits
  obtain ⟨u', e', g, r', hvalue⟩ := exists_valueAt hm
  have hzero : (Cursor.start t).offset = 0 := rfl
  rw [hzero, Nat.zero_add, hvalue.start] at hstart hcovers
  have htext : u' ++ (e' ++ (g ++ r')) = u ++ (e ++ s ++ f ++ r) := by
    have := hvalue.text.symm.trans ht
    simpa only [List.append_assoc] using this
  obtain ⟨k, rfl⟩ := List.prefix_of_prefix_length_le ⟨_, rfl⟩ ⟨_, htext.symm⟩ hstart
  rw [List.append_assoc u' k, List.append_cancel_left_eq] at htext
  have hk : k = [] ∨ k.length < (e' ++ g).length := by
    rw [hvalue.stop] at hcovers
    rw [← List.length_eq_zero_iff]
    simp only [List.length_append] at hcovers ⊢
    omega
  obtain ⟨x, hx, hin⟩ := hvalue.reaches htext hk he hs hne hflag
  have hbefore : u' ++ k ++ e ++ s = u' ++ e' ++ x := by
    rw [List.append_assoc u', List.append_assoc u', List.append_assoc u', hx]
  rw [hbefore] at ht ⊢
  obtain ⟨z, hz, hr⟩ := hvalue.exists_eq ht hin hf
  exact ⟨m, hm, x, z, r', by rw [hvalue.group, hz], hr, ⟨u' ++ e', rfl⟩⟩

/-- If a name does not go on behind a text, it does not behind the end of it. -/
theorem goesOn_of_suffix {s x : Text} (hs : s <:+ x) (hx : goesOn (lastOf none x) = false) :
    goesOn (lastOf none s) = false := by
  by_cases hempty : s = []
  · rw [hempty]
    rfl
  · obtain ⟨k, rfl⟩ := hs
    rwa [lastOf_append, lastOf_of_ne_nil hempty] at hx

/-- If a name does not go on in a text, it does not in the start of it. -/
theorem goesOn_of_prefix {s x : Text} (hs : s <+: x) (hx : goesOn x.head? = false) :
    goesOn s.head? = false := by
  cases s with
  | nil => rfl
  | cons c s =>
    obtain ⟨k, rfl⟩ := hs
    exact hx

/-- A flag that is found behind an entry stands in one of the values that are collected. -/
theorem exists_value_of_occurs (hne : flag ≠ "")
    (hflag : ∀ c ∈ flag.toList, Text.isIdentifier c = true)
    (h : (loadingEntryWith flag).occurs t = true) :
    ∃ m ∈ loadingEntryValue.all t,
      refersTo (String.ofList (Text.trim (m.group 1))) flag = true := by
  obtain ⟨u, w, r, ht, hfits⟩ := occurs_iff.1 h
  obtain ⟨e, s, rfl, hedge, he, hs, hstart, hend⟩ := fits_loadingEntryWith_iff.1 hfits
  have hnil : flag.toList ≠ [] := fun hnil => hne (String.toList_eq_nil_iff.1 hnil)
  have hblank : ∀ c ∈ flag.toList, Text.isBlank c = false := by
    intro c hc
    cases hb : Text.isBlank c with
    | false => rfl
    | true =>
      have hout := Text.not_identifier_of_blank hb
      rw [hflag c hc] at hout
      cases hout
  have htext : t = u ++ e ++ s ++ flag.toList ++ r := by rw [ht]; simp only [List.append_assoc]
  obtain ⟨m, hm, x, z, z', hgroup, hr, hx⟩ := exists_value_around htext hedge he hs hnil hflag
  obtain ⟨x', y', htrim, hx', hy'⟩ := Text.exists_trim_around hnil hblank x z
  refine ⟨m, hm, refersTo_iff.2 ⟨hne, x', y', ?_, ?_, ?_⟩⟩
  · rw [String.toList_ofList, hgroup, htrim]
  · refine goesOn_of_suffix (hx'.trans hx) ?_
    rwa [List.append_assoc, lastOf_append]
  · exact goesOn_of_prefix (hy'.trans ⟨z', hr.symm⟩) hend

/-- A flag that is found behind an entry stands in the whole text. -/
theorem refersTo_of_occurs {expression : String} (hne : flag ≠ "")
    (h : (loadingEntryWith flag).occurs expression.toList = true) :
    refersTo expression flag = true := by
  obtain ⟨u, w, r, ht, hfits⟩ := occurs_iff.1 h
  obtain ⟨e, s, rfl, -, -, -, hstart, hend⟩ := fits_loadingEntryWith_iff.1 hfits
  refine refersTo_iff.2 ⟨hne, u ++ (e ++ s), r, ?_, ?_, hend⟩
  · rw [ht]
    simp only [List.append_assoc]
  · rwa [lastOf_append]

namespace Element

variable {a : Attribute} {e : Element} {names : List String} {v : String}

/-- An attribute binds every flag that one of its expressions refers to. -/
theorem attributeBinds_of_mem (hv : v ∈ attributeValues a names) (h : refersTo v flag = true) :
    attributeBinds a flag names = true := by
  unfold attributeValues at hv
  unfold attributeBinds
  cases hvalue : a.value with
  | none =>
    rw [hvalue] at hv
    cases hv
  | some x =>
    rw [hvalue] at hv
    dsimp only at hv
    split at hv
    · cases hv
    · next hdynamic =>
      simp only [Bool.or_eq_true, Bool.not_eq_true', beq_iff_eq, not_or, Bool.not_eq_false]
        at hdynamic
      rw [hdynamic.1, Bool.true_and, Bool.or_eq_true]
      split at hv
      · next hname =>
        rw [List.mem_singleton] at hv
        subst hv
        exact .inl (by rw [hname, Bool.true_and]; exact h)
      · obtain ⟨m, hm, rfl⟩ := List.mem_map.1 hv
        refine .inr ?_
        rw [Option.any_some, Bool.and_eq_true, bne_iff_ne]
        exact ⟨hdynamic.2, occurs_of_value hm h⟩

/-- An attribute that binds an identifier has an expression that refers to it. -/
theorem exists_mem_of_attributeBinds (hne : flag ≠ "")
    (hflag : ∀ c ∈ flag.toList, Text.isIdentifier c = true)
    (h : attributeBinds a flag names = true) :
    ∃ v ∈ attributeValues a names, refersTo v flag = true := by
  unfold attributeBinds at h
  unfold attributeValues
  rw [Bool.and_eq_true, Bool.or_eq_true] at h
  obtain ⟨hdynamic, h⟩ := h
  cases hvalue : a.value with
  | none =>
    rw [hvalue] at h
    simp [refersToOf] at h
  | some v =>
    rw [hvalue] at h
    simp only [refersToOf, Option.any_some, Bool.and_eq_true, bne_iff_ne] at h
    have hv : v ≠ "" := by
      rcases h with ⟨-, h⟩ | ⟨h, -⟩
      · rw [refersTo, Bool.and_eq_true, Bool.and_eq_true, bne_iff_ne] at h
        exact h.1.1
      · exact h
    dsimp only
    rw [if_neg (by simp [hdynamic, hv])]
    split
    · refine ⟨v, List.mem_singleton_self v, ?_⟩
      rcases h with ⟨-, h⟩ | ⟨-, h⟩
      · exact h
      · exact refersTo_of_occurs hne h
    · next hname =>
      rcases h with ⟨h, -⟩ | ⟨-, h⟩
      · exact absurd h hname
      · obtain ⟨m, hm, hrefers⟩ := exists_value_of_occurs hne hflag h
        exact ⟨_, List.mem_map_of_mem hm, hrefers⟩

/-- An element binds every flag that one of its bound expressions refers to. -/
theorem bindsFlag_of_mem (hv : v ∈ e.boundValues names) (h : refersTo v flag = true) :
    e.bindsFlag flag names = true := by
  obtain ⟨a, ha, hv⟩ := List.mem_flatMap.1 hv
  exact List.any_eq_true.2 ⟨a, ha, attributeBinds_of_mem hv h⟩

/-- An element binds an identifier exactly if one of its bound expressions refers to it. -/
theorem bindsFlag_iff (hne : flag ≠ "")
    (hflag : ∀ c ∈ flag.toList, Text.isIdentifier c = true) :
    e.bindsFlag flag names = true ↔ ∃ v ∈ e.boundValues names, refersTo v flag = true := by
  constructor
  · intro h
    obtain ⟨a, ha, h⟩ := List.any_eq_true.1 h
    obtain ⟨v, hv, hrefers⟩ := exists_mem_of_attributeBinds hne hflag h
    exact ⟨v, List.mem_flatMap.2 ⟨a, ha, hv⟩, hrefers⟩
  · rintro ⟨v, hv, h⟩
    exact bindsFlag_of_mem hv h

end Element

end UxLint
