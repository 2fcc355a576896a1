import UxLint.Proofs.Pattern.Fitting
import UxLint.Proofs.Source.Likeness

/-!
# Patterns on texts that show the same code

A pattern that reads no quote cannot enter or leave a literal. Outside of literals it does the same on two
texts that show the same code (`run_alike`): it reads the same characters and remembers the same pieces. If
it also fits nothing that starts inside a literal, then a search finds alike matches in both texts
(`search?_alike`), and so does a scan for all matches (`all_alike`).
-/

set_option autoImplicit false

namespace UxLint.Pattern

open Source

/-! ## Patterns that read no quote -/

/-- A pattern reads no quote, and its tests come out the same on alike texts. -/
def AvoidsQuotes (hidden : Char → Bool) : Pattern → Prop
  | nothing => True
  | one q => ∀ x, isQuote x = true → q x = false
  | look test => ∀ before t s, CodeAlike hidden false t s → test before t = test before s
  | both a b => a.AvoidsQuotes hidden ∧ b.AvoidsQuotes hidden
  | either a b => a.AvoidsQuotes hidden ∧ b.AvoidsQuotes hidden
  | many _ a => a.AvoidsQuotes hidden
  | capture _ a => a.AvoidsQuotes hidden

/-- A pattern fits nothing that starts inside a literal. -/
def SilentInside (hidden : Char → Bool) (p : Pattern) : Prop :=
  ∀ {t s : Text} {before : Option Char} {w r : Text}, CodeAlike hidden true t s → t = w ++ r →
    ¬ Fits p before w r

variable {hidden : Char → Bool} {p : Pattern}

namespace AvoidsQuotes

/-- A class that holds no quotation mark reads none. -/
theorem one {q : Char → Bool} (h : q '\'' = false ∧ q '"' = false ∧ q '\x60' = false) :
    (Pattern.one q).AvoidsQuotes hidden := by
  intro x hx
  rcases isQuote_cases hx with rfl | rfl | rfl
  · exact h.1
  · exact h.2.1
  · exact h.2.2

/-- A pattern reads no quotation mark if neither of its parts does. -/
theorem both {a b : Pattern} (ha : a.AvoidsQuotes hidden) (hb : b.AvoidsQuotes hidden) :
    (Pattern.both a b).AvoidsQuotes hidden :=
  And.intro ha hb

/-- A choice reads no quotation mark if neither side does. -/
theorem either {a b : Pattern} (ha : a.AvoidsQuotes hidden) (hb : b.AvoidsQuotes hidden) :
    (Pattern.either a b).AvoidsQuotes hidden :=
  And.intro ha hb

/-- A repetition reads no quotation mark if what it repeats does not. -/
theorem star {a : Pattern} (ha : a.AvoidsQuotes hidden) : (Pattern.star a).AvoidsQuotes hidden := ha

/-- A remembered piece has no quotation mark if its pattern reads none. -/
theorem capture {number : Nat} {a : Pattern} (ha : a.AvoidsQuotes hidden) :
    (Pattern.capture number a).AvoidsQuotes hidden := ha

/-- A character that is no quotation mark reads none. -/
theorem char {x : Char} (h : isQuote x = false) : (Pattern.char x).AvoidsQuotes hidden := by
  intro y hy
  refine beq_eq_false_iff_ne.2 ?_
  rintro rfl
  rw [h] at hy
  cases hy

/-- Blanks are no quotation marks. -/
theorem blanks : Pattern.blanks.AvoidsQuotes hidden := .star (.one (by decide))

/-- Patterns in a row read no quotation mark if none of them does. -/
theorem inOrder {ps : List Pattern} (h : ∀ p ∈ ps, p.AvoidsQuotes hidden) :
    (Pattern.inOrder ps).AvoidsQuotes hidden := by
  induction ps with
  | nil => trivial
  | cons p ps ih =>
    obtain ⟨hp, hps⟩ := List.forall_mem_cons.1 h
    cases ps with
    | nil => exact hp
    | cons q ps => exact .both hp (ih hps)

/-- A literal without quotation marks reads none. -/
theorem literal {x : String} (h : x.toList.any isQuote = false) :
    (Pattern.literal x).AvoidsQuotes hidden :=
  .inOrder (List.forall_mem_map.2 fun c hc =>
    .char (Bool.eq_false_iff.2 (List.any_eq_false.1 h c hc)))

/-- The start of a text is where it was, whatever is hidden. -/
theorem textStart : Pattern.textStart.AvoidsQuotes hidden := fun _ _ _ _ => rfl

/-- Hidden characters and the blanks in their places are at no edge of a word. -/
theorem wordEdge : Pattern.wordEdge.AvoidsQuotes hidden := by
  intro before t s h
  dsimp only
  rw [h.head?_eq]

/-- The end of a text is where it was, whatever is hidden. -/
theorem textEnd : Pattern.textEnd.AvoidsQuotes hidden := by
  have hend {t s : Text} (h : CodeAlike hidden false t s)
      (ht : (t == [] || t == ['\n']) = true) : t = s := by
    refine h.eq_of_no_quote ?_
    rw [Bool.or_eq_true, beq_iff_eq, beq_iff_eq] at ht
    rcases ht with rfl | rfl
    · simp
    · exact List.forall_mem_singleton.2 rfl
  intro before t s h
  refine Bool.eq_iff_iff.2 ⟨fun ht => ?_, fun hs => ?_⟩
  · rwa [← hend h ht]
  · rwa [← hend h.symm hs]

end AvoidsQuotes

/-- What such a pattern fits holds no quotation mark. -/
theorem AvoidsQuotes.no_quote (hp : p.AvoidsQuotes hidden) {before : Option Char} {w r : Text}
    (h : Fits p before w r) : ∀ c ∈ w, isQuote c = false := by
  induction h with
  | nothing => simp
  | @one q x before behind accepted =>
    intro c hc
    obtain rfl := List.mem_singleton.1 hc
    refine Bool.eq_false_iff.2 fun hquote => ?_
    rw [hp c hquote] at accepted
    cases accepted
  | look => simp
  | both _ _ ih ih' => exact List.forall_mem_append.2 ⟨ih hp.1, ih' hp.2⟩
  | left _ ih => exact ih hp.1
  | right _ ih => exact ih hp.2
  | stop => simp
  | more _ _ _ ih ih' => exact List.forall_mem_append.2 ⟨ih hp, ih' hp⟩
  | capture _ ih => exact ih hp

/-- The last of several patterns in a row fits the end of the piece. -/
theorem fits_inOrder_concat {ps : List Pattern} {before : Option Char} {w r : Text}
    (h : Fits (inOrder (ps ++ [p])) before w r) :
    ∃ v w', w = v ++ w' ∧ Fits p (lastOf before v) w' r := by
  induction ps generalizing before w with
  | nil => exact ⟨[], w, rfl, h⟩
  | cons q ps ih =>
    have hrow : inOrder (q :: ps ++ [p]) = both q (inOrder (ps ++ [p])) := by
      cases ps <;> rfl
    rw [hrow, fits_both_iff] at h
    obtain ⟨v, w', rfl, -, hrest⟩ := h
    obtain ⟨v', w'', rfl, hlast⟩ := ih hrest
    exact ⟨v ++ v', w'', by rw [List.append_assoc], by rwa [lastOf_append]⟩

/-- What reaches the end of the text without a quote leaves none behind. -/
theorem no_quote_of_textEnd (ps : List Pattern) {before : Option Char} {w r : Text}
    (hp : (inOrder (ps ++ [textEnd])).AvoidsQuotes hidden)
    (h : Fits (inOrder (ps ++ [textEnd])) before w r) : ∀ c ∈ w ++ r, isQuote c = false := by
  obtain ⟨v, w', -, hlast⟩ := fits_inOrder_concat h
  obtain ⟨-, hend⟩ := fits_look_iff.1 hlast
  refine List.forall_mem_append.2 ⟨hp.no_quote h, ?_⟩
  rw [Bool.or_eq_true, beq_iff_eq, beq_iff_eq] at hend
  rcases hend with rfl | rfl
  · simp
  · exact List.forall_mem_singleton.2 rfl

/-- A pattern that ends with the text fits nothing inside a literal, as this ends with a mark. -/
theorem silentInside_of_textEnd (ps : List Pattern)
    (hp : (inOrder (ps ++ [textEnd])).AvoidsQuotes hidden) :
    SilentInside hidden (inOrder (ps ++ [textEnd])) := by
  rintro t s before w r halike rfl hfits
  obtain ⟨c, hc, hquote⟩ := halike.exists_quote
  rw [no_quote_of_textEnd ps hp hfits c hc] at hquote
  cases hquote

/-- A pattern that ends in a character that is not hidden fits nothing inside a literal. -/
theorem silentInside_of_char (ps : List Pattern) {x : Char}
    (hp : (inOrder (ps ++ [char x])).AvoidsQuotes hidden) (hx : hidden x = false) :
    SilentInside hidden (inOrder (ps ++ [char x])) := by
  rintro t s before w r halike rfl hfits
  obtain ⟨v, w', hw, hlast⟩ := fits_inOrder_concat hfits
  obtain ⟨y, rfl, hy⟩ := fits_one_iff.1 hlast
  obtain rfl := beq_iff_eq.1 hy
  have hhidden := halike.hidden_of_prefix (List.prefix_append w r) (hp.no_quote hfits) y (by simp [hw])
  rw [hx] at hhidden
  cases hhidden

/-! ## Readings of alike texts -/

/-- Two remembered pieces are one text under one number. -/
structure Capture.Alike (k k' : Capture) : Prop where
  number : k.number = k'.number
  text : k.text = k'.text

/-- Two cursors stand at one place of alike texts, outside of literals, and remember the same. -/
structure Cursor.Alike (hidden : Char → Bool) (c c' : Cursor) : Prop where
  before : c.before = c'.before
  offset : c.offset = c'.offset
  rest : CodeAlike hidden false c.rest c'.rest
  captures : List.Forall₂ Capture.Alike c.captures c'.captures

/-- At the end of a text there is no next character. -/
theorem Cursor.next?_eq_none {c : Cursor} (h : c.rest = []) : c.next? = none := by
  unfold next?
  split
  · rfl
  · next hrest =>
    rw [h] at hrest
    cases hrest

namespace Cursor.Alike

variable {c c' d d' : Cursor} {w : Text}

/-- Places of texts that look alike leave equally many characters. -/
theorem left_eq (h : c.Alike hidden c') : c.left = c'.left := by
  rw [c.left_eq, c'.left_eq, h.rest.length_eq]

/-- To go on by a character remembers nothing. -/
theorem captures_next? {x : Char} (h : c.next? = some (x, d)) : d.captures = c.captures := by
  unfold Cursor.next? at h
  split at h
  · cases h
  · cases h
    rfl

/-- Both cursors are at the end, or the same character follows both, which is a quote or leads to the same
place. -/
theorem next_cases (h : c.Alike hidden c') :
    c.next? = none ∧ c'.next? = none ∨
      ∃ x d d', c.next? = some (x, d) ∧ c'.next? = some (x, d') ∧
        (isQuote x = true ∨ d.Alike hidden d') := by
  have hrest := h.rest
  generalize htext : c.rest = t at hrest
  generalize htext' : c'.rest = t' at hrest
  cases hrest with
  | nil => exact .inl ⟨next?_eq_none htext, next?_eq_none htext'⟩
  | @code x t s plain rest =>
    obtain ⟨d, hnext, hd⟩ := exists_next? htext
    obtain ⟨d', hnext', hd'⟩ := exists_next? htext'
    refine .inr ⟨x, d, d', hnext, hnext', .inr ⟨?_, ?_, hd ▸ hd' ▸ rest, ?_⟩⟩
    · rw [(Reaches.next hnext).before, (Reaches.next hnext').before]
      rfl
    · rw [(Reaches.next hnext).offset, (Reaches.next hnext').offset, h.offset]
    · rw [captures_next? hnext, captures_next? hnext']
      exact h.captures
  | @opening q t s quote rest =>
    obtain ⟨d, hnext, -⟩ := exists_next? htext
    obtain ⟨d', hnext', -⟩ := exists_next? htext'
    exact .inr ⟨q, d, d', hnext, hnext', .inl quote⟩

/-- Places look alike after the same piece was remembered at both. -/
theorem remember (h : d.Alike hidden d') (hd : c.Reaches w d)
    (hd' : c'.Reaches w d') (number : Nat) :
    (d.remember ⟨number, c.offset, d.offset - c.offset, c.rest⟩).Alike hidden
      (d'.remember ⟨number, c'.offset, d'.offset - c'.offset, c'.rest⟩) := by
  refine ⟨h.before, h.offset, h.rest, .cons ⟨rfl, ?_⟩ h.captures⟩
  unfold Capture.text
  dsimp only
  rw [hd.offset, hd'.offset, hd.rest, hd'.rest, Nat.add_sub_cancel_left, Nat.add_sub_cancel_left,
    List.take_left, List.take_left]

end Cursor.Alike

/-- What accepts the end of a reading answers alike for two cursors that read the same piece. -/
def AcceptsAlike {α β : Type} (hidden : Char → Bool) (R : α → β → Prop) (c c' : Cursor)
    (accept : Cursor → Option α) (accept' : Cursor → Option β) : Prop :=
  ∀ w d d', c.Reaches w d → c'.Reaches w d' → d.Alike hidden d' → Option.Rel R (accept d) (accept' d')

/-- What accepts alike from two places on does so from places behind them. -/
theorem AcceptsAlike.behind {α β : Type} {R : α → β → Prop} {c c' d d' : Cursor} {w : Text}
    {accept : Cursor → Option α} {accept' : Cursor → Option β}
    (h : AcceptsAlike hidden R c c' accept accept') (hd : c.Reaches w d) (hd' : c'.Reaches w d') :
    AcceptsAlike hidden R d d' accept accept' :=
  fun v e e' he he' halike => h (w ++ v) e e' (hd.trans he) (hd'.trans he') halike

/-- Where the first choice comes out alike, and so does the second, the two together do. -/
theorem rel_orElse {α β : Type} {R : α → β → Prop} {x y : Option α} {x' y' : Option β} :
    Option.Rel R x x' → Option.Rel R y y' →
      Option.Rel R (match x with | some r => some r | none => y)
        (match x' with | some r => some r | none => y') := by
  intro h h'
  cases h with
  | some hr => exact .some hr
  | none => exact h'

/-- Options that are related are both filled or both empty. -/
theorem isSome_eq_of_rel {α β : Type} {R : α → β → Prop} {x : Option α} {y : Option β}
    (h : Option.Rel R x y) : x.isSome = y.isSome := by
  cases h with
  | some _ => rfl
  | none => rfl

/-- Functions that keep a relation keep it between options. -/
theorem rel_map {α β γ δ : Type} {R : α → β → Prop} {S : γ → δ → Prop} {f : α → γ} {g : β → δ}
    {x : Option α} {x' : Option β} (h : Option.Rel R x x') (hfg : ∀ a b, R a b → S (f a) (g b)) :
    Option.Rel S (x.map f) (x'.map g) := by
  cases h with
  | some hr => exact .some (hfg _ _ hr)
  | none => exact .none

/-- A pattern that reads no quote is run alike from alike cursors. -/
theorem run_alike {α β : Type} {R : α → β → Prop} (p : Pattern) (hp : p.AvoidsQuotes hidden) :
    ∀ (c c' : Cursor) (accept : Cursor → Option α) (accept' : Cursor → Option β),
      c.Alike hidden c' → AcceptsAlike hidden R c c' accept accept' →
        Option.Rel R (p.run c accept) (p.run c' accept') := by
  induction p with
  | nothing =>
    intro c c' accept accept' hc haccept
    rw [run, run]
    exact haccept [] c c' (.refl c) (.refl c') hc
  | one q =>
    intro c c' accept accept' hc haccept
    rw [run, run]
    rcases hc.next_cases with ⟨hnone, hnone'⟩ | ⟨x, d, d', hnext, hnext', hquote | hd⟩
    · rw [hnone, hnone']
      exact .none
    · rw [hnext, hnext']
      dsimp only
      rw [hp x hquote]
      exact .none
    · rw [hnext, hnext']
      dsimp only
      split
      · exact haccept [x] d d' (.next hnext) (.next hnext') hd
      · exact .none
  | look test =>
    intro c c' accept accept' hc haccept
    rw [run, run, hp c.before c.rest c'.rest hc.rest, hc.before]
    split
    · exact haccept [] c c' (.refl c) (.refl c') hc
    · exact .none
  | both a b iha ihb =>
    intro c c' accept accept' hc haccept
    rw [run, run]
    refine iha hp.1 c c' _ _ hc fun w d d' hd hd' halike => ?_
    exact ihb hp.2 d d' _ _ halike (haccept.behind hd hd')
  | either a b iha ihb =>
    intro c c' accept accept' hc haccept
    rw [run, run]
    exact rel_orElse (iha hp.1 c c' accept accept' hc haccept)
      (ihb hp.2 c c' accept accept' hc haccept)
  | many greedy a iha =>
    intro c c' accept accept'
    induction hn : c.left using Nat.strongRecOn generalizing c c' with
    | _ n ih =>
      intro hc haccept
      have hmore : Option.Rel R
          (a.run c fun d => if d.left < c.left then (many greedy a).run d accept else none)
          (a.run c' fun d => if d.left < c'.left then (many greedy a).run d accept' else none) := by
        refine iha hp c c' _ _ hc fun w d d' hd hd' halike => ?_
        rw [← hc.left_eq, ← halike.left_eq]
        split
        · next hshorter =>
          exact ih d.left (hn ▸ hshorter) d d' rfl halike (haccept.behind hd hd')
        · exact .none
      have hstop := haccept [] c c' (.refl c) (.refl c') hc
      cases greedy with
      | true =>
        rw [run_greedy, run_greedy]
        exact rel_orElse hmore hstop
      | false =>
        rw [run_reluctant, run_reluctant]
        exact rel_orElse hstop hmore
  | capture number a iha =>
    intro c c' accept accept' hc haccept
    rw [run, run]
    refine iha hp c c' _ _ hc fun w d d' hd hd' halike => ?_
    exact haccept w _ _ ⟨hd.rest, hd.before, hd.offset⟩ ⟨hd'.rest, hd'.before, hd'.offset⟩
      (halike.remember hd hd' number)

/-! ## Searches in alike texts -/

/-- Two matches start at one place of alike texts, end at one place outside of literals, and remember the
same pieces. -/
structure Match.Alike (hidden : Char → Bool) (m m' : Match) : Prop where
  start : m.start = m'.start
  stop : m.stop.Alike hidden m'.stop

/-- Matches that look alike remember the same text under a number. -/
theorem Match.Alike.group {m m' : Match} (h : m.Alike hidden m') (number : Nat) :
    m.group number = m'.group number := by
  unfold Match.group Match.capture?
  have hcaptures := h.stop.captures
  generalize m.stop.captures = ks at hcaptures ⊢
  generalize m'.stop.captures = ks' at hcaptures ⊢
  induction hcaptures with
  | nil => rfl
  | @cons k k' ks ks' hk _ ih =>
    rw [List.find?_cons, List.find?_cons, hk.number]
    cases k'.number == number with
    | true => exact hk.text
    | false => exact ih

/-- At places of texts that look alike there are matches that look alike. -/
theorem matchAt?_alike (hp : p.AvoidsQuotes hidden) {c c' : Cursor} (hbefore : c.before = c'.before)
    (hoffset : c.offset = c'.offset) (hrest : CodeAlike hidden false c.rest c'.rest) :
    Option.Rel (Match.Alike hidden) (p.matchAt? c) (p.matchAt? c') := by
  unfold matchAt?
  have hstart : Cursor.Alike hidden { c with captures := [] } { c' with captures := [] } :=
    ⟨hbefore, hoffset, hrest, .nil⟩
  have hrun := run_alike (R := Cursor.Alike hidden) p hp _ _ some some hstart
    fun w d d' _ _ halike => .some halike
  exact rel_map hrun fun d d' halike => ⟨hoffset, halike⟩

/-- Inside a literal there is no match. -/
theorem matchAt?_inside (hsilent : SilentInside hidden p) {c : Cursor} {s : Text}
    (h : CodeAlike hidden true c.rest s) : p.matchAt? c = none := by
  refine Option.not_isSome_iff_eq_none.1 fun hsome => ?_
  obtain ⟨w, r, hrest, hfits⟩ := matchAt?_isSome_iff.1 hsome
  exact hsilent h hrest hfits

/-- Two cursors stand at one place of alike texts, inside or outside of a literal. -/
structure Cursor.Beside (hidden : Char → Bool) (literal : Bool) (c c' : Cursor) : Prop where
  before : literal = false → c.before = c'.before
  offset : c.offset = c'.offset
  rest : CodeAlike hidden literal c.rest c'.rest

namespace Cursor.Beside

variable {literal : Bool} {c c' : Cursor}

/-- At places that stand beside each other, inside a literal or not, there are matches that look alike. -/
theorem matchAt?_alike (hp : p.AvoidsQuotes hidden) (hsilent : SilentInside hidden p)
    (h : c.Beside hidden literal c') :
    Option.Rel (Match.Alike hidden) (p.matchAt? c) (p.matchAt? c') := by
  cases literal with
  | false => exact Pattern.matchAt?_alike hp (h.before rfl) h.offset h.rest
  | true =>
    rw [matchAt?_inside hsilent h.rest, matchAt?_inside hsilent h.rest.symm]
    exact .none

/-- Both cursors are at the end, or their next places are beside each other again. -/
theorem next_cases (h : c.Beside hidden literal c') :
    c.next? = none ∧ c'.next? = none ∨
      ∃ x d x' d' inside, c.next? = some (x, d) ∧ c'.next? = some (x', d') ∧
        d.Beside hidden inside d' := by
  have hrest := h.rest
  generalize htext : c.rest = t at hrest
  generalize htext' : c'.rest = t' at hrest
  have hnext (x x' : Char) {s s' : Text} {inside : Bool} (hs : c.rest = x :: s)
      (hs' : c'.rest = x' :: s') (halike : CodeAlike hidden inside s s')
      (hsame : inside = false → x = x') :
      ∃ x d x' d' inside, c.next? = some (x, d) ∧ c'.next? = some (x', d') ∧
        d.Beside hidden inside d' := by
    obtain ⟨d, hd, hdrest⟩ := exists_next? hs
    obtain ⟨d', hd', hdrest'⟩ := exists_next? hs'
    refine ⟨x, d, x', d', inside, hd, hd', fun hinside => ?_, ?_, hdrest ▸ hdrest' ▸ halike⟩
    · rw [(Reaches.next hd).before, (Reaches.next hd').before, hsame hinside]
      rfl
    · rw [(Reaches.next hd).offset, (Reaches.next hd').offset, h.offset]
      rfl
  cases hrest with
  | nil => exact .inl ⟨next?_eq_none htext, next?_eq_none htext'⟩
  | code _ rest => exact .inr (hnext _ _ htext htext' rest fun _ => rfl)
  | opening _ rest => exact .inr (hnext _ _ htext htext' rest fun _ => rfl)
  | inside _ _ rest => exact .inr (hnext _ _ htext htext' rest nofun)
  | closing _ rest => exact .inr (hnext _ _ htext htext' rest fun _ => rfl)

/-- Places that stand beside each other leave equally many characters. -/
theorem left_eq (h : c.Beside hidden literal c') : c.left = c'.left := by
  rw [c.left_eq, c'.left_eq, h.rest.length_eq]

/-- The starts of texts that look alike stand beside each other. -/
theorem start {t s : Text} (h : CodeAlike hidden false t s) :
    (Cursor.start t).Beside hidden false (Cursor.start s) :=
  ⟨fun _ => rfl, rfl, h⟩

end Cursor.Beside

/-- Places of texts that look alike stand beside each other outside of literals. -/
theorem Cursor.Alike.beside {c c' : Cursor} (h : c.Alike hidden c') : c.Beside hidden false c' :=
  ⟨fun _ => h.before, h.offset, h.rest⟩

section Steps

variable {c d : Cursor} {x : Char} {m : Match}

/-- A search fails at the end of the text if there is no match. -/
theorem searchFrom?_of_end (h : p.matchAt? c = none) (hnext : c.next? = none) :
    p.searchFrom? c = none := by
  rw [searchFrom?, h]
  dsimp only
  split
  · rfl
  · next hsome =>
    rw [hnext] at hsome
    cases hsome

/-- A search goes on behind a character if there is no match in front of it. -/
theorem searchFrom?_of_next (h : p.matchAt? c = none) (hnext : c.next? = some (x, d)) :
    p.searchFrom? c = p.searchFrom? d := by
  rw [searchFrom?, h]
  dsimp only
  split
  · next hnone =>
    rw [hnext] at hnone
    cases hnone
  · next hsome =>
    rw [hnext] at hsome
    cases hsome
    rfl

/-- There are no matches if a search finds none. -/
theorem allFrom_of_none (h : p.searchFrom? c = none) : p.allFrom c = [] := by
  rw [allFrom, h]

/-- Behind a match that is not empty the search goes on where it ends. -/
theorem allFrom_of_shorter (h : p.searchFrom? c = some m) (hleft : m.stop.left < c.left) :
    p.allFrom c = m :: p.allFrom m.stop := by
  rw [allFrom, h]
  dsimp only
  rw [dif_pos hleft]

/-- An empty match at the end of the text is the last one. -/
theorem allFrom_of_end (h : p.searchFrom? c = some m) (hleft : ¬ m.stop.left < c.left)
    (hnext : c.next? = none) : p.allFrom c = [m] := by
  rw [allFrom, h]
  dsimp only
  rw [dif_neg hleft]
  split
  · rfl
  · next hsome =>
    rw [hnext] at hsome
    cases hsome

/-- Behind an empty match the search goes on one character further. -/
theorem allFrom_of_next (h : p.searchFrom? c = some m) (hleft : ¬ m.stop.left < c.left)
    (hnext : c.next? = some (x, d)) : p.allFrom c = m :: p.allFrom d := by
  rw [allFrom, h]
  dsimp only
  rw [dif_neg hleft]
  split
  · next hnone =>
    rw [hnext] at hnone
    cases hnone
  · next hsome =>
    rw [hnext] at hsome
    cases hsome
    rfl

end Steps

variable (hp : p.AvoidsQuotes hidden) (hsilent : SilentInside hidden p)

include hp hsilent

/-- Searches in texts that look alike find matches that look alike. -/
theorem searchFrom?_alike {literal : Bool} {c c' : Cursor} (h : c.Beside hidden literal c') :
    Option.Rel (Match.Alike hidden) (p.searchFrom? c) (p.searchFrom? c') := by
  induction hn : c.left using Nat.strongRecOn generalizing literal c c' with
  | _ n ih =>
    subst hn
    have hmatch := h.matchAt?_alike hp hsilent
    generalize hm : p.matchAt? c = m at hmatch
    generalize hm' : p.matchAt? c' = m' at hmatch
    cases hmatch with
    | some halike =>
      rw [searchFrom?_of_match hm, searchFrom?_of_match hm']
      exact .some halike
    | none =>
      rcases h.next_cases with ⟨hnone, hnone'⟩ | ⟨x, d, x', d', inside, hnext, hnext', hd⟩
      · rw [searchFrom?_of_end hm hnone, searchFrom?_of_end hm' hnone']
        exact .none
      · rw [searchFrom?_of_next hm hnext, searchFrom?_of_next hm' hnext']
        exact ih d.left (Cursor.left_next?_lt hnext) hd rfl

/-- All matches in texts that look alike are alike, one by one. -/
theorem allFrom_alike {literal : Bool} {c c' : Cursor} (h : c.Beside hidden literal c') :
    List.Forall₂ (Match.Alike hidden) (p.allFrom c) (p.allFrom c') := by
  induction hn : c.left using Nat.strongRecOn generalizing literal c c' with
  | _ n ih =>
    subst hn
    have hsearch := searchFrom?_alike hp hsilent h
    generalize hm : p.searchFrom? c = m at hsearch
    generalize hm' : p.searchFrom? c' = m' at hsearch
    cases hsearch with
    | none =>
      rw [allFrom_of_none hm, allFrom_of_none hm']
      exact .nil
    | @some m m' halike =>
      by_cases hleft : m.stop.left < c.left
      · have hleft' : m'.stop.left < c'.left := by
          rwa [← halike.stop.left_eq, ← h.left_eq]
        rw [allFrom_of_shorter hm hleft, allFrom_of_shorter hm' hleft']
        exact .cons halike (ih _ hleft halike.stop.beside rfl)
      · have hleft' : ¬ m'.stop.left < c'.left := by
          rwa [← halike.stop.left_eq, ← h.left_eq]
        rcases h.next_cases with ⟨hnone, hnone'⟩ | ⟨x, d, x', d', inside, hnext, hnext', hd⟩
        · rw [allFrom_of_end hm hleft hnone, allFrom_of_end hm' hleft' hnone']
          exact .cons halike .nil
        · rw [allFrom_of_next hm hleft hnext, allFrom_of_next hm' hleft' hnext']
          exact .cons halike (ih _ (Cursor.left_next?_lt hnext) hd rfl)

variable {t s : Text}

/-- A search finds alike matches in alike texts. -/
theorem search?_alike (h : CodeAlike hidden false t s) :
    Option.Rel (Match.Alike hidden) (p.search? t) (p.search? s) :=
  searchFrom?_alike hp hsilent (.start h)

/-- A scan finds alike matches in alike texts. -/
theorem all_alike (h : CodeAlike hidden false t s) :
    List.Forall₂ (Match.Alike hidden) (p.all t) (p.all s) :=
  allFrom_alike hp hsilent (.start h)

omit hsilent in
/-- A match at the start of a text is found in alike texts alike. -/
theorem match?_alike (h : CodeAlike hidden false t s) :
    Option.Rel (Match.Alike hidden) (p.match? t) (p.match? s) :=
  matchAt?_alike hp rfl rfl h

end UxLint.Pattern
