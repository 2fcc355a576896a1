import UxLint.Proofs.Pattern.Leading
import UxLint.Proofs.Text.Numerals
import UxLint.Proofs.Text.Pieces
import UxLint.Proofs.Text.Trimming
import UxLint.Proofs.Syntax.Inside
import UxLint.Rule.DoubleSubmit

/-!
# Rate limiters in a callback and around a function

A handler can be limited where it is used, by a callback `debounce(save, 800)`, or where it is defined, by
the same call around the function. The callback is read as text and its delay is looked for at the end of
the text, so what counts there is the last argument (`reference?_limited`). The call around a function is
read from the tree, and what counts there is the second argument (`isRateLimited_of_wrapped`). With two
arguments both are the same (`limiters_agree`). Behind an argument more they are not: the last one is no
number then, and any delay before it counts as long enough (`limiters_disagree`).
-/

set_option autoImplicit false

namespace UxLint.Handler

open Pattern Text

open Cursor (between)

variable {before : Option Char} {w r t x h arguments : Text} {limiter : String} {n : Nat}

/-! ## The delay at the end of a text -/

/-- What the last one of several arguments says about a delay. -/
def lastDelaySuffices (arguments : Text) : Except Fault Bool :=
  match decimalNumber? (trim (lastPiece ',' arguments)) with
  | none => .ok true
  | some _ =>
    match wholeNumber (trim (lastPiece ',' arguments)) with
    | .error e => .error (.numeral e)
    | .ok delay => .ok (leastDelay ≤ delay)

/-- A delay that was found: a number between blanks, from its comma to the end of the text. -/
theorem exists_pieces_of_fits (hfits : Fits delayPattern before w r) :
    ∃ b d b' b'', w ++ r = ',' :: (b ++ d ++ b' ++ ')' :: b'') ∧ (decimalNumber? d).isSome = true ∧
      (∀ c ∈ b, isBlank c = true) ∧ (∀ c ∈ b', isBlank c = true) ∧ ∀ c ∈ b'', isBlank c = true := by
  unfold delayPattern at hfits
  obtain ⟨_, v₁, rfl, hcomma, hfits⟩ := fits_both_iff.1 hfits
  obtain ⟨b, v₂, rfl, hb, hfits⟩ := fits_both_iff.1 hfits
  obtain ⟨d, v₃, rfl, hd, hfits⟩ := fits_both_iff.1 hfits
  obtain ⟨b', v₄, rfl, hb', hfits⟩ := fits_both_iff.1 hfits
  obtain ⟨_, v₅, rfl, hclose, hfits⟩ := fits_both_iff.1 hfits
  obtain ⟨b'', v₆, rfl, hb'', hlook⟩ := fits_both_iff.1 hfits
  obtain ⟨_, rfl, hx⟩ := fits_one_iff.1 hcomma
  obtain ⟨_, rfl, hy⟩ := fits_one_iff.1 hclose
  obtain ⟨rfl, hend⟩ := fits_look_iff.1 hlook
  cases hd with
  | capture hd =>
    refine ⟨b, d, b', b'' ++ r, ?_, decimalNumber?_isSome_iff.2 (fits_plus_one_iff.1 hd),
      fits_many_one_iff.1 hb, fits_many_one_iff.1 hb', ?_⟩
    · rw [beq_iff_eq.1 hx, beq_iff_eq.1 hy]
      simp
    · intro c hc
      rcases List.mem_append.1 hc with hc | hc
      · exact fits_many_one_iff.1 hb'' c hc
      · rcases Bool.or_eq_true_iff.1 hend with hr | hr
        · rw [beq_iff_eq.1 hr] at hc
          cases hc
        · rw [beq_iff_eq.1 hr, List.mem_singleton] at hc
          rw [hc]
          decide

/-- No blank is a comma. -/
theorem not_comma_of_blanks {b : Text} (hb : ∀ c ∈ b, isBlank c = true) : ',' ∉ b :=
  fun h => absurd (hb ',' h) (by decide)

/-- A digit is not blank. -/
theorem isBlank_of_decimal {d : Text} (hd : (decimalNumber? d).isSome = true) {c : Char} (hc : c ∈ d) :
    isBlank c = false := by
  have hdecimal := (decimalNumber?_isSome_iff.1 hd).2 c hc
  by_contra hblank
  rw [not_decimal_of_blank (by simpa using hblank)] at hdecimal
  cases hdecimal

/-- No comma follows the one at which a delay starts. -/
theorem exists_of_fits_delayPattern (hfits : Fits delayPattern before w r) :
    ∃ b d b' b'', w ++ r = ',' :: (b ++ d ++ b' ++ ')' :: b'') ∧ ',' ∉ b ++ d ++ b' ++ ')' :: b'' ∧
      trim (b ++ d ++ b') = d ∧ (decimalNumber? d).isSome = true ∧ ∀ c ∈ b'', isBlank c = true := by
  obtain ⟨b, d, b', b'', hpiece, hd, hb, hb', hb''⟩ := exists_pieces_of_fits hfits
  have hcomma : ',' ∉ d := by
    intro h
    exact absurd ((decimalNumber?_isSome_iff.1 hd).2 ',' h) (by decide)
  refine ⟨b, d, b', b'', hpiece, ?_, ?_, hd, hb''⟩
  · simp [hcomma, not_comma_of_blanks hb, not_comma_of_blanks hb', not_comma_of_blanks hb'']
  · apply trim_between hb hb'
    · exact fun x hx => isBlank_of_decimal hd (List.mem_of_mem_head? hx)
    · exact fun x hx => isBlank_of_decimal hd (List.mem_of_mem_getLast? hx)

/-- The pattern of a delay at the end is refused in front of a comma. -/
theorem refuses_delayPattern {c : Char} (h : ',' ∈ t) : Refuses delayPattern before (c :: t) := by
  intro w r hw hfits
  obtain ⟨b, d, b', b'', hpiece, hcomma, -⟩ := exists_of_fits_delayPattern hfits
  rw [hpiece] at hw
  obtain ⟨-, rfl⟩ := List.cons.inj hw
  exact hcomma h

/-- Without a number as the last argument, no delay is found. -/
theorem search?_delayPattern_eq_none (hx : ',' ∉ x) (hnone : decimalNumber? (trim x) = none) :
    delayPattern.search? (t ++ ',' :: (x ++ [')'])) = none := by
  rw [search?, Cursor.start_eq]
  apply searchFrom?_eq_none
  intro v w hw w' r hrest hfits
  obtain ⟨b, d, b', b'', hpiece, hcomma, htrim, hd, hb''⟩ := exists_of_fits_delayPattern hfits
  have hlast : x ++ [')'] = b ++ d ++ b' ++ ')' :: b'' := by
    have hpieces := congrArg (lastPiece ',') (hw.trans (by rw [hrest, hpiece]))
    rwa [lastPiece_append_cons t (by simpa using hx), lastPiece_append_cons v hcomma] at hpieces
  rcases List.eq_nil_or_concat b'' with rfl | ⟨b₀, y, rfl⟩
  · rw [(List.append_left_inj _).1 hlast, htrim] at hnone
    rw [hnone] at hd
    cases hd
  · rw [List.concat_eq_append, ← List.cons_append, ← List.append_assoc] at hlast
    have hy : ')' = y := List.singleton_inj.1 (List.append_inj_right' hlast rfl)
    exact absurd (hb'' y (by simp)) (by rw [← hy]; decide)

/-- A number as the last argument is found. -/
theorem search?_delayPattern (t : Text) {b'' : Text} (hsome : (decimalNumber? (trim x)).isSome = true)
    (hb'' : ∀ c ∈ b'', isBlank c = true) :
    ∃ m, delayPattern.search? (t ++ ',' :: (x ++ ')' :: b'')) = some m ∧ m.group 1 = trim x := by
  obtain ⟨b, b', hblanks, hb, hb'⟩ := exists_blanks_trim x
  generalize trim x = d at hblanks hsome
  subst hblanks
  obtain ⟨hne, hdecimal⟩ := decimalNumber?_isSome_iff.1 hsome
  have hleads : Leads delayPattern (between t (',' :: (b ++ (d ++ (b' ++ ')' :: (b'' ++ []))))) [])
      (between (t ++ [','] ++ b ++ d ++ b' ++ [')'] ++ b'') []
        [⟨1, (t ++ [','] ++ b).length, d.length, d ++ (b' ++ ')' :: (b'' ++ []))⟩]) := by
    refine .both (.char ',') (.both (.star_one hb ?_) (.both (.capture (.plus_one hne hdecimal ?_))
      (.both (.star_one hb' ?_) (.both (.char ')') (.both (.star_one hb'' ?_) (.look rfl))))))
    · intro c hc
      obtain ⟨y, d, rfl⟩ := List.exists_cons_of_ne_nil hne
      cases hc
      exact isBlank_of_decimal hsome List.mem_cons_self
    · intro c hc
      cases b' with
      | nil =>
        cases hc
        decide
      | cons y b' =>
        cases hc
        exact not_decimal_of_blank (hb' _ List.mem_cons_self)
    · intro c hc
      cases hc
      decide
    · intro c hc
      cases hc
  have hsearch := search?_of_leads (u := t) (w := ',' :: (b ++ (d ++ (b' ++ ')' :: b'')))) (r := [])
    (fun v y v' _ => refuses_delayPattern (by simp)) (by simpa using hleads)
  rw [List.append_nil] at hsearch
  rw [List.append_assoc, List.append_assoc]
  exact ⟨_, hsearch, group_captured _ 1 _ _⟩

/-- The delay at the end of a text is that of the last argument. -/
theorem delaySuffices_eq (t : Text) (h : ',' ∈ arguments) :
    delaySuffices (t ++ arguments ++ [')']) = lastDelaySuffices arguments := by
  obtain ⟨p, harguments, hlast⟩ := exists_lastPiece h
  generalize lastPiece ',' arguments = x at harguments hlast
  subst harguments
  have htext : t ++ (p ++ ',' :: x) ++ [')'] = t ++ p ++ ',' :: (x ++ [')']) := by simp
  unfold delaySuffices lastDelaySuffices
  rw [htext, lastPiece_append_cons p hlast]
  cases hnumber : decimalNumber? (trim x) with
  | none => rw [search?_delayPattern_eq_none hlast hnumber]
  | some n =>
    have hblanks : ∀ c ∈ ([] : Text), isBlank c = true := nofun
    obtain ⟨m, hm, hgroup⟩ := search?_delayPattern (t ++ p) (by rw [hnumber]; rfl) hblanks
    rw [hm]
    dsimp only
    generalize m.group 1 = d at hgroup ⊢
    subst hgroup
    rfl

/-! ## The callback -/

/-- Whether a character goes on a dotted name. -/
def goesOnDotted (c : Char) : Bool := isIdentifier c || c == '.'

/-- A dotted name, as it is written for a handler. -/
inductive Plain : Text → Prop where
  | mk {c : Char} {w : Text} (head : (c.isAlpha || c == '_' || c == '$') = true)
      (tail : ∀ x ∈ w, goesOnDotted x = true) : Plain (c :: w)

/-- A name that starts with a letter and goes on with letters, digits and dots is plain. -/
theorem Plain.of_all {c : Char} {w : Text} (head : (c.isAlpha || c == '_' || c == '$') = true)
    (h : w.all goesOnDotted = true) : Plain (c :: w) := .mk head (List.all_eq_true.1 h)

/-- A character that may start a name may go on in it. -/
theorem goesOnDotted_of_head {c : Char} (hc : (c.isAlpha || c == '_' || c == '$') = true) :
    goesOnDotted c = true := by
  unfold goesOnDotted isIdentifier isWord Char.isAlphanum
  simp only [Bool.or_eq_true, beq_iff_eq] at hc
  rcases hc with (hc | hc) | hc
  all_goals simp [hc]

/-- All characters of a plain name may go on in it. -/
theorem Plain.goesOn (hplain : Plain h) : ∀ c ∈ h, goesOnDotted c = true := by
  obtain ⟨hhead, htail⟩ := hplain
  intro c hc
  rcases List.mem_cons.1 hc with rfl | hc
  · exact goesOnDotted_of_head hhead
  · exact htail c hc

/-- No character of a plain name is blank. -/
theorem Plain.not_blank (hplain : Plain h) {c : Char} (hc : c ∈ h) : isBlank c = false := by
  by_contra hblank
  have hblank : isBlank c = true := by simpa using hblank
  have hgoes := hplain.goesOn c hc
  unfold goesOnDotted at hgoes
  rw [not_identifier_of_blank hblank, Bool.false_or, beq_iff_eq] at hgoes
  rw [hgoes] at hblank
  exact absurd hblank (by decide)

/-- The pattern of dotted names fits exactly the plain names. -/
theorem fits_dotted_iff : Fits dotted before w r ↔ Plain w := by
  unfold dotted identifierHead
  rw [fits_both_iff]
  constructor
  · rintro ⟨v, v', rfl, hhead, htail⟩
    obtain ⟨c, rfl, hc⟩ := fits_one_iff.1 hhead
    exact .mk hc (fits_many_one_iff.1 htail)
  · rintro ⟨hhead, htail⟩
    exact ⟨[_], _, rfl, .one _ _ hhead, fits_many_one_iff.2 htail⟩

/-- A plain name matches the pattern of references. -/
theorem Plain.match?_isSome (hplain : Plain h) : (plainReference.match? h).isSome = true := by
  apply match?_isSome_iff.2
  refine ⟨h, [], (List.append_nil h).symm, ?_⟩
  unfold plainReference
  have hend : Fits (both dotted textEnd) none h [] :=
    fits_both_iff.2 ⟨h, [], (List.append_nil h).symm, fits_dotted_iff.2 hplain, .look rfl⟩
  exact fits_both_iff.2 ⟨[], h, rfl, .look rfl, hend⟩

/-- Nothing with an opening parenthesis is a dotted name. -/
theorem match?_plainReference_eq_none (hopen : '(' ∈ t) : plainReference.match? t = none := by
  rw [← Option.not_isSome_iff_eq_none, match?_isSome_iff]
  rintro ⟨w, r, rfl, hfits⟩
  unfold plainReference at hfits
  obtain ⟨_, v, rfl, hstart, hfits⟩ := fits_both_iff.1 hfits
  obtain ⟨d, v', rfl, hdotted, hlook⟩ := fits_both_iff.1 hfits
  obtain ⟨rfl, -⟩ := fits_look_iff.1 hstart
  obtain ⟨rfl, hend⟩ := fits_look_iff.1 hlook
  have hrest : '(' ∉ r := by
    rcases Bool.or_eq_true_iff.1 hend with hr | hr
    all_goals
      rw [beq_iff_eq.1 hr]
      decide
  have hmem : '(' ∈ d := by simpa [hrest] using hopen
  exact absurd ((fits_dotted_iff.1 hdotted).goesOn '(' hmem) (by decide)

/-- The pattern of dotted names leads over a plain name up to where it ends. -/
theorem leads_dotted {u : Text} {ks : List Capture} (hplain : Plain w)
    (hr : ∀ x ∈ r.head?, goesOnDotted x = false) :
    Leads dotted (between u (w ++ r) ks) (between (u ++ w) r ks) := by
  cases hplain with
  | @mk c w hhead htail =>
    exact .one_star hhead htail hr

/-- Where no arguments follow, nothing is called. -/
theorem allFrom_callPattern_eq_nil {u : Text} (h : '(' ∉ t) :
    callPattern.allFrom (between u t []) = [] := by
  apply allFrom_end
  rintro v w rfl w' r rfl hfits
  unfold callPattern at hfits
  obtain ⟨_, v₁, rfl, -, hfits⟩ := fits_both_iff.1 hfits
  obtain ⟨_, v₂, rfl, -, hopen⟩ := fits_both_iff.1 hfits
  obtain ⟨c, rfl, hc⟩ := fits_one_iff.1 hopen
  rw [beq_iff_eq.1 hc] at h
  simp at h

/-- The first call of a text that starts with one. -/
theorem all_callPattern (hplain : Plain w) :
    (callPattern.all (w ++ '(' :: r)).map (fun m => m.group 1) =
      w :: (callPattern.allFrom (between (w ++ ['(']) r [])).map fun m => m.group 1 := by
  have hleads : Leads callPattern (between [] (w ++ '(' :: r) [])
      (between (w ++ ['(']) r [⟨1, 0, w.length, w ++ '(' :: r⟩]) :=
    .both (.capture (leads_dotted hplain (by simp; decide)))
      (.both (.stop (refuses_one (by simp; decide))) (.char '('))
  have hall := allFrom_match (u := []) (w := w ++ ['(']) (r := r) (by simp) (by simpa using hleads)
  rw [List.append_assoc, List.singleton_append] at hall
  rw [all, Cursor.start_eq, hall, List.map_cons, group_captured]
  simp

/-- The call of a limiter, as it is written in a callback. -/
def limiterCall (limiter : String) (arguments : Text) : Text :=
  limiter.toList ++ '(' :: (arguments ++ [')'])

/-- The names that are called in a text, from left to right. -/
def calledNames (u t : Text) : List Text :=
  (callPattern.allFrom (between u t [])).map fun m => m.group 1

/-- There are two limiters. -/
theorem limiter_cases (hlimiter : limiter ∈ rateLimiters) :
    limiter = "debounce" ∨ limiter = "throttle" := by
  simpa [rateLimiters] using hlimiter

/-- The name of a limiter is plain. -/
theorem plain_limiter (hlimiter : limiter ∈ rateLimiters) : Plain limiter.toList := by
  rcases limiter_cases hlimiter with rfl | rfl
  all_goals exact .of_all (by decide) (by decide)

/-- A call of a limiter is found at its start. -/
theorem search?_limiterPattern (hlimiter : limiter ∈ rateLimiters) :
    limiterPattern.search? (limiterCall limiter arguments) =
      some ⟨0, between (limiter.toList ++ ['(']) (arguments ++ [')']) [], limiter.toList ++ ['(']⟩ := by
  have hedge : (limiter.toList ++ '(' :: (arguments ++ [')'])).head?.any isWord = true := by
    rcases limiter_cases hlimiter with rfl | rfl
    all_goals rfl
  have hname : Leads (firstOf [literal "debounce", literal "throttle"])
      (between [] (limiter.toList ++ '(' :: (arguments ++ [')'])) [])
      (between limiter.toList ('(' :: (arguments ++ [')'])) []) := by
    rcases limiter_cases hlimiter with rfl | rfl
    · exact .left (.literal "debounce")
    · refine .right ?_ (.literal "throttle")
      intro w r hw hfits
      rw [fits_literal_iff.1 hfits] at hw
      exact absurd (List.cons.inj hw).1 (by decide)
  have hleads : Leads limiterPattern (between [] (limiter.toList ++ '(' :: (arguments ++ [')'])) [])
      (between (limiter.toList ++ ['(']) (arguments ++ [')']) []) := by
    refine .both (.look ?_) (.both hname (.both (.stop (refuses_one (by simp; decide))) (.char '(')))
    rw [Cursor.rest_between, hedge]
    rfl
  have hsearch := search?_of_leads (u := []) (w := limiter.toList ++ ['(']) (r := arguments ++ [')'])
    (by simp) (by simpa using hleads)
  unfold limiterCall
  simpa using hsearch

/-- The first argument of a limiter is the handler. -/
theorem limitedHandler?_eq (hplain : Plain h) (t : Text) (start : Nat) (u text : Text) (ks : List Capture) :
    limitedHandler? ⟨start, between u (h ++ ',' :: t) ks, text⟩ = some (lastName h) := by
  have hcomma : ∀ c ∈ h, (c != ',') = true := by
    intro c hc
    have hgoes := hplain.goesOn c hc
    by_contra hne
    have heq : c = ',' := by simpa using hne
    rw [heq] at hgoes
    exact absurd hgoes (by decide)
  have hfirst : trim (firstPiece ',' (h ++ ',' :: t)) = h := by
    rw [firstPiece, List.takeWhile_append_of_pos hcomma, List.takeWhile_cons_of_neg (by decide),
      List.append_nil]
    apply trim_eq_self
    · exact fun c hc => hplain.not_blank (List.mem_of_mem_head? hc)
    · exact fun c hc => hplain.not_blank (List.mem_of_mem_getLast? hc)
  unfold limitedHandler?
  dsimp only [Cursor.rest_between]
  rw [hfirst, if_pos hplain.match?_isSome]

/-- The call of a limiter is passed on the way to the handler. -/
theorem calledHandler?_limiter (hlimiter : limiter ∈ rateLimiters) (names : List Text) :
    calledHandler? (limiter.toList :: names) = calledHandler? names := by
  rcases limiter_cases hlimiter with rfl | rfl
  all_goals
    rw [calledHandler?]
    rfl

/-- What the call of a limiter for a dotted name refers to. -/
theorem reference?_limiterCall (hlimiter : limiter ∈ rateLimiters) (hplain : Plain h) :
    reference? (String.ofList (limiterCall limiter (h ++ ',' :: t))) = do
      let limited ← lastDelaySuffices (h ++ ',' :: t)
      let called ← calledHandler? (calledNames (limiter.toList ++ ['(']) (h ++ ',' :: t ++ [')']))
      return some ⟨called.getD (lastName h), limited⟩ := by
  have htrim : trim (limiterCall limiter (h ++ ',' :: t)) = limiterCall limiter (h ++ ',' :: t) := by
    have hlimiter := plain_limiter hlimiter
    unfold limiterCall
    generalize limiter.toList = name at hlimiter
    apply trim_eq_self
    · intro c hc
      apply hlimiter.not_blank
      cases hlimiter
      cases hc
      exact List.mem_cons_self
    · intro c hc
      rw [← List.cons_append, ← List.append_assoc, List.getLast?_concat] at hc
      cases hc
      decide
  have hcomma : ',' ∈ h ++ ',' :: t := by simp
  have hdelay := delaySuffices_eq (limiter.toList ++ ['(']) hcomma
  rw [List.append_assoc, List.append_assoc, List.singleton_append] at hdelay
  have hcalled := all_callPattern (r := h ++ ',' :: t ++ [')']) (plain_limiter hlimiter)
  have hnone : plainReference.match? (limiterCall limiter (h ++ ',' :: t)) = none := by
    apply match?_plainReference_eq_none
    simp [limiterCall]
  unfold reference?
  rw [String.toList_ofList]
  dsimp only
  rw [htrim, hnone, search?_limiterPattern hlimiter]
  unfold limiterCall isLimiting
  dsimp only
  rw [hcalled, calledHandler?_limiter hlimiter]
  have hfirst (ks : List Capture) := limitedHandler?_eq hplain (t ++ [')']) 0 (limiter.toList ++ ['('])
    (limiter.toList ++ ['(']) ks
  rw [hdelay, Option.bind_some, List.append_assoc, List.cons_append, hfirst]
  cases lastDelaySuffices (h ++ ',' :: t) with
  | error e => rfl
  | ok limited =>
    change (calledHandler? (calledNames _ _) >>= _) = (calledHandler? (calledNames _ _) >>= _)
    congr 1
    funext called
    cases called with
    | none => rfl
    | some name => rfl

/-- As long as the arguments behind the handler call nothing, the callback refers to the handler. -/
theorem reference?_of_no_call (hlimiter : limiter ∈ rateLimiters) (hplain : Plain h) (ht : '(' ∉ t) :
    reference? (String.ofList (limiterCall limiter (h ++ ',' :: t))) =
      (lastDelaySuffices (h ++ ',' :: t)).map fun limited => some ⟨lastName h, limited⟩ := by
  have hopen : '(' ∉ h ++ ',' :: t ++ [')'] := by
    have hh : '(' ∉ h := fun hmem => absurd (hplain.goesOn '(' hmem) (by decide)
    simp [hh, ht]
  rw [reference?_limiterCall hlimiter hplain, calledNames, allFrom_callPattern_eq_nil hopen]
  cases lastDelaySuffices (h ++ ',' :: t) with
  | error e => rfl
  | ok limited => rfl

/-- With two arguments the delay is the second one. -/
theorem lastDelaySuffices_pair (hn : decimalNumber? t = some n) (hlength : t.length ≤ longestNumeral) :
    lastDelaySuffices (h ++ ',' :: ' ' :: t) = .ok (decide (leastDelay ≤ n)) := by
  obtain ⟨hne, hdecimal⟩ := isDecimal_of_decimalNumber? hn
  have hcomma : ',' ∉ ' ' :: t := by
    rw [List.mem_cons, not_or]
    exact ⟨by decide, fun hmem => absurd (hdecimal ',' hmem) (by decide)⟩
  have hblank : ∀ {c}, c ∈ t → isBlank c = false := isBlank_of_decimal (by rw [hn]; rfl)
  have htrim : trim (' ' :: t) = t := by
    have hspace : ∀ c ∈ [' '], isBlank c = true := List.forall_mem_singleton.2 (by decide)
    have : trim ([' '] ++ t ++ []) = t := trim_between hspace (List.forall_mem_nil _)
      (fun c hc => hblank (List.mem_of_mem_head? hc)) (fun c hc => hblank (List.mem_of_mem_getLast? hc))
    rwa [List.append_nil] at this
  unfold lastDelaySuffices
  rw [lastPiece_append_cons h hcomma, htrim, hn, wholeNumber_of_decimalNumber? hn hlength]

end UxLint.Handler

namespace UxLint.DoubleSubmit

open Handler Text

/-! ## The call around a function -/

variable {digits : Text} {n : Nat}

/-- Digits without separators are joined as they are. -/
theorem joinDigits_of_decimal (hdecimal : ∀ c ∈ digits, isDecimal c = true) (before : Option Char) :
    DecimalNumber.joinDigits before digits = some digits := by
  induction digits generalizing before with
  | nil => rfl
  | cons c t ih =>
    have hc : c ≠ '_' := by
      rintro rfl
      exact absurd (hdecimal '_' List.mem_cons_self) (by decide)
    have hrest := ih (fun d hd => hdecimal d (List.mem_cons_of_mem c hd)) (some c)
    rw [DecimalNumber.joinDigits.eq_3 _ _ _ (by simpa using hc), hrest]
    rfl

/-- A whole number in digits is read as that number. -/
theorem read?_of_decimalNumber? (hn : decimalNumber? digits = some n) :
    DecimalNumber.read? digits = some ⟨n, 0⟩ := by
  have hdecimal := (isDecimal_of_decimalNumber? hn).2
  have htake : digits.takeWhile isDecimal = digits := List.takeWhile_eq_self_iff.2 hdecimal
  have hdrop : digits.dropWhile isDecimal = [] := by
    have := List.takeWhile_append_dropWhile (p := isDecimal) (l := digits)
    rw [htake] at this
    simpa using this
  unfold DecimalNumber.read?
  rw [joinDigits_of_decimal hdecimal]
  simp [htake, hdrop, hn, DecimalNumber.readExponent?]

/-- A whole number rounds to at least the least delay exactly if it is at least that. -/
theorem roundsToAtLeast_whole :
    DecimalNumber.roundsToAtLeast ⟨n, 0⟩ leastDelay = decide (leastDelay ≤ n) := by
  have htwo : DecimalNumber.width n ≤ 2 ↔ n < 10 ^ 2 :=
    Nat.length_toDigits_le_iff (by decide) (by decide)
  have hthree : DecimalNumber.width n ≤ 3 ↔ n < 10 ^ 3 :=
    Nat.length_toDigits_le_iff (by decide) (by decide)
  unfold DecimalNumber.roundsToAtLeast leastDelay
  dsimp only
  rw [Int.zero_add]
  split
  · next hzero =>
    rw [beq_iff_eq.1 hzero]
    rfl
  · split
    · have hlong : ¬DecimalNumber.width n ≤ 3 := by omega
      rw [hthree] at hlong
      exact (decide_eq_true (by omega)).symm
    · split
      · have hshort : DecimalNumber.width n ≤ 2 := by omega
        rw [htwo] at hshort
        exact (decide_eq_false (by omega)).symm
      · have hwidth : DecimalNumber.width n = 3 := by omega
        rw [hwidth]
        simp only [Nat.sub_self, Nat.pow_eq, Nat.pow_zero, Nat.mul_one]
        exact decide_eq_decide.2 (by omega)

/-- A function is the first argument of the call of a limiter, and a number is the second one. -/
structure Wrapped (limiter : String) (delay : Text) (p : Place) (call args number : Node)
    (more rest : List Node) : Prop where
  above : p.above = args :: call :: rest
  args_kind : args.kind = "arguments"
  args_field : call.field? "arguments" = some args
  call_kind : call.kind = "call_expression"
  name : lastSegment call.targetName = limiter
  items : args.items = p.node :: number :: more
  number_kind : number.kind = "number"
  number_text : number.text.toList = delay

variable {limiter : String} {p : Place} {call args number : Node} {more rest : List Node}

/-- A number as an argument suffices if it is at least the least delay. -/
theorem waitSuffices_number (hkind : number.kind = "number") (htext : number.text.toList = digits)
    (hn : decimalNumber? digits = some n) : waitSuffices number = decide (leastDelay ≤ n) := by
  have hunwrap : number.unwrap? = some number := by
    obtain ⟨l, cs⟩ := number
    change l.kind = "number" at hkind
    rw [Node.unwrap?, hkind, if_neg (by decide)]
  unfold waitSuffices
  rw [hunwrap]
  dsimp only
  rw [hkind, if_neg (by decide), if_pos (by decide), numberSuffices, htext, read?_of_decimalNumber? hn]
  exact roundsToAtLeast_whole

/-- What counts around a function is the second argument. -/
theorem isRateLimited_of_wrapped (hlimiter : limiter ∈ rateLimiters)
    (hwrapped : Wrapped limiter digits p call args number more rest)
    (hn : decimalNumber? digits = some n) : isRateLimited p = decide (leastDelay ≤ n) := by
  have hargs : limiterVerdict? args = none := by
    unfold limiterVerdict?
    rw [hwrapped.args_kind]
    rfl
  have hname : (rateLimiters.any fun r => occursIn r (lowercase limiter)) = true := by
    rcases limiter_cases hlimiter with rfl | rfl
    all_goals decide
  have hcall : limiterVerdict? call = some (decide (leastDelay ≤ n)) := by
    unfold limiterVerdict? Node.arguments
    rw [hwrapped.call_kind, if_neg (by decide), hwrapped.name, hname, if_neg (by decide), hwrapped.args_field]
    dsimp only
    rw [hwrapped.items]
    dsimp only
    rw [waitSuffices_number hwrapped.number_kind hwrapped.number_text hn]
  unfold isRateLimited
  rw [hwrapped.above, List.findSome?_cons, hargs, List.findSome?_cons, hcall]
  rfl

/-- A callback that calls a limiter with a delay, and maybe with more arguments behind it, refers to the
handler. Whether it limits the handler is what the last argument says, while a function in the same call is
judged by the delay. Without more arguments the delay is the last one, and the verdicts are the same. -/
theorem limiters_agree {h : Text} (hlimiter : limiter ∈ rateLimiters) (hplain : Plain h)
    (hn : decimalNumber? digits = some n) (hlength : digits.length ≤ longestNumeral)
    (hwrapped : Wrapped limiter digits p call args number more rest) :
    reference? (String.ofList (limiterCall limiter (h ++ ',' :: ' ' :: digits))) =
        .ok (some ⟨lastName h, decide (leastDelay ≤ n)⟩) ∧
      isRateLimited p = decide (leastDelay ≤ n) ∧
      (∀ tail : Text, '(' ∉ tail →
        reference? (String.ofList (limiterCall limiter (h ++ ',' :: ' ' :: (digits ++ tail)))) =
          (lastDelaySuffices (h ++ ',' :: ' ' :: (digits ++ tail))).map
            fun limited => some ⟨lastName h, limited⟩) ∧
      ∀ (tail : Text) (found : Option Reference),
        reference? (String.ofList (limiterCall limiter (h ++ ',' :: ' ' :: (digits ++ tail)))) = .ok found →
          ∃ reference, found = some reference ∧
            lastDelaySuffices (h ++ ',' :: ' ' :: (digits ++ tail)) = .ok reference.rateLimited := by
  have hsilent (tail : Text) (htail : '(' ∉ tail) :
      reference? (String.ofList (limiterCall limiter (h ++ ',' :: ' ' :: (digits ++ tail)))) =
        (lastDelaySuffices (h ++ ',' :: ' ' :: (digits ++ tail))).map
          fun limited => some ⟨lastName h, limited⟩ := by
    have hdigits : '(' ∉ digits := fun hmem =>
      absurd ((isDecimal_of_decimalNumber? hn).2 '(' hmem) (by decide)
    exact reference?_of_no_call hlimiter hplain (by simp [hdigits, htail])
  refine ⟨?_, isRateLimited_of_wrapped hlimiter hwrapped hn, hsilent, ?_⟩
  · have hpair := hsilent [] List.not_mem_nil
    rwa [List.append_nil, lastDelaySuffices_pair hn hlength] at hpair
  · intro tail found hfound
    rw [reference?_limiterCall hlimiter hplain] at hfound
    cases hlimited : lastDelaySuffices (h ++ ',' :: ' ' :: (digits ++ tail)) with
    | error e =>
      rw [hlimited] at hfound
      cases hfound
    | ok limited =>
      rw [hlimited] at hfound
      generalize calledHandler? _ = called at hfound
      cases called with
      | error e => cases hfound
      | ok name =>
        cases hfound
        exact ⟨_, rfl, rfl⟩

open Node (onFirstRow)

/-- The arguments of the call `debounce(() => 0, delay)`, maybe with more behind them. -/
def debounceArguments (delay : String) (more : List Node) : Node :=
  onFirstRow "arguments" "arguments" ("(() => 0, " ++ delay ++ ")") 8
    (onFirstRow "arrow_function" "" "() => 0" 9 [] :: onFirstRow "number" "" delay 18 [] :: more)

def debounceCall (delay : String) (more : List Node) : Node :=
  onFirstRow "call_expression" "" ("debounce(() => 0, " ++ delay ++ ")") 0
    [onFirstRow "identifier" "function" "debounce" 0 [], debounceArguments delay more]

/-- The function in the call. -/
def debouncedPlace (delay : String) (more : List Node) : Place :=
  ⟨onFirstRow "arrow_function" "" "() => 0" 9 [],
    [debounceArguments delay more, debounceCall delay more]⟩

def leadingOption : Node := onFirstRow "object" "" "\x7b leading: true \x7d" 23 []

/-- The function of the example is wrapped by its limiter. -/
theorem wrapped_debouncedPlace (delay : String) {more : List Node}
    (hmore : more = [] ∨ more = [leadingOption]) :
    Wrapped "debounce" delay.toList (debouncedPlace delay more) (debounceCall delay more)
      (debounceArguments delay more) (onFirstRow "number" "" delay 18 []) more [] := by
  have hname : lastSegment (debounceCall delay more).targetName = "debounce" := by
    have htarget : (debounceCall delay more).targetName = "debounce" := by
      rfl
    rw [htarget]
    decide
  rcases hmore with rfl | rfl
  all_goals exact ⟨rfl, rfl, rfl, rfl, hname, rfl, rfl, rfl⟩

/-- A delay that is long enough counts in a callback and around a function, and with one more argument behind
it, it does not count in a callback. -/
theorem limiters_agree_debounced :
    reference? (String.ofList (limiterCall "debounce" "save, 800".toList)) = .ok (some ⟨"save", true⟩) ∧
      isRateLimited (debouncedPlace "800" []) = true ∧
      reference? (String.ofList (limiterCall "debounce" "save, 800, 5".toList)) =
        .ok (some ⟨"save", false⟩) := by
  have hplain : Plain "save".toList := .of_all (by decide) (by decide)
  have h := limiters_agree (by decide) hplain (n := 800) (by decide +kernel) (by decide)
    (wrapped_debouncedPlace "800" (.inl rfl))
  have htail := h.2.2.1 ", 5".toList (by decide)
  have hlast : lastDelaySuffices ("save".toList ++ ',' :: ' ' :: ("800".toList ++ ", 5".toList)) =
      .ok false :=
    eq_ok_of_toOption (by decide +kernel)
  rw [hlast] at htail
  exact ⟨h.1, h.2.1, htail⟩

/-- Behind one more argument a delay that is too short counts in a callback, and not around a function. -/
theorem limiters_disagree :
    reference? (String.ofList (limiterCall "debounce" "save, 100, \x7b leading: true \x7d".toList)) =
        .ok (some ⟨"save", true⟩) ∧
      Wrapped "debounce" "100".toList (debouncedPlace "100" [leadingOption])
        (debounceCall "100" [leadingOption]) (debounceArguments "100" [leadingOption])
        (onFirstRow "number" "" "100" 18 []) [leadingOption] [] ∧
      isRateLimited (debouncedPlace "100" [leadingOption]) = false ∧ ¬leastDelay ≤ 100 := by
  have hwrapped := wrapped_debouncedPlace "100" (.inr rfl)
  have hn : decimalNumber? "100".toList = some 100 := by decide +kernel
  refine ⟨?_, hwrapped, isRateLimited_of_wrapped (by decide) hwrapped hn, by decide⟩
  have hplain : Plain "save".toList := .of_all (by decide) (by decide)
  have hsilent : '(' ∉ " 100, \x7b leading: true \x7d".toList := by decide
  have hlimiter : "debounce" ∈ rateLimiters := by decide
  have h := reference?_of_no_call hlimiter hplain hsilent
  have hlast : lastDelaySuffices ("save".toList ++ ',' :: " 100, \x7b leading: true \x7d".toList) =
      .ok true :=
    eq_ok_of_toOption (by decide +kernel)
  rw [hlast] at h
  exact h

end UxLint.DoubleSubmit
