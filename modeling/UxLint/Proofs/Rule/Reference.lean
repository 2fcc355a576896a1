import UxLint.Proofs.Pattern.Likeness
import UxLint.Rule.Handler

/-!
# What a callback expression refers to

The patterns of a callback expression read it as it stands, its literals and comments included. None of
them reads a quote, so none leaves a literal it starts in: the call of a name ends at an opening
parenthesis, and a delay at the end of the whole text. An expression without comments whose literals hold no
opening parenthesis is therefore read by its code alone (`reference?_eq_of_strip_eq`). A literal that does
hold one, or a comment, can pose as a call (`reference?_of_hidden_call`).
-/

set_option autoImplicit false

namespace UxLint.Handler

open Pattern Source

/-- Whether a character starts no arguments. -/
def opensNoCall (c : Char) : Bool := c != '('

variable {hidden : Char → Bool}

/-! ## The patterns of an expression -/

/-- Dotted names hold no quotation mark. -/
theorem avoidsQuotes_dotted : dotted.AvoidsQuotes hidden :=
  .both (.one (by decide)) (.star (.one (by decide)))

/-- Plain references hold no quotation mark. -/
theorem avoidsQuotes_plainReference : plainReference.AvoidsQuotes hidden :=
  .both .textStart (.both avoidsQuotes_dotted .textEnd)

/-- The pattern of calls reads no quotation mark. -/
theorem avoidsQuotes_callPattern : callPattern.AvoidsQuotes hidden :=
  .both (.capture avoidsQuotes_dotted) (.both .blanks (.char (by decide)))

/-- The pattern of limiters reads no quotation mark. -/
theorem avoidsQuotes_limiterPattern : limiterPattern.AvoidsQuotes hidden :=
  .both .wordEdge (.both (.either (.literal (by decide)) (.literal (by decide)))
    (.both .blanks (.char (by decide))))

/-- The pattern of delays reads no quotation mark. -/
theorem avoidsQuotes_delayPattern : delayPattern.AvoidsQuotes hidden :=
  have number : (plus (one Text.isDecimal)).AvoidsQuotes hidden :=
    .both (.one (by decide)) (.star (.one (by decide)))
  .both (.char (by decide)) (.both .blanks (.both (.capture number) (.both .blanks
    (.both (.char (by decide)) (.both .blanks .textEnd)))))

/-- Every call starts arguments, which no literal does. -/
theorem silentInside_callPattern : SilentInside opensNoCall callPattern :=
  silentInside_of_char [capture 1 dotted, blanks] avoidsQuotes_callPattern (by decide)

/-- Inside of literals that open no call there is no limiter. -/
theorem silentInside_limiterPattern : SilentInside opensNoCall limiterPattern :=
  silentInside_of_char [wordEdge, firstOf [literal "debounce", literal "throttle"], blanks]
    avoidsQuotes_limiterPattern (by decide)

/-- A delay reaches the end of the text, and so every literal is closed before it. -/
theorem silentInside_delayPattern : SilentInside hidden delayPattern :=
  silentInside_of_textEnd
    [char ',', blanks, capture 1 (plus (one Text.isDecimal)), blanks, char ')', blanks]
    avoidsQuotes_delayPattern

/-! ## Alike expressions -/

variable {t s : Text}

/-- A text that is a dotted name holds no literal. -/
theorem no_quote_of_plainReference (h : (plainReference.match? t).isSome = true) :
    ∀ c ∈ t, isQuote c = false := by
  obtain ⟨w, r, rfl, hfits⟩ := match?_isSome_iff.1 h
  have hquotes : plainReference.AvoidsQuotes opensNoCall := avoidsQuotes_plainReference
  exact no_quote_of_textEnd [textStart, dotted] hquotes hfits

/-- Texts that look alike are plain references both or not at all. -/
theorem plainReference_alike (h : CodeAlike hidden false t s) :
    (plainReference.match? t).isSome = (plainReference.match? s).isSome :=
  isSome_eq_of_rel (match?_alike avoidsQuotes_plainReference h)

/-- The delays of texts that look alike suffice both or not at all. -/
theorem delaySuffices_alike (h : CodeAlike hidden false t s) :
    delaySuffices t = delaySuffices s := by
  have hsearch := search?_alike avoidsQuotes_delayPattern silentInside_delayPattern h
  unfold delaySuffices
  generalize delayPattern.search? t = m at hsearch ⊢
  generalize delayPattern.search? s = m' at hsearch ⊢
  cases hsearch with
  | some halike =>
    dsimp only
    rw [halike.group]
  | none => rfl

/-- Texts that look alike are limited both or not at all. -/
theorem isLimiting_alike (h : CodeAlike hidden false t s) {m m' : Option Match}
    (hm : Option.Rel (Match.Alike hidden) m m') : isLimiting t m = isLimiting s m' := by
  cases hm with
  | some _ => exact delaySuffices_alike h
  | none => rfl

/-- The same calls are read in alike expressions. -/
theorem calledNames_alike (h : CodeAlike opensNoCall false t s) :
    (callPattern.all t).map (fun m => m.group 1) =
      (callPattern.all s).map fun m => m.group 1 := by
  have hall := all_alike avoidsQuotes_callPattern silentInside_callPattern h
  rw [← List.forall₂_eq_eq_eq, List.forall₂_map_left_iff, List.forall₂_map_right_iff]
  exact hall.imp fun _ _ halike => halike.group 1

/-- The first argument of a limiter is the same dotted name, or none in both. -/
theorem limitedHandler?_alike {m m' : Match} (h : m.Alike hidden m') :
    limitedHandler? m = limitedHandler? m' := by
  have hquoted (x : Text) (hx : ∃ c ∈ x, isQuote c = true) :
      (plainReference.match? (Text.trim x)).isSome = false := by
    obtain ⟨c, hc, hquote⟩ := hx
    refine Bool.eq_false_iff.2 fun hplain => ?_
    have hmem := Text.mem_trim hc (CodeAlike.isBlank_of_isQuote hquote)
    rw [no_quote_of_plainReference hplain c hmem] at hquote
    cases hquote
  unfold limitedHandler?
  dsimp only
  have hcomma : isQuote ',' = false := by decide
  rcases h.stop.rest.firstPiece hcomma with heq | ⟨hleft, hright⟩
  · rw [heq]
  · rw [hquoted _ hleft, hquoted _ hright, if_neg (by decide), if_neg (by decide)]

/-- Alike expressions refer to the same handler. -/
theorem reference?_alike {expression other : String}
    (h : CodeAlike opensNoCall false expression.toList other.toList) :
    reference? expression = reference? other := by
  have htrim := h.trim
  have hlimiter := search?_alike avoidsQuotes_limiterPattern silentInside_limiterPattern htrim
  have hhandler : (limiterPattern.search? (Text.trim expression.toList)).bind limitedHandler? =
      (limiterPattern.search? (Text.trim other.toList)).bind limitedHandler? := by
    generalize limiterPattern.search? (Text.trim expression.toList) = m at hlimiter ⊢
    generalize limiterPattern.search? (Text.trim other.toList) = m' at hlimiter ⊢
    cases hlimiter with
    | some halike => exact limitedHandler?_alike halike
    | none => rfl
  unfold reference?
  dsimp only
  rw [isLimiting_alike htrim hlimiter, plainReference_alike htrim, calledNames_alike htrim, hhandler]
  by_cases hplain : (plainReference.match? (Text.trim other.toList)).isSome = true
  · rw [htrim.symm.eq_of_no_quote (no_quote_of_plainReference hplain)]
  · simp only [if_neg hplain]

/-- What an expression refers to depends on its code only, as long as it holds no comment and its literals
are closed and hold no opening parenthesis. -/
theorem reference?_eq_of_strip_eq {expression other : String}
    (hexpression : quotesOnly opensNoCall expression.toList = true)
    (hother : quotesOnly opensNoCall other.toList = true)
    (h : strip .code expression.toList = strip .code other.toList) :
    reference? expression = reference? other :=
  reference?_alike (alike_of_strip_eq hexpression hother h)

/-- Which word a literal holds changes nothing about a limited callback. -/
theorem reference?_eq_of_strip_eq_debounced :
    reference? "debounce(() => save('one, 90)'), 800)" =
      reference? "debounce(() => save('throttle'), 800)" :=
  reference?_eq_of_strip_eq (by decide +kernel) (by decide +kernel) (by decide +kernel)

/-- A comment that holds a call is taken for the handler, and a literal that holds the call of a limiter
for a limit. -/
theorem reference?_of_hidden_call :
    strip .code "() => {/*drop()*/log();}".toList =
        strip .code "() => {          log();}".toList ∧
      reference? "() => {/*drop()*/log();}" = .ok (some ⟨"drop", false⟩) ∧
      reference? "() => {          log();}" = .ok (some ⟨"log", false⟩) ∧
      strip .code "() => save('debounce(')".toList =
        strip .code "() => save('         ')".toList ∧
      reference? "() => save('debounce(')" = .ok (some ⟨"save", true⟩) ∧
      reference? "() => save('         ')" = .ok (some ⟨"save", false⟩) := by
  have hcomment : strip .code "() => {/*drop()*/log();}".toList =
      strip .code "() => {          log();}".toList := by
    decide +kernel
  have hliteral : strip .code "() => save('debounce(')".toList =
      strip .code "() => save('         ')".toList := by
    decide +kernel
  refine ⟨hcomment, ?_, ?_, hliteral, ?_, ?_⟩
  all_goals exact eq_ok_of_toOption (by decide +kernel)

end UxLint.Handler
