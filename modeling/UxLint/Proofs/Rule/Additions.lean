import UxLint.Proofs.Rule.Excuses
import UxLint.Proofs.Rule.Findings
import Mathlib.Data.List.Forall2

/-!
# Files that add to the markup

One protected button excuses the other buttons with the same handler (`protected_button_excuses`), but buttons that
are not protected themselves excuse nothing: whoever adds them, or takes words away that exempted them, gets rid of no
report (`reports_of_adds`). A file adds to the markup of another (`Adds`) as soon as its elements are among those
of the larger file, both have the same functions, the function reads alike in both and its first handler keeps its
name (`Addition.adds`).
-/

set_option autoImplicit false

namespace UxLint

namespace DoubleSubmit

/-! ## Adding no protection -/

/-- A handler is another one of a larger file: it has the same name, limits its rate alike, and the
elements on which it may be protected are at least the same. -/
structure Kept (a b : NewFile) (h h' : Handler) : Prop where
  name : h'.name = h.name
  rateLimited : h'.rateLimited = h.rateLimited
  targets : ((targets a.unit.elements [h]).map (·.attributes)).Sublist
    ((targets b.unit.elements [h']).map (·.attributes))

/-- A file adds to the markup of another: a function reads alike in both, and the handlers that mean it in
the smaller file mean it in the larger one, perhaps with others that trigger it by the same name. -/
structure Adds (classifier : Classifier) (lookup : Option (Lookup Id)) (a b : NewFile) (f f' : Place) :
    Prop where
  reading : readingOf classifier f' = readingOf classifier f
  declared : ∀ action, declaredFlag? lookup b.unit action = declaredFlag? lookup a.unit action
  kept : ∃ kept, kept.Sublist (b.handlersOf f') ∧ List.Forall₂ (Kept a b) (a.handlersOf f) kept
  first : ∀ first ∈ (b.handlersOf f').head?,
    matchFunction? b.root.functionIndex first.name = some f' ∧
      ∀ old ∈ (a.handlersOf f).head?, first.name = old.name

/-- What a file adds to the markup of another protects nothing: no callback that limits its rate, and
no element that can be disabled or shows a flag. -/
structure AddsNoProtection (classifier : Classifier) (lookup : Option (Lookup Id)) (a b : NewFile)
    (f f' : Place) : Prop where
  callbacks : ∀ h' ∈ b.handlersOf f', h'.rateLimited = true →
    ∃ h ∈ a.handlersOf f, h.rateLimited = true
  elements : ∀ e' ∈ b.targetsOf f', (∃ e ∈ a.targetsOf f, e'.attributes = e.attributes) ∨
    ∀ first ∈ (b.handlersOf f').head?,
      ¬ Protects (readingOf classifier f') (declaredFlag? lookup b.unit) first.name e'

/-- Whether an element can be disabled is read off its attributes. -/
theorem isDisabling_congr {e e' : Element} (h : e'.attributes = e.attributes) (name : String) :
    isDisabling name e' = isDisabling name e := by
  rw [isDisabling, isDisabling, Element.attribute?, Element.attribute?, h]

/-- What an element protects is read off its attributes. -/
theorem Protects.of_attributes {reading : Reading} {declared : String → Option String} {name : String}
    {e e' : Element} (h : e'.attributes = e.attributes) (he : Protects reading declared name e') :
    Protects reading declared name e := by
  cases he with
  | disabling disabled => exact .disabling (isDisabling_congr h name ▸ disabled)
  | flag mem binds =>
    refine .flag mem ?_
    rw [Element.bindsFlag, ← h]
    exact binds
  | declared called declares binds =>
    refine .declared called declares ?_
    rw [Element.bindsFlag, ← h]
    exact binds

variable {classifier : Classifier} {lookup : Option (Lookup Id)} {a b : NewFile} {f f' : Place}

/-- What excuses a function in the larger file excuses it in the smaller one, if no protection was
added. -/
theorem Excused.of_adds (hadds : Adds classifier lookup a b f f')
    (hplain : AddsNoProtection classifier lookup a b f f') {first first' : Handler}
    (hname : first'.name = first.name) (hfirst : (b.handlersOf f').head? = some first')
    (h : Excused (readingOf classifier f') (declaredFlag? lookup b.unit) b.unit.elements
      (b.handlersOf f') first'.name) :
    Excused (readingOf classifier f) (declaredFlag? lookup a.unit) a.unit.elements (a.handlersOf f)
      first.name := by
  cases h with
  | guarded h => exact .guarded (hadds.reading ▸ h)
  | limited h => exact .limited (hadds.reading ▸ h)
  | callback mem limits =>
    obtain ⟨h, hmem, hlimits⟩ := hplain.callbacks _ mem limits
    exact .callback hmem hlimits
  | element mem protects =>
    rcases hplain.elements _ mem with ⟨e, he, hattributes⟩ | hnone
    · have hprotects := protects.of_attributes hattributes
      rw [hadds.reading, funext hadds.declared, hname] at hprotects
      exact .element he hprotects
    · exact absurd protects (hnone first' hfirst)

/-- Whoever adds elements that trigger a handler and are not protected themselves gets rid of no
report. -/
theorem reports_of_adds (hanswers : ∀ l ∈ lookup, l.Answers a.unit ∧ l.Answers b.unit)
    (hadds : Adds classifier lookup a b f f')
    (hplain : AddsNoProtection classifier lookup a b f f')
    (hreports : a.Reports classifier lookup f) : b.Reports classifier lookup f' := by
  obtain ⟨first, rest, hhandlers, -, hsends, hexcused⟩ :=
    (NewFile.reports_iff fun l hl => (hanswers l hl).1).1 hreports
  obtain ⟨first', rest', hhandlers'⟩ : ∃ first' rest', b.handlersOf f' = first' :: rest' := by
    obtain ⟨kept, hsub, hkept⟩ := hadds.kept
    rw [hhandlers] at hkept
    obtain ⟨h', kept', -, -, rfl⟩ := List.forall₂_cons_left_iff.1 hkept
    exact List.exists_cons_of_ne_nil (List.ne_nil_of_mem (hsub.subset List.mem_cons_self))
  have hfirst' : (b.handlersOf f').head? = some first' := by rw [hhandlers']; rfl
  obtain ⟨hmeant', hnamed⟩ := hadds.first first' hfirst'
  have hname : first'.name = first.name := hnamed first (by rw [hhandlers]; rfl)
  refine (NewFile.reports_iff fun l hl => (hanswers l hl).2).2
    ⟨first', rest', hhandlers', hmeant', hadds.reading ▸ hsends, fun h => hexcused ?_⟩
  exact h.of_adds hadds hplain hname hfirst'

/-! ## Elements that are added -/

/-- A lookup among functions that stand elsewhere finds the function that it found before. -/
theorem functionAt?_map (moved : Place → Place) (functions : Functions) (name : String) :
    functionAt? (functions.map fun e => (e.1, e.2.map moved)) name =
      (functionAt? functions name).map moved := by
  unfold functionAt?
  rw [List.find?_map, Option.map_bind, Option.bind_map]
  simp only [Function.comp_def, List.head?_map]

/-- Functions that stand elsewhere have the names that they had. -/
theorem sortedNames_map (moved : Place → Place) (functions : Functions) :
    sortedNames (functions.map fun e => (e.1, e.2.map moved)) = sortedNames functions := by
  rw [sortedNames, sortedNames, List.map_map]
  rfl

/-- A handler means the function that it meant before, where this stands now. -/
theorem matchFunction?_map (moved : Place → Place) (functions : Functions) (name : String) :
    matchFunction? (functions.map fun e => (e.1, e.2.map moved)) name =
      (matchFunction? functions name).map moved := by
  unfold matchFunction?
  rw [sortedNames_map, functionAt?_map]
  cases functionAt? functions name with
  | some p => rfl
  | none =>
    dsimp only [Option.map_none]
    split
    · exact functionAt?_map moved functions _
    · rw [Option.map_bind]
      exact Option.bind_congr fun c _ => functionAt?_map moved functions c

end DoubleSubmit

namespace Handler

/-- The same handler on another element. -/
def moveTo (e : Element) (h : Handler) : Handler := { h with line := e.line, element := e }

/-- Two handlers differ in their elements only, and one element is kept as the other. -/
structure KeptBy (keeps : Element → Element → Prop) (h h' : Handler) : Prop where
  name : h'.name = h.name
  callback : h'.callback = h.callback
  rateLimited : h'.rateLimited = h.rateLimited
  element : keeps h.element h'.element

variable {e e' : Element} {keeps : Element → Element → Prop}

/-- What a callback refers to is read off the name and the attributes of its element. -/
theorem ofAttribute?_moveTo (hname : e'.name = e.name) (hattributes : e'.attributes = e.attributes)
    (name : String) (accepts : String → Bool) :
    ofAttribute? e' name accepts = (ofAttribute? e name accepts).map (Option.map (moveTo e')) := by
  have hattribute : e'.attribute? name = e.attribute? name := by
    rw [Element.attribute?, Element.attribute?, hattributes]
  unfold ofAttribute?
  rw [hattribute, hname]
  cases e.attribute? name with
  | none => rfl
  | some a =>
    dsimp only
    cases a.value with
    | none => rfl
    | some value =>
      dsimp only
      split
      · rfl
      · cases reference? value with
        | error f => rfl
        | ok r => cases r <;> rfl

/-- The handlers of an element are read off its name and its attributes. -/
theorem ofElement_moveTo (hname : e'.name = e.name) (hattributes : e'.attributes = e.attributes) :
    ofElement e' = (ofElement e).map (List.map (moveTo e')) := by
  have hmapM (callbacks : List (String × (String → Bool))) :
      (callbacks.mapM fun c => ofAttribute? e' c.1 c.2) =
        (callbacks.mapM fun c => ofAttribute? e c.1 c.2).map (List.map (Option.map (moveTo e'))) := by
    induction callbacks with
    | nil => rfl
    | cons c rest ih =>
      rw [List.mapM_cons, List.mapM_cons, ih, ofAttribute?_moveTo hname hattributes]
      cases ofAttribute? e c.1 c.2 with
      | error f => rfl
      | ok found => cases rest.mapM fun c => ofAttribute? e c.1 c.2 <;> rfl
  unfold ofElement
  rw [hmapM]
  cases callbackAttributes.mapM fun c => ofAttribute? e c.1 c.2 with
  | error f => rfl
  | ok found =>
    refine congrArg Except.ok ?_
    rw [List.filterMap_map, List.map_filterMap]
    rfl

/-- The handlers of the first element come before those of the others. -/
theorem discover_cons_eq_ok_iff {es : List Element} {hs : List Handler} : discover (e :: es) = .ok hs ↔
    ∃ own rest, ofElement e = .ok own ∧ discover es = .ok rest ∧ own ++ rest = hs := by
  unfold discover
  rw [List.mapM_cons]
  cases ofElement e with
  | error f => exact ⟨nofun, fun ⟨own, rest, hown, _⟩ => nomatch hown⟩
  | ok own =>
    cases es.mapM ofElement with
    | error f => exact ⟨nofun, fun ⟨own, rest, _, hrest, _⟩ => nomatch hrest⟩
    | ok rows =>
      constructor
      · intro h
        exact ⟨own, rows.flatten, rfl, rfl, Except.ok.inj h⟩
      · rintro ⟨_, _, hown, hrest, rfl⟩
        cases hown
        cases hrest
        rfl

/-- An element that is kept has the handlers that it had. -/
theorem forall₂_ofElement {hs hs' : List Handler} (hkept : keeps e e') (hname : e'.name = e.name)
    (hattributes : e'.attributes = e.attributes) (h : ofElement e = .ok hs) (h' : ofElement e' = .ok hs') :
    List.Forall₂ (KeptBy keeps) hs hs' := by
  have hsame : hs' = hs.map (moveTo e') := by
    rw [ofElement_moveTo hname hattributes, h] at h'
    exact (Except.ok.inj h').symm
  rw [hsame, List.forall₂_map_right_iff, List.forall₂_same]
  intro x hx
  exact ⟨rfl, rfl, rfl, (of_mem_ofElement h x hx).1.symm ▸ hkept⟩

/-- The handlers of some elements are among those of others, if the elements are among them. -/
theorem sublistForall₂_discover {es es' : List Element} {hs hs' : List Handler}
    (hsame : ∀ e e', keeps e e' → e'.name = e.name ∧ e'.attributes = e.attributes)
    (hkept : List.SublistForall₂ keeps es es') (h : discover es = .ok hs) (h' : discover es' = .ok hs') :
    List.SublistForall₂ (KeptBy keeps) hs hs' := by
  induction hkept generalizing hs hs' with
  | nil =>
    cases h
    exact .nil
  | @cons e e' es es' he _ ih =>
    obtain ⟨own, rest, hown, hrest, rfl⟩ := discover_cons_eq_ok_iff.1 h
    obtain ⟨own', rest', hown', hrest', rfl⟩ := discover_cons_eq_ok_iff.1 h'
    obtain ⟨hname, hattributes⟩ := hsame e e' he
    obtain ⟨kept, hkept, hsub⟩ := List.sublistForall₂_iff.1 (ih hrest hrest')
    exact List.sublistForall₂_iff.2 ⟨own' ++ kept,
      List.rel_append (forall₂_ofElement he hname hattributes hown hown') hkept, hsub.append_left own'⟩
  | @cons_right e' es es' _ ih =>
    obtain ⟨own', rest', -, hrest', rfl⟩ := discover_cons_eq_ok_iff.1 h'
    obtain ⟨kept, hkept, hsub⟩ := List.sublistForall₂_iff.1 (ih h hrest')
    exact List.sublistForall₂_iff.2 ⟨kept, hkept, hsub.trans (List.sublist_append_right own' rest')⟩

end Handler

namespace DoubleSubmit

/-- What a filter leaves of some list is among what another one leaves of a larger list, if this leaves at least as
much. -/
theorem sublistForall₂_filter {α β : Type} {R : α → β → Prop} {p : α → Bool} {q : β → Bool}
    (hleft : ∀ a b, R a b → p a = true → q b = true) {as : List α} {bs : List β}
    (h : List.SublistForall₂ R as bs) : List.SublistForall₂ R (as.filter p) (bs.filter q) := by
  induction h with
  | nil => exact .nil
  | @cons a b as bs hab _ ih =>
    by_cases ha : p a = true
    · rw [List.filter_cons_of_pos ha, List.filter_cons_of_pos (hleft a b hab ha)]
      exact .cons hab ih
    · rw [List.filter_cons_of_neg ha, List.filter_cons]
      split
      · exact .cons_right ih
      · exact ih
  | @cons_right b as bs _ ih =>
    rw [List.filter_cons]
    split
    · exact .cons_right ih
    · exact ih

/-- A larger file with all elements and all functions of a smaller one, and perhaps with elements added. -/
structure Addition (lookup : Option (Lookup Id)) (a b : NewFile) where
  /-- Which element of the larger file an element of the smaller one is kept as. -/
  keeps : Element → Element → Prop
  /-- Where a function of the smaller file stands in the larger one. -/
  moved : Place → Place
  elements : List.SublistForall₂ keeps a.unit.elements b.unit.elements
  same : ∀ e e', keeps e e' → e'.name = e.name ∧ e'.attributes = e.attributes
  /-- Buttons that are kept stay in their forms. -/
  inside : ∀ {x x' y y'}, keeps x x' → keeps y y' → x.contains y = true → x'.contains y' = true
  /-- What is exempt in the larger file is exempt in the smaller one. -/
  words : ∀ name, b.settings.exempts name = true → a.settings.exempts name = true
  texts : ∀ {e e'}, keeps e e' → b.settings.exempts e'.innerText = true → a.settings.exempts e.innerText = true
  functions : b.root.functionIndex = a.root.functionIndex.map fun e => (e.1, e.2.map moved)
  /-- Functions stay on stretches of their own. -/
  apart : ∀ f p, covers (moved f) (moved p) = covers f p
  declared : ∀ action, declaredFlag? lookup b.unit action = declaredFlag? lookup a.unit action

namespace Addition

variable {classifier : Classifier} {lookup : Option (Lookup Id)} {a b : NewFile} {f : Place} {h h' : Handler}

/-- A handler that is kept means the function that it meant, where this stands now. -/
theorem means_kept (x : Addition lookup a b) (hkept : Handler.KeptBy x.keeps h h') (f : Place) :
    means b.root.functionIndex (x.moved f) h' = means a.root.functionIndex f h := by
  rw [means, means, x.functions, matchFunction?_map, hkept.name, Option.any_map]
  congr 1
  funext p
  exact x.apart f p

/-- A handler that is kept is not exempt in the larger file unless it was exempt before. -/
theorem isWhitelisted_kept (x : Addition lookup a b) (hkept : Handler.KeptBy x.keeps h h')
    (hexempt : h'.isWhitelisted b.settings = true) : h.isWhitelisted a.settings = true := by
  rw [Handler.isWhitelisted, Bool.or_eq_true] at hexempt ⊢
  exact hexempt.imp (fun hname => x.words _ (hkept.name ▸ hname)) (x.texts hkept.element)

/-- The handlers that mean a function are kept. -/
theorem sublistForall₂_handlersOf (x : Addition lookup a b) (f : Place) :
    List.SublistForall₂ (Handler.KeptBy x.keeps) (a.handlersOf f) (b.handlersOf (x.moved f)) := by
  have hmeans (h h' : Handler) (hkept : Handler.KeptBy x.keeps h h') :
      means a.root.functionIndex f h = true → means b.root.functionIndex (x.moved f) h' = true :=
    (x.means_kept hkept f).trans
  refine sublistForall₂_filter hmeans (sublistForall₂_filter (fun h h' hkept hcounts => ?_)
    (Handler.sublistForall₂_discover x.same x.elements a.discovered b.discovered))
  rw [Bool.not_eq_true'] at hcounts ⊢
  refine Bool.eq_false_iff.2 fun hexempt => ?_
  rw [x.isWhitelisted_kept hkept hexempt] at hcounts
  cases hcounts

/-- The elements on which a handler may be protected are kept. -/
theorem kept (x : Addition lookup a b) (hkept : Handler.KeptBy x.keeps h h') : Kept a b h h' := by
  have hsubmits {e e' : Element} (he : x.keeps e e') : e'.isSubmitButton = e.isSubmitButton := by
    obtain ⟨hname, hattributes⟩ := x.same e e' he
    simp only [Element.isSubmitButton, Element.valueOf?, Element.attribute?, hname, hattributes]
  have hattributes {es es' : List Element} (hes : List.SublistForall₂ x.keeps es es') :
      (es.map (·.attributes)).Sublist (es'.map (·.attributes)) := by
    obtain ⟨kept, hes, hsub⟩ := List.sublistForall₂_iff.1 hes
    have hsame : List.Forall₂ Eq (kept.map (·.attributes)) (es.map (·.attributes)) :=
      List.forall₂_map_left_iff.2 (List.forall₂_map_right_iff.2
        (hes.flip.imp fun e' e he => (x.same e e' he).2))
    rw [List.forall₂_eq_eq_eq] at hsame
    exact hsame ▸ hsub.map _
  refine ⟨hkept.name, hkept.rateLimited, ?_⟩
  rw [targets, targets, List.flatMap_singleton, List.flatMap_singleton, hkept.callback]
  refine hattributes (.cons hkept.element ?_)
  split
  · refine sublistForall₂_filter (fun e e' he hinside => ?_) x.elements
    rw [Bool.and_eq_true] at hinside ⊢
    exact ⟨x.inside hkept.element he hinside.1, (hsubmits he).trans hinside.2⟩
  · exact .nil

/-- A file with added elements adds to the markup for every function that reads alike in both files and whose first
handler is still called what it was called. -/
theorem adds (x : Addition lookup a b) {old : Handler} {rest : List Handler}
    (hold : a.handlersOf f = old :: rest) (hmeant : matchFunction? a.root.functionIndex old.name = some f)
    (hfirst : ∀ first ∈ (b.handlersOf (x.moved f)).head?, first.name = old.name)
    (hreading : readingOf classifier (x.moved f) = readingOf classifier f) :
    Adds classifier lookup a b f (x.moved f) := by
  refine ⟨hreading, x.declared, ?_, fun first hhead => ⟨?_, ?_⟩⟩
  · obtain ⟨kept, hkept, hsub⟩ := List.sublistForall₂_iff.1 (x.sublistForall₂_handlersOf f)
    exact ⟨kept, hsub, hkept.imp fun h h' => x.kept⟩
  · rw [x.functions, matchFunction?_map, hfirst first hhead, hmeant]
    rfl
  · rw [hold]
    intro h hh
    obtain rfl : old = h := Option.some.inj hh
    exact hfirst first hhead

end Addition

/-!
## Pages with several buttons

The pages are `function save() { postAction(); } <div>...</div>` with buttons in the block, each of which
calls `save`. Some of the buttons can be disabled.
-/

open Node (onFirstRow)

/-- The attributes of a button at an offset: its callback, and what disables it. -/
def buttonAttributes (start : Nat) (disabled : Bool) : List Node :=
  onFirstRow "jsx_attribute" "" "onClick=\x7bsave\x7d" (start + 8)
    [onFirstRow "property_identifier" "" "onClick" (start + 8) [],
      onFirstRow "jsx_expression" "" "\x7bsave\x7d" (start + 16)
        [onFirstRow "identifier" "" "save" (start + 17) []]] ::
  if disabled then
    [onFirstRow "jsx_attribute" "" "disabled=\x7bbusy\x7d" (start + 23)
      [onFirstRow "property_identifier" "" "disabled" (start + 23) [],
        onFirstRow "jsx_expression" "" "\x7bbusy\x7d" (start + 32)
          [onFirstRow "identifier" "" "busy" (start + 33) []]]]
  else []

/-- A button as it is written. -/
def buttonText (disabled : Bool) : String :=
  if disabled then "<Button onClick=\x7bsave\x7d disabled=\x7bbusy\x7d />"
  else "<Button onClick=\x7bsave\x7d />"

/-- Buttons one after the other. -/
def buttonTags (start : Nat) : List Bool → List Node
  | [] => []
  | disabled :: rest =>
    onFirstRow "jsx_self_closing_element" "" (buttonText disabled) start
        (onFirstRow "identifier" "name" "Button" (start + 1) [] :: buttonAttributes start disabled) ::
      buttonTags (start + (buttonText disabled).length) rest

/-- The block with the buttons as it is written. -/
def blockText (buttons : List Bool) : String :=
  "<div>" ++ joinStrings "" (buttons.map buttonText) ++ "</div>"

/-- The block with the buttons. -/
def buttonBlock (buttons : List Bool) : Node :=
  let stop := 34 + (blockText buttons).length
  onFirstRow "jsx_element" "" (blockText buttons) 34
    (onFirstRow "jsx_opening_element" "open_tag" "<div>" 34 [onFirstRow "identifier" "name" "div" 35 []] ::
      buttonTags 39 buttons ++
      [onFirstRow "jsx_closing_element" "close_tag" "</div>" (stop - 6)
        [onFirstRow "identifier" "name" "div" (stop - 4) []]])

/-- The page with the buttons. -/
def buttonsPage (buttons : List Bool) : Node :=
  onFirstRow "program" "" ("function save() \x7b postAction(); \x7d " ++ blockText buttons) 0
    [saveFunction, onFirstRow "expression_statement" "" (blockText buttons) 34 [buttonBlock buttons]]

def buttonsUnit (buttons : List Bool) : SourceUnit :=
  ⟨"a.tsx", "tsx", some (buttonsPage buttons), (buttonsPage buttons).text.toList, none, 0, 0⟩

/-- The place of the function in the page. -/
def saveIn (buttons : List Bool) : Place := ⟨saveFunction, [buttonsPage buttons]⟩

/-- The element of the block. -/
def blockElement (stop : Nat) : Element where
  name := "div"
  attributes := []
  line := 1
  endLine := 1
  start := 34
  stop := stop
  origin := .tree
  hasSpread := false
  innerText := ""

/-- The element of a button. -/
def buttonElement (start : Nat) (disabled : Bool) : Element where
  name := "Button"
  attributes := ⟨"onClick", some "save", true, "onClick"⟩ ::
    if disabled then [⟨"disabled", some "busy", true, "disabled"⟩] else []
  line := 1
  endLine := 1
  start := start
  stop := start + (buttonText disabled).length
  origin := .tree
  hasSpread := false
  innerText := ""

def buttonHandler (start : Nat) (disabled : Bool) : Handler :=
  ⟨"save", 1, buttonElement start disabled, "onClick", false⟩

/-- The elements of the page with one button. -/
theorem elements_oneButton :
    (buttonsUnit [false]).elements = [blockElement 70, buttonElement 39 false] := by
  have htree : (buttonsUnit [false]).treeElements = [blockElement 70, buttonElement 39 false] := by
    decide +kernel
  unfold SourceUnit.elements
  rw [htree]
  exact List.mergeSort_of_pairwise (by decide +kernel)

/-- The elements of the pages with two buttons. -/
theorem elements_twoButtons (disabled : Bool) : (buttonsUnit [false, disabled]).elements =
    [blockElement (70 + (buttonText disabled).length), buttonElement 39 false,
      buttonElement 64 disabled] := by
  have htree : (buttonsUnit [false, disabled]).treeElements =
      [blockElement (70 + (buttonText disabled).length), buttonElement 39 false,
        buttonElement 64 disabled] := by
    cases disabled <;> decide +kernel
  unfold SourceUnit.elements
  rw [htree]
  exact List.mergeSort_of_pairwise (by cases disabled <;> decide +kernel)

/-- A block holds no handler. -/
theorem ofElement_block (stop : Nat) : Handler.ofElement (blockElement stop) = .ok [] := by
  unfold Handler.ofElement Handler.callbackAttributes
  rfl

/-- A button holds its handler. -/
theorem ofElement_button (start : Nat) (disabled : Bool) :
    Handler.ofElement (buttonElement start disabled) = .ok [buttonHandler start disabled] := by
  have hclick : Handler.ofAttribute? (buttonElement start disabled) "onClick" Element.isButton =
      .ok (some (buttonHandler start disabled)) := by
    have hattribute : (buttonElement start disabled).attribute? "onClick" =
        some ⟨"onClick", some "save", true, "onClick"⟩ := by
      rfl
    have hbutton : Element.isButton "Button" = true := by decide
    unfold Handler.ofAttribute?
    rw [hattribute]
    dsimp only
    rw [show (buttonElement start disabled).name = "Button" from rfl, hbutton, reference?_save]
    rfl
  unfold Handler.ofElement Handler.callbackAttributes
  rw [List.mapM_cons, hclick]
  cases disabled <;> with_unfolding_all rfl

/-- The page with one button that cannot be disabled. -/
def oneButton : NewFile where
  settings := .plain 1
  path := "a.tsx"
  unit := buttonsUnit [false]
  diff := []
  root := .root (buttonsPage [false])
  handlers := [buttonHandler 39 false]
  enabled := rfl
  checked := rfl
  rooted := rfl
  isNew := ⟨.whole, Diff.read_nil, rfl⟩
  discovered := by
    rw [elements_oneButton, Handler.discover, List.mapM_cons, List.mapM_cons, ofElement_block,
      ofElement_button]
    rfl

/-- The page with a second button behind the first one. -/
def twoButtons (disabled : Bool) : NewFile where
  settings := .plain 1
  path := "a.tsx"
  unit := buttonsUnit [false, disabled]
  diff := []
  root := .root (buttonsPage [false, disabled])
  handlers := [buttonHandler 39 false, buttonHandler 64 disabled]
  enabled := rfl
  checked := rfl
  rooted := rfl
  isNew := ⟨.whole, Diff.read_nil, rfl⟩
  discovered := by
    rw [elements_twoButtons, Handler.discover, List.mapM_cons, List.mapM_cons, List.mapM_cons,
      ofElement_block, ofElement_button, ofElement_button]
    rfl

/-- What the rule reads of the function of the pages. -/
def saveReading : Reading := ⟨true, ["postAction"], false, false, []⟩

/-- What the rule reads of the function on the page with one button. -/
theorem readingOf_oneButton : readingOf (.ofWords []) (saveIn [false]) = saveReading := by
  decide +kernel

/-- What the rule reads of the function on the pages with two buttons. -/
theorem readingOf_twoButtons (disabled : Bool) :
    readingOf (.ofWords []) (saveIn [false, disabled]) = saveReading := by
  cases disabled <;> decide +kernel

/-- The handler of the page with one button means its function. -/
theorem matchFunction?_oneButton :
    matchFunction? oneButton.root.functionIndex "save" = some (saveIn [false]) := by
  with_unfolding_all rfl

/-- One handler means the function on the page with one button. -/
theorem handlersOf_oneButton : oneButton.handlersOf (saveIn [false]) = [buttonHandler 39 false] := by
  with_unfolding_all rfl

/-- Two handlers mean the function on the pages with two buttons. -/
theorem handlersOf_twoButtons (disabled : Bool) :
    (twoButtons disabled).handlersOf (saveIn [false, disabled]) =
      [buttonHandler 39 false, buttonHandler 64 disabled] := by
  cases disabled <;> with_unfolding_all rfl

/-- A button can be disabled if it was made so. -/
theorem isDisabling_button (start : Nat) (disabled : Bool) :
    isDisabling "save" (buttonElement start disabled) = disabled := by
  have hattributes : (buttonElement start disabled).attributes =
      (buttonElement 0 disabled).attributes := rfl
  rw [isDisabling_congr hattributes]
  cases disabled <;> decide

/-- A button that cannot be disabled protects nothing. -/
theorem not_protects_button (start : Nat) :
    ¬ Protects saveReading (fun _ => none) "save" (buttonElement start false) := by
  intro h
  cases h with
  | disabling disabled =>
    rw [isDisabling_button] at disabled
    cases disabled
  | flag mem binds => cases mem
  | declared called declares binds => cases declares

/-- The function is reported on the page with one button. -/
theorem reports_oneButton : oneButton.Reports (.ofWords []) none (saveIn [false]) := by
  refine (NewFile.reports_iff (by simp)).2 ⟨_, _, handlersOf_oneButton, matchFunction?_oneButton, ?_, ?_⟩
  · rw [readingOf_oneButton]
    rfl
  · rw [readingOf_oneButton, handlersOf_oneButton]
    intro hexcused
    cases hexcused with
    | guarded h => cases h
    | limited h => cases h
    | callback mem limits =>
      rw [List.mem_singleton.1 mem] at limits
      cases limits
    | element mem protects =>
      obtain rfl : _ = buttonElement 39 false := List.mem_singleton.1 mem
      exact not_protects_button 39 protects

/-- A button stands among what its own handler may be protected on. -/
theorem targets_button (elements : List Element) (start : Nat) (disabled : Bool)
    (rest : List Handler) : targets elements (buttonHandler start disabled :: rest) =
      buttonElement start disabled :: targets elements rest := by
  have hclick : formAttributes.contains "onClick" = false := by decide
  rw [targets, List.flatMap_cons]
  change (buttonElement start disabled ::
    if formAttributes.contains "onClick" = true then _ else []) ++ targets elements rest = _
  rw [hclick]
  rfl

/-- Where an offset of the page with one button stands once a text was added behind the button. -/
def behindButton (length offset : Nat) : Nat :=
  if offset ≤ 64 then offset else offset + length

/-- Adding a text keeps the order of offsets. -/
theorem behindButton_le_iff (length m n : Nat) :
    behindButton length m ≤ behindButton length n ↔ m ≤ n := by
  unfold behindButton
  split <;> split <;> omega

/-- A text that is added behind the button leaves elements inside the elements that they were in. -/
theorem contains_behindButton (length : Nat) (outer inner : Element) :
    { outer with stop := behindButton length outer.stop : Element }.contains
        { inner with stop := behindButton length inner.stop } = outer.contains inner := by
  have hstop : (behindButton length outer.stop == behindButton length inner.stop) =
      (outer.stop == inner.stop) := by
    rw [Bool.eq_iff_iff, beq_iff_eq, beq_iff_eq, Nat.le_antisymm_iff, Nat.le_antisymm_iff,
      behindButton_le_iff, behindButton_le_iff]
  simp only [Element.contains, hstop, behindButton_le_iff]

/-- The second page has all of the first one, and a button behind that of the first one. -/
def secondButton (disabled : Bool) : Addition none oneButton (twoButtons disabled) where
  keeps e e' := e' = { e with stop := behindButton (buttonText disabled).length e.stop }
  moved f := ⟨f.node, [buttonsPage [false, disabled]]⟩
  elements := by
    change List.SublistForall₂ _ (buttonsUnit [false]).elements (buttonsUnit [false, disabled]).elements
    rw [elements_oneButton, elements_twoButtons]
    exact .cons rfl (.cons rfl .nil)
  same := by
    rintro e _ rfl
    exact ⟨rfl, rfl⟩
  inside := by
    rintro x _ y _ rfl rfl hinside
    exact (contains_behindButton _ x y).trans hinside
  words := fun _ => id
  texts := by
    rintro e _ rfl
    exact id
  functions := by cases disabled <;> with_unfolding_all rfl
  apart := fun _ _ => rfl
  declared := by
    intro action
    rw [declaredFlag?, Option.bind_none, declaredFlag?, Option.bind_none]

/-- A second button adds to the markup, whether it can be disabled or not. -/
theorem adds_twoButtons (disabled : Bool) : Adds (.ofWords []) none oneButton (twoButtons disabled)
    (saveIn [false]) (saveIn [false, disabled]) := by
  have hfirst : ∀ first ∈ ((twoButtons disabled).handlersOf (saveIn [false, disabled])).head?,
      first.name = "save" := by
    intro first hhead
    rw [handlersOf_twoButtons] at hhead
    obtain rfl : buttonHandler 39 false = first := Option.some.inj hhead
    rfl
  have hreading : readingOf (.ofWords []) (saveIn [false, disabled]) =
      readingOf (.ofWords []) (saveIn [false]) := by
    rw [readingOf_twoButtons, readingOf_oneButton]
  exact (secondButton disabled).adds handlersOf_oneButton matchFunction?_oneButton hfirst hreading

/-- One protected button excuses another one: the button is reported as long as it stands alone, and no
longer once a second button with the same handler can be disabled. -/
theorem protected_button_excuses :
    Adds (.ofWords []) none oneButton (twoButtons true) (saveIn [false]) (saveIn [false, true]) ∧
      oneButton.Reports (.ofWords []) none (saveIn [false]) ∧
      ¬ (twoButtons true).Reports (.ofWords []) none (saveIn [false, true]) := by
  refine ⟨adds_twoButtons true, reports_oneButton, ?_⟩
  rw [NewFile.reports_iff (by simp), handlersOf_twoButtons]
  rintro ⟨first, rest, hhandlers, -, -, hexcused⟩
  obtain ⟨rfl, -⟩ := List.cons.inj hhandlers
  refine hexcused (.element (e := buttonElement 64 true) ?_ (.disabling ?_))
  · exact List.mem_cons_of_mem _ List.mem_cons_self
  · exact isDisabling_button 64 true

/-- A second button that is not protected either: the function is still reported. -/
theorem reports_of_adds_button :
    AddsNoProtection (.ofWords []) none oneButton (twoButtons false) (saveIn [false])
        (saveIn [false, false]) ∧
      (twoButtons false).Reports (.ofWords []) none (saveIn [false, false]) := by
  have hplain : AddsNoProtection (.ofWords []) none oneButton (twoButtons false) (saveIn [false])
      (saveIn [false, false]) := by
    refine ⟨?_, fun e he => .inl ⟨buttonElement 39 false, ?_, ?_⟩⟩
    · rw [handlersOf_twoButtons]
      simp [buttonHandler]
    · rw [NewFile.targetsOf, handlersOf_oneButton, targets_button]
      exact List.mem_cons_self
    · rw [NewFile.targetsOf, handlersOf_twoButtons, targets_button, targets_button] at he
      rcases List.mem_cons.1 he with rfl | he
      · rfl
      · rw [List.mem_singleton.1 he]
        rfl
  exact ⟨hplain, reports_of_adds (by simp) (adds_twoButtons false) hplain reports_oneButton⟩

end DoubleSubmit

end UxLint
