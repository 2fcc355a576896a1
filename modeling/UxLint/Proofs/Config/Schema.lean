import UxLint.Config.Load
import UxLint.Proofs.Config.Overlay

/-!
# What a configuration may hold

The items of a configuration are named by rows of keys, and each has a shape (`Schema.items`). Reading the
settings accepts a document if every item that it holds has its shape, and else reports the first item that
has not, in the order of the items (`Settings.read_outcome`). An item that is not there is never wrong, and
neither is one that lies behind something else than a mapping: there the error, if it is one, is found
earlier.

Settings laid over a valid document are valid if they are valid by themselves, as long as they do not lead
too far down (`Settings.read_overlaid_iff`).
-/

set_option autoImplicit false

namespace UxLint

/-! ## Items and their shapes -/

namespace Value

/-- Whether a value is the absent value. -/
def isNull : Value → Bool
  | null => true
  | _ => false

/-- Whether a value is a mapping. -/
def isMapping : Value → Bool
  | mapping _ => true
  | _ => false

/-- Whether a value is a list of strings only. -/
def isStrings : Value → Bool
  | list items => items.all fun v => v.string?.isSome
  | _ => false

/-- Whether a value is a string that is not empty. -/
def isName : Value → Bool
  | string s => s != ""
  | _ => false

/-- The entries of the mapping that a row of keys leads to; none if it leads to something else. -/
def entriesAt (document : Value) (path : List String) : List (String × Value) :=
  ((document.at? path).bind entries?).getD []

/-- Where nothing stands there are no entries. -/
theorem entriesAt_of_absent {document : Value} {path : List String} (h : document.at? path = none) :
    document.entriesAt path = [] := by
  rw [entriesAt, h]
  rfl

/-- The entries at a path are those of the value there, if it is a mapping. -/
theorem entriesAt_eq {document v : Value} {path : List String} (h : document.at? path = some v) :
    document.entriesAt path = v.entries?.getD [] := by
  rw [entriesAt, h]
  rfl

/-- A key among the entries at a path is one more step of the path. -/
theorem lookup_entriesAt (document : Value) (path : List String) (key : String) :
    lookup (document.entriesAt path) key = document.at? (path ++ [key]) := by
  rw [at?_append, entriesAt]
  cases document.at? path with
  | none => rfl
  | some v =>
    cases v with
    | mapping entries =>
      change lookup entries key = (lookup entries key).bind some
      rw [Option.bind_fun_some]
    | _ => rfl

end Value

namespace Schema

/-- What is asked of the value of an item. -/
inductive Shape where
  /-- Null or a mapping. -/
  | section_
  /-- A mapping, or anything that counts as false. -/
  | mapping
  /-- Null or a list of strings. -/
  | strings
  /-- A string that is not empty. -/
  | name
  deriving DecidableEq

/-- Whether a value has a shape. -/
def Shape.admits : Shape → Value → Bool
  | section_, v => v.isNull || v.isMapping
  | mapping, v => !v.isTruthy || v.isMapping
  | strings, v => v.isNull || v.isStrings
  | name, v => v.isName

/-- A shape in words. -/
def Shape.demand : Shape → String
  | section_ | mapping => "a mapping"
  | strings => "a list of strings"
  | name => "a non-empty string"

/-- An item of a configuration. -/
structure Item where
  /-- The row of keys that leads to the item. -/
  path : List String
  shape : Shape

namespace Item

/-- The dotted key of an item. -/
def key (i : Item) : String := joinStrings "." i.path

/-- The error that reports an item. -/
def error (i : Item) : ConfigError :=
  match i.shape with
  | .section_ | .mapping => .notMapping i.key
  | .strings => .notStrings i.key
  | .name => .notName i.key

/-- Whether an item has its shape, if the document holds it. -/
def fits (document : Value) (i : Item) : Bool := (document.at? i.path).all i.shape.admits

/-- An error names the key and what it must be. -/
theorem message_error (i : Item) :
    i.error.message = "'" ++ i.key ++ "' must be " ++ i.shape.demand := by
  have hmapping : "' must be " ++ "a mapping" = "' must be a mapping" := by decide
  have hstrings : "' must be " ++ "a list of strings" = "' must be a list of strings" := by
    decide
  have hname : "' must be " ++ "a non-empty string" = "' must be a non-empty string" := by
    decide
  obtain ⟨path, shape⟩ := i
  rw [String.append_assoc]
  cases shape <;> unfold error ConfigError.message Shape.demand <;> dsimp only
  · rw [hmapping]
  · rw [hmapping]
  · rw [hstrings]
  · rw [hname]

end Item

/-- The key of the section of a rule. -/
def ruleName (number : Nat) : String := "rule" ++ toString number

/-- The items of the section of a rule that holds the given word lists. -/
def ruleItems (rule : String) (lists : List String) : List Item :=
  [⟨[rule], .section_⟩, ⟨[rule, "whitelist"], .mapping⟩, ⟨[rule, "customKeywords"], .mapping⟩,
    ⟨[rule, "whitelist", "keywords"], .strings⟩, ⟨[rule, "whitelist", "paths"], .strings⟩] ++
  lists.map fun list => ⟨[rule, "customKeywords", list], .strings⟩

/-- The items of the section that concerns all rules. -/
def commonItems : List Item :=
  [⟨["global"], .mapping⟩, ⟨["global", "fileExtensions"], .strings⟩, ⟨["global", "ignore"], .strings⟩,
    ⟨["global", "declareRequestFunction"], .name⟩]

/-- The items of a configuration in whose section of the rule with number `n` there are the word lists
`lists n`. -/
def itemsWith (lists : Nat → List String) : List Item :=
  (Settings.ruleNumbers.flatMap fun n => ruleItems (ruleName n) (lists n)) ++ commonItems

/-- The names of the word lists that a document holds for a rule. -/
def listsOf (document : Value) (number : Nat) : List String :=
  (document.entriesAt [ruleName number, "customKeywords"]).map (·.1)

/-- The items of a document, in the order in which they are checked. -/
def items (document : Value) : List Item := itemsWith (listsOf document)

/-- A document is a mapping, and its items have their shapes. -/
def Conforms (document : Value) : Prop :=
  (∃ entries, document = .mapping entries) ∧ ∀ i ∈ items document, i.fits document = true

/-- The first problem of a document. -/
def firstProblem? (document : Value) : Option ConfigError :=
  match document with
  | .mapping _ => ((items document).find? fun i => !i.fits document).map Item.error
  | _ => some .rootNotMapping

/-! ## Computations that check items -/

/-- A computation comes to a result with `Q` if the items have their shapes, and reports the first one
that has not. -/
def Follows {α : Type} (document : Value) (checked : List Item) (Q : α → Prop)
    (x : Except ConfigError α) : Prop :=
  match checked.find? fun i => !i.fits document with
  | none => ∃ a, x = .ok a ∧ Q a
  | some i => x = .error i.error

namespace Follows

variable {α β : Type} {document : Value} {checked more : List Item} {i : Item}
  {Q : α → Prop} {R : β → Prop} {x : Except ConfigError α} {a : α}

/-- Where nothing is checked, the value is accepted. -/
theorem nothing (h : Q a) : Follows document [] Q (.ok a) := ⟨a, rfl, h⟩

/-- A value that fits is accepted. -/
theorem accepted (fits : i.fits document = true) (h : Q a) : Follows document [i] Q (.ok a) := by
  unfold Follows
  rw [List.find?_cons, fits]
  exact ⟨a, rfl, h⟩

/-- A value that does not fit is refused with its error. -/
theorem refused (misfits : i.fits document = false) : Follows document [i] Q (.error i.error) := by
  unfold Follows
  rw [List.find?_cons, misfits]
  rfl

/-- What a computation goes on with is checked behind what it checked itself. -/
theorem bind {g : α → Except ConfigError β} (hx : Follows document checked Q x)
    (hg : ∀ a, Q a → Follows document more R (g a)) :
    Follows document (checked ++ more) R (x >>= g) := by
  unfold Follows at hx ⊢
  rw [List.find?_append]
  cases hfirst : checked.find? fun i => !i.fits document with
  | none =>
    rw [hfirst] at hx
    obtain ⟨a, rfl, ha⟩ := hx
    exact hg a ha
  | some i =>
    rw [hfirst] at hx
    dsimp only at hx
    rw [hx]
    rfl

/-- Two readings, one after the other, check what the one checks and then what the other does. -/
theorem first {g : α → Except ConfigError β} (hx : Follows document [i] Q x)
    (hg : ∀ a, Q a → Follows document more R (g a)) : Follows document (i :: more) R (x >>= g) :=
  hx.bind hg

/-- A computation that goes on without checking anything. -/
theorem map {g : α → β} (hx : Follows document checked Q x) (hg : ∀ a, Q a → R (g a)) :
    Follows document checked R (x >>= fun a => .ok (g a)) := by
  rw [← List.append_nil checked]
  exact hx.bind fun a ha => nothing (hg a ha)

/-- A row of computations checks the items of each of them in turn. -/
theorem mapM {l : List α} {f : α → Except ConfigError β} {items : α → List Item}
    (h : ∀ a ∈ l, Follows document (items a) (fun _ => True) (f a)) :
    Follows document (l.flatMap items) (fun _ => True) (l.mapM f) := by
  induction l with
  | nil => exact nothing trivial
  | cons a l ih =>
    rw [List.mapM_cons, List.flatMap_cons]
    refine (h a List.mem_cons_self).bind fun b _ => ?_
    exact (ih fun c hc => h c (List.mem_cons_of_mem a hc)).map fun _ _ => trivial

/-- A reading succeeds exactly if all that it checks fits. -/
theorem ok_iff (hx : Follows document checked Q x) :
    (∃ a, x = .ok a) ↔ ∀ i ∈ checked, i.fits document = true := by
  unfold Follows at hx
  cases hfirst : checked.find? fun i => !i.fits document with
  | none =>
    rw [hfirst] at hx
    obtain ⟨a, rfl, -⟩ := hx
    simpa using hfirst
  | some i =>
    rw [hfirst] at hx
    obtain ⟨hmisfit, -⟩ := List.find?_eq_some_iff_append.1 hfirst
    constructor
    · rintro ⟨a, ha⟩
      rw [ha] at hx
      cases hx
    · intro hall
      rw [hall i (List.mem_of_find?_eq_some hfirst)] at hmisfit
      cases hmisfit

/-- A reading fails exactly with the error of the first item that does not fit. -/
theorem error_iff (hx : Follows document checked Q x) (e : ConfigError) :
    x = .error e ↔ (checked.find? fun i => !i.fits document).map Item.error = some e := by
  unfold Follows at hx
  cases hfirst : checked.find? fun i => !i.fits document with
  | none =>
    rw [hfirst] at hx
    obtain ⟨a, rfl, -⟩ := hx
    simp
  | some i =>
    rw [hfirst] at hx
    simp [hx]

end Follows

/-! ## Reading items -/

/-- One string is joined to nothing. -/
theorem joinStrings_singleton (sep s : String) : joinStrings sep [s] = s := by
  unfold joinStrings
  rw [List.map_singleton, Text.join, String.ofList_toList]

/-- A separator stands between two strings. -/
theorem joinStrings_cons (sep s t : String) (ss : List String) :
    joinStrings sep (s :: t :: ss) = s ++ sep ++ joinStrings sep (t :: ss) := by
  unfold joinStrings
  rw [List.map_cons, List.map_cons, Text.join, String.ofList_append, String.ofList_append,
    String.ofList_toList, String.ofList_toList]
  simp

/-- The key at the top level is its name. -/
theorem key_singleton (s : String) (shape : Shape) : (Item.mk [s] shape).key = s :=
  joinStrings_singleton "." s

/-- The key in a section has a dot in the middle. -/
theorem key_pair (s t : String) (shape : Shape) : (Item.mk [s, t] shape).key = s ++ "." ++ t := by
  rw [Item.key, joinStrings_cons, joinStrings_singleton]

/-- How the key of a whitelist goes on behind the section. -/
theorem dot_whitelist : "." ++ "whitelist" = ".whitelist" := by decide

/-- How the key of custom keywords goes on behind the section. -/
theorem dot_customKeywords : "." ++ "customKeywords" = ".customKeywords" := by decide

/-- The key in a section of a section has two dots. -/
theorem key_triple (s t u : String) (shape : Shape) :
    (Item.mk [s, t, u] shape).key = s ++ "." ++ t ++ "." ++ u := by
  rw [Item.key, joinStrings_cons, joinStrings_cons, joinStrings_singleton]
  simp only [String.append_assoc]

/-- A list is one of strings if all its members are strings. -/
theorem strings?_isSome (items : List Value) :
    (Settings.strings? items).isSome = items.all fun v => v.string?.isSome := by
  induction items with
  | nil => rfl
  | cons v items ih =>
    cases v with
    | string s => rw [Settings.strings?, Option.isSome_map, ih]; rfl
    | _ => rfl

section Readers

open Settings

variable {document : Value} {i : Item} {path : List String} {key : String}

/-- What is absent fits. -/
theorem fits_of_absent (h : document.at? i.path = none) : i.fits document = true := by
  rw [Item.fits, h]
  rfl

/-- A value fits if its shape admits it. -/
theorem fits_eq {v : Value} (h : document.at? i.path = some v) : i.fits document = i.shape.admits v := by
  rw [Item.fits, h]
  rfl

/-- Reading a list of strings checks one item. -/
theorem readStrings_follows {place : String} (hpath : i.path = path ++ [key]) (hshape : i.shape = .strings)
    (hkey : i.key = place ++ "." ++ key) :
    Follows document [i] (fun _ => True) (readStrings (document.entriesAt path) key place) := by
  have herror : .notStrings (place ++ "." ++ key) = i.error := by
    rw [Item.error, hshape, hkey]
  unfold readStrings
  rw [Value.lookup_entriesAt, ← hpath, herror]
  cases hat : document.at? i.path with
  | none => exact .accepted (fits_of_absent hat) trivial
  | some v =>
    have hfits := fits_eq hat
    rw [hshape] at hfits
    cases v with
    | null => exact .accepted hfits trivial
    | list items =>
      have hall : i.fits document = (strings? items).isSome := hfits.trans (strings?_isSome items).symm
      dsimp only
      cases hstrings : strings? items with
      | none => exact .refused (by rw [hall, hstrings]; rfl)
      | some ss => exact .accepted (by rw [hall, hstrings]; rfl) trivial
    | _ => exact .refused hfits

/-- Reading a mapping checks one item and yields its entries. -/
theorem readMapping_follows {name : String} (hpath : i.path = path ++ [key]) (hshape : i.shape = .mapping)
    (hkey : i.key = name) :
    Follows document [i] (fun entries => entries = document.entriesAt i.path)
      (readMapping (document.entriesAt path) key name) := by
  have herror : .notMapping name = i.error := by
    rw [Item.error, hshape, hkey]
  unfold readMapping
  rw [Value.lookup_entriesAt, ← hpath, herror]
  cases hat : document.at? i.path with
  | none => exact .accepted (fits_of_absent hat) (Value.entriesAt_of_absent hat).symm
  | some v =>
    have hfits := fits_eq hat
    rw [hshape] at hfits
    have hentries : document.entriesAt i.path = v.entries?.getD [] := Value.entriesAt_eq hat
    cases v with
    | mapping entries => exact .accepted (hfits.trans (Bool.or_true _)) hentries.symm
    | _ =>
      dsimp only
      split
      · next htruthy => exact .refused (by rw [hfits, Shape.admits, htruthy]; rfl)
      · next htruthy =>
        rw [Bool.not_eq_true] at htruthy
        exact .accepted (by rw [hfits, Shape.admits, htruthy]; rfl) hentries.symm

/-- Reading the name of the declaring function checks one item. -/
theorem readDeclareFunction_follows (hpath : i.path = path ++ ["declareRequestFunction"])
    (hshape : i.shape = .name) (hkey : i.key = "global.declareRequestFunction") :
    Follows document [i] (fun _ => True) (readDeclareFunction (document.entriesAt path)) := by
  have herror : .notName "global.declareRequestFunction" = i.error := by
    rw [Item.error, hshape, hkey]
  unfold readDeclareFunction
  rw [Value.lookup_entriesAt, ← hpath, herror]
  cases hat : document.at? i.path with
  | none => exact .accepted (fits_of_absent hat) trivial
  | some v =>
    have hfits := fits_eq hat
    rw [hshape] at hfits
    cases v with
    | string s =>
      change i.fits document = (s != "") at hfits
      dsimp only
      split
      · next hempty => exact .refused (by rw [hfits, bne, hempty]; rfl)
      · next hempty => exact .accepted (by rw [hfits, bne, eq_false_of_ne_true hempty]; rfl) trivial
    | _ => exact .refused hfits

/-- The entries of the section of a rule. -/
def readSection (root : List (String × Value)) (name : String) :
    Except ConfigError (List (String × Value)) :=
  match Value.lookup root name with
  | none => .ok []
  | some .null => .ok []
  | some (.mapping entries) => .ok entries
  | some _ => .error (.notMapping name)

/-- Reading a section checks one item and yields its entries. -/
theorem readSection_follows {name : String} (hpath : i.path = path ++ [name]) (hshape : i.shape = .section_)
    (hkey : i.key = name) :
    Follows document [i] (fun entries => entries = document.entriesAt i.path)
      (readSection (document.entriesAt path) name) := by
  have herror : .notMapping name = i.error := by
    rw [Item.error, hshape, hkey]
  unfold readSection
  rw [Value.lookup_entriesAt, ← hpath, herror]
  cases hat : document.at? i.path with
  | none => exact .accepted (fits_of_absent hat) (Value.entriesAt_of_absent hat).symm
  | some v =>
    have hfits := fits_eq hat
    rw [hshape] at hfits
    have hentries : document.entriesAt i.path = v.entries?.getD [] := Value.entriesAt_eq hat
    cases v with
    | null => exact .accepted hfits hentries.symm
    | mapping entries => exact .accepted hfits hentries.symm
    | _ => exact .refused hfits

/-- A rule is read section by section: its whitelist, its keywords and then their lists. -/
theorem readRule_eq (root : List (String × Value)) (number : Nat) :
    readRule root number = readSection root (ruleName number) >>= fun section_ =>
      readMapping section_ "whitelist" (ruleName number ++ ".whitelist") >>= fun whitelist =>
      readMapping section_ "customKeywords" (ruleName number ++ ".customKeywords") >>= fun custom =>
      readStrings whitelist "keywords" (ruleName number ++ ".whitelist") >>= fun keywords =>
      readStrings whitelist "paths" (ruleName number ++ ".whitelist") >>= fun paths =>
      readKeywords (ruleName number ++ ".customKeywords") custom >>= fun words =>
      .ok ⟨number, readSwitch section_ "enabled" true, keywords, paths, words⟩ := by
  unfold readRule readSection ruleName
  dsimp only
  cases Value.lookup root ("rule" ++ toString number) with
  | none => rfl
  | some v => cases v <;> rfl

/-- Reading the lists of a section checks each of them in the order of its entries. -/
theorem readKeywords_follows (document : Value) (path : List String) (place : String)
    (hkey : ∀ list, (Item.mk (path ++ [list]) .strings).key = place ++ "." ++ list) :
    Follows document (((document.entriesAt path).map (·.1)).map fun list => ⟨path ++ [list], .strings⟩)
      (fun _ => True) (readKeywords place (document.entriesAt path)) := by
  rw [List.map_map, List.map_eq_flatMap]
  refine Follows.mapM fun e _ => ?_
  exact (readStrings_follows rfl rfl (hkey e.1)).map fun _ _ => trivial

/-- Reading a rule checks the items of the rule. -/
theorem readRule_follows (document : Value) (number : Nat) :
    Follows document (ruleItems (ruleName number) (listsOf document number)) (fun _ => True)
      (readRule (document.entriesAt []) number) := by
  have hwhitelist (list : String) : (Item.mk [ruleName number, "whitelist", list] .strings).key =
      ruleName number ++ ".whitelist" ++ "." ++ list := by
    rw [key_triple, ← dot_whitelist, ← String.append_assoc]
  have hcustom (list : String) : (Item.mk [ruleName number, "customKeywords", list] .strings).key =
      ruleName number ++ ".customKeywords" ++ "." ++ list := by
    rw [key_triple, ← dot_customKeywords, ← String.append_assoc]
  have hwords := readKeywords_follows document [ruleName number, "customKeywords"] _ hcustom
  unfold ruleItems
  simp only [List.cons_append, List.nil_append]
  rw [readRule_eq]
  refine (readSection_follows rfl rfl (key_singleton _ _)).first ?_
  rintro _ rfl
  refine (readMapping_follows rfl rfl (by rw [key_pair, String.append_assoc, dot_whitelist])).first ?_
  rintro _ rfl
  refine (readMapping_follows rfl rfl (by rw [key_pair, String.append_assoc, dot_customKeywords])).first ?_
  rintro _ rfl
  refine (readStrings_follows rfl rfl (hwhitelist "keywords")).first fun keywords _ => ?_
  refine (readStrings_follows rfl rfl (hwhitelist "paths")).first fun paths _ => ?_
  exact Follows.map hwords fun _ _ => trivial

/-- Reading the settings checks the items of a mapping, one behind the other. -/
theorem read_follows (entries : List (String × Value)) :
    Follows (.mapping entries) (items (.mapping entries)) (fun _ => True)
      (Settings.read (.mapping entries)) := by
  have hroot : (Value.mapping entries).entriesAt [] = entries := rfl
  have hdeclare : (Item.mk ["global", "declareRequestFunction"] .name).key =
      "global.declareRequestFunction" := by
    rw [key_pair]
    decide
  have hrules : Follows (.mapping entries)
      (ruleNumbers.flatMap fun n => ruleItems (ruleName n) (listsOf (.mapping entries) n))
      (fun _ => True) (ruleNumbers.mapM (readRule entries)) :=
    Follows.mapM fun n _ => readRule_follows (.mapping entries) n
  have hcommon : Follows (.mapping entries) [⟨["global"], .mapping⟩]
      (fun common => common = (Value.mapping entries).entriesAt ["global"])
      (readMapping ((Value.mapping entries).entriesAt []) "global" "global") :=
    readMapping_follows rfl rfl (key_singleton _ _)
  unfold Settings.read items itemsWith commonItems
  refine hrules.bind fun rules _ => hcommon.first ?_
  rintro _ rfl
  refine (readStrings_follows rfl rfl (key_pair _ _ _)).first fun extensions _ => ?_
  refine (readStrings_follows rfl rfl (key_pair _ _ _)).first fun ignore _ => ?_
  exact Follows.map (readDeclareFunction_follows rfl rfl hdeclare) fun _ _ => trivial

end Readers

end Schema

/-- Reading the settings accepts what conforms to the schema, and reports the first problem of anything
else. -/
theorem Settings.read_outcome (document : Value) :
    ((∃ s, read document = .ok s) ↔ Schema.Conforms document) ∧
      (∀ e, read document = .error e ↔ Schema.firstProblem? document = some e) ∧
      ∀ i : Schema.Item, i.error.message = "'" ++ i.key ++ "' must be " ++ i.shape.demand := by
  cases document with
  | mapping entries =>
    have hread := Schema.read_follows entries
    refine ⟨?_, hread.error_iff, Schema.Item.message_error⟩
    rw [hread.ok_iff]
    exact ⟨fun h => ⟨⟨entries, rfl⟩, h⟩, fun h => h.2⟩
  | _ =>
    refine ⟨⟨nofun, ?_⟩, fun e => ?_, Schema.Item.message_error⟩
    · rintro ⟨⟨entries, hentries⟩, -⟩
      cases hentries
    · change Except.error ConfigError.rootNotMapping = .error e ↔ some ConfigError.rootNotMapping = some e
      rw [Except.error.injEq, Option.some.injEq]

/-! ## Settings laid over valid settings -/

namespace Schema

open Value

/-- Word lists that a document does not hold make no difference. -/
theorem forall_items_fit_iff (document : Value) : (∀ i ∈ items document, i.fits document = true) ↔
    ∀ lists : Nat → List String, ∀ i ∈ itemsWith lists, i.fits document = true := by
  refine ⟨fun h lists i hi => ?_, fun h => h _⟩
  rcases List.mem_append.1 hi with hrule | hcommon
  · obtain ⟨n, hn, hi⟩ := List.mem_flatMap.1 hrule
    have hown : ∀ j ∈ ruleItems (ruleName n) (listsOf document n), j.fits document = true := fun j hj =>
      h j (List.mem_append_left _ (List.mem_flatMap.2 ⟨n, hn, hj⟩))
    rcases List.mem_append.1 hi with hfixed | hlist
    · exact hown i (List.mem_append_left _ hfixed)
    · obtain ⟨list, -, rfl⟩ := List.mem_map.1 hlist
      cases hat : document.at? [ruleName n, "customKeywords", list] with
      | none => exact fits_of_absent hat
      | some v =>
        refine hown _ (List.mem_append_right _ (List.mem_map.2 ⟨list, ?_, rfl⟩))
        have hlookup := (document.lookup_entriesAt [ruleName n, "customKeywords"] list).trans hat
        exact List.mem_map.2 ⟨(list, v), mem_of_lookup hlookup, rfl⟩
  · exact h i (List.mem_append_right _ hcommon)

/-- Whether a shape admits a mapping does not depend on its entries. -/
theorem admits_mapping (shape : Shape) (entries others : List (String × Value)) :
    shape.admits (.mapping entries) = shape.admits (.mapping others) := by
  cases shape with
  | mapping => exact (Bool.or_true _).trans (Bool.or_true _).symm
  | _ => rfl

/-- An item that fits below fits the two documents laid over each other if it fits above. -/
theorem fits_merge {base uppers : List (String × Value)} {i : Item} (once : KeysOnce (.mapping uppers))
    (hbase : i.fits (.mapping base) = true) :
    i.fits (.mapping (merge base uppers)) = i.fits (.mapping uppers) := by
  have hrows : OverridesAt (.mapping base) (.mapping uppers) (.mapping (merge base uppers)) i.path :=
    overridesAt_merge once i.path
  cases hupper : (mapping uppers).at? i.path with
  | none =>
    rw [fits_of_absent hupper]
    by_cases huncovered : Uncovered (.mapping base) (.mapping uppers) i.path
    · rw [Item.fits, hrows.fromLower hupper huncovered]
      exact hbase
    · exact fits_of_absent (hrows.fromNeither hupper huncovered)
  | some v =>
    rw [fits_eq hupper]
    by_cases hboth : v.entries? = none ∨ ¬(mapping base).HasMapping i.path
    · exact fits_eq (hrows.fromUpper v hupper hboth)
    · rw [not_or, Classical.not_not] at hboth
      obtain ⟨hv, lowers, hlower⟩ := hboth
      cases v with
      | mapping entries =>
        rw [fits_eq (hrows.fromBoth lowers entries hlower hupper)]
        exact admits_mapping i.shape _ _
      | _ => exact absurd rfl hv

end Schema

namespace Settings

open Value

/-- Laying settings over valid ones neither makes nor hides a mistake: what comes out is valid exactly if the
settings above are valid by themselves. -/
theorem read_merge_iff {base uppers : List (String × Value)} (once : KeysOnce (.mapping uppers))
    (valid : ∃ s, read (.mapping base) = .ok s) :
    (∃ s, read (.mapping (merge base uppers)) = .ok s) ↔ ∃ s, read (.mapping uppers) = .ok s := by
  rw [(Schema.read_follows _).ok_iff, Schema.forall_items_fit_iff] at valid ⊢
  rw [(Schema.read_follows _).ok_iff, Schema.forall_items_fit_iff]
  have hfits (lists : Nat → List String) : ∀ i ∈ Schema.itemsWith lists,
      i.fits (.mapping (merge base uppers)) = i.fits (.mapping uppers) :=
    fun i hi => Schema.fits_merge once (valid lists i hi)
  constructor
  · intro h lists i hi
    rw [← hfits lists i hi]
    exact h lists i hi
  · intro h lists i hi
    rw [hfits lists i hi]
    exact h lists i hi

/-- The settings of the packaged document can be read. -/
theorem exists_read_defaults : ∃ s, read (.mapping Defaults.entries) = .ok s := ⟨_, rfl⟩

/-- A word where a list of words is asked for: the mistake is found in the settings laid over the packaged
ones too. -/
theorem read_merge_iff_keywords :
    let uppers : List (String × Value) :=
      [("rule1", .mapping [("whitelist", .mapping [("keywords", .string "view")])])]
    KeysOnce (.mapping uppers) ∧ (∃ s, read (.mapping Defaults.entries) = .ok s) ∧
      ¬∃ s, read (.mapping (merge Defaults.entries uppers)) = .ok s := by
  intro uppers
  have once : KeysOnce (.mapping uppers) := .singleton _ (.singleton _ (.singleton _ (.plain rfl)))
  have hmistake : ¬∃ s, read (.mapping uppers) = .ok s := by
    rintro ⟨s, hs⟩
    cases hs
  exact ⟨once, exists_read_defaults, fun h => hmistake ((read_merge_iff once exists_read_defaults).1 h)⟩

end Settings

end UxLint
