import UxLint.Guidance.Packaged
import UxLint.Proofs.Text.Numerals
import UxLint.Proofs.Text.Trimming

/-!
# Asking for a rule

A rule is asked for by its number, by its key or by its symbol. In a registry whose entries are mappings, the
question fails only on digits that are no numeral; where every key that looks like the key of a rule is one, the
answer is the number of an entry; and the number and the key of an entry lead to it in whatever case
and between whatever blanks they are written (`find?_answers`). Characters that count as digits without being decimal
ones make the question fail, and a key with a zero too many leads to a rule without an entry (`find?_astray`).
-/

set_option autoImplicit false

namespace UxLint

namespace Text

/-- A numeral: decimal digits, not more than are read. -/
def IsNumeral (t : Text) : Prop := t.length ≤ longestNumeral ∧ ∀ c ∈ t, isDecimal c = true

/-- Digits are read as a number exactly if they write it and are not too many. -/
theorem wholeNumber_eq_ok_iff {t : Text} {n : Nat} :
    wholeNumber t = .ok n ↔ decimalNumber? t = some n ∧ t.length ≤ longestNumeral := by
  refine ⟨fun h => ?_, fun h => wholeNumber_of_decimalNumber? h.1 h.2⟩
  unfold wholeNumber at h
  dsimp only at h
  split at h
  · cases h
  · next hshort =>
    cases hnumber : decimalNumber? t with
    | none =>
      rw [hnumber] at h
      cases h
    | some m =>
      rw [hnumber] at h
      cases h
      rw [List.takeWhile_eq_self_iff.2 (isDecimal_of_decimalNumber? hnumber).2] at hshort
      exact ⟨rfl, Nat.not_lt.1 hshort⟩

/-- A text with at least one character is read as a number exactly if it is a numeral. -/
theorem exists_wholeNumber_iff {t : Text} (hne : t ≠ []) : (∃ n, wholeNumber t = .ok n) ↔ IsNumeral t := by
  simp only [wholeNumber_eq_ok_iff, exists_and_right, ← Option.isSome_iff_exists,
    decimalNumber?_isSome_iff]
  exact ⟨fun h => ⟨h.2, h.1.2⟩, fun h => ⟨⟨hne, h.2⟩, h.1⟩⟩

/-- The lower case of basic characters is that of each of them. -/
theorem lower_of_basic {t : Text} (h : ∀ c ∈ t, isBasic c = true) : lower t = t.map Char.toLower := by
  have hfrom (before t : Text) (h : ∀ c ∈ t, isBasic c = true) :
      lowerFrom before t = t.map Char.toLower := by
    induction t generalizing before with
    | nil => rfl
    | cons c t ih =>
      have hbasic := h c List.mem_cons_self
      have hsigma : (c == 'Σ') = false := by
        rw [beq_eq_false_iff_ne]
        rintro rfl
        exact absurd hbasic (by decide)
      rw [lowerFrom, hsigma, lowerChar, hbasic, ih (c :: before) fun d hd => h d (List.mem_cons_of_mem c hd)]
      rfl
  exact hfrom [] t h

end Text

namespace Registry

/-- Every entry is a mapping. -/
def HoldsMappings (r : Registry) : Prop := ∀ e ∈ r.entries, ∃ entry, e.2 = .mapping entry

/-- The registry has an entry of a rule. -/
def HasRule (r : Registry) (n : Nat) : Prop := ∃ e ∈ r.entries, e.1 = ruleKey n

/-- What is looked for: what is asked for in lower case, without blanks around it and the word of a key. -/
def wanted (asked : String) : Text := withoutKeyWord (Text.lower (Text.trim asked.toList))

/-- The digits in the key of an entry with a symbol. -/
def symbolDigits? (symbol : String) (e : String × Value) : Option Text :=
  if ((e.2.entries?.bind fun entry => Value.lookup entry "symbol").bind Value.string?) == some symbol then
    keyDigits? e.1
  else none

/-- The digits that an answer is read from: those that are asked for, or those in the key of the first entry with
the symbol that is asked for. -/
def askedDigits? (r : Registry) (asked : String) : Option Text :=
  if isAllDigits (wanted asked) then some (wanted asked)
  else r.entries.findSome? (symbolDigits? (String.ofList (wanted asked)))

/-- A key that holds the digits of a rule writes its number as the registry looks it up. -/
def IsCanonical (key : String) : Prop :=
  ∀ digits, keyDigits? key = some digits → ∃ n, digits = Nat.toDigits 10 n

/-- The ways to ask for a rule by its number or its key. -/
inductive AsksFor (n : Nat) : String → Prop where
  | number {b b' : Text} (before : ∀ c ∈ b, Text.isBlank c = true)
      (behind : ∀ c ∈ b', Text.isBlank c = true) :
      AsksFor n (String.ofList (b ++ Nat.toDigits 10 n ++ b'))
  | key {b b' word : Text} (before : ∀ c ∈ b, Text.isBlank c = true)
      (behind : ∀ c ∈ b', Text.isBlank c = true) (spelled : word.map Char.toLower = "rule".toList) :
      AsksFor n (String.ofList (b ++ (word ++ Nat.toDigits 10 n) ++ b'))

variable {r : Registry} {asked symbol key : String} {n : Nat} {digits : Text}

/-! ## Keys -/

/-- The key of a rule is a word and the digits of its number. -/
theorem toList_ruleKey (n : Nat) : (ruleKey n).toList = "rule".toList ++ Nat.toDigits 10 n := by
  unfold ruleKey
  rw [String.toList_append]
  exact congrArg ("rule".toList ++ ·) String.toList_ofList

/-- The digits of a number are digits. -/
theorem isAllDigits_toDigits (n : Nat) : isAllDigits (Nat.toDigits 10 n) = true := by
  have hne : (Nat.toDigits 10 n).isEmpty = false := by simp [List.isEmpty_eq_false_iff]
  rw [isAllDigits, hne, Bool.not_false, Bool.true_and, List.all_eq_true]
  intro c hc
  rw [Text.isDigit, Text.isDecimal_of_mem_toDigits hc, Bool.true_or]

/-- A key has digits exactly if it is the word with digits behind it. -/
theorem keyDigits?_eq_some_iff :
    keyDigits? key = some digits ↔ key.toList = "rule".toList ++ digits ∧ isAllDigits digits = true := by
  unfold keyDigits? startsWith
  dsimp only
  rw [Option.ite_none_right_eq_some, Bool.and_eq_true, List.isPrefixOf_iff_prefix]
  constructor
  · rintro ⟨⟨⟨rest, hrest⟩, hall⟩, hdigits⟩
    cases hdigits
    rw [← hrest]
    exact ⟨rfl, hrest ▸ hall⟩
  · rintro ⟨hkey, hall⟩
    rw [hkey]
    exact ⟨⟨List.prefix_append _ _, hall⟩, rfl⟩

/-- A registry has a rule exactly if there is an entry under its key. -/
theorem hasRule_iff : r.HasRule n ↔ (Value.lookup r.entries (ruleKey n)).isSome = true := by
  unfold HasRule Value.lookup
  rw [Option.isSome_map, List.find?_isSome]
  simp only [beq_iff_eq]

/-- Digits are some. -/
theorem ne_nil_of_isAllDigits (h : isAllDigits digits = true) : digits ≠ [] := by
  rintro rfl
  cases h

/-! ## Answers -/

/-- The digits that are asked for are digits. -/
theorem isAllDigits_of_askedDigits? (h : r.askedDigits? asked = some digits) :
    isAllDigits digits = true := by
  unfold askedDigits? at h
  split at h
  · next hall =>
    cases h
    exact hall
  · obtain ⟨e, -, he⟩ := List.exists_of_findSome?_eq_some h
    exact (keyDigits?_eq_some_iff.1 (Option.ite_none_right_eq_some.1 he).2).2

/-- The first entry with a symbol and a number is the one whose number is read. -/
theorem findSymbol?_eq {entries : List (String × Value)}
    (h : ∀ e ∈ entries, ∃ entry, e.2 = .mapping entry) :
    findSymbol? symbol entries =
      match entries.findSome? (symbolDigits? symbol) with
      | none => .ok none
      | some digits => (numberOf digits).map some := by
  induction entries with
  | nil => rfl
  | cons e rest ih =>
    obtain ⟨key, value⟩ := e
    obtain ⟨entry, hentry⟩ := h (key, value) List.mem_cons_self
    dsimp only at hentry
    subst hentry
    have hrest := ih fun e he => h e (List.mem_cons_of_mem _ he)
    have hhere : symbolDigits? symbol (key, .mapping entry) =
        if (Value.lookup entry "symbol").bind Value.string? == some symbol then keyDigits? key else none :=
      rfl
    rw [findSymbol?, List.findSome?_cons, hhere]
    split
    · cases keyDigits? key with
      | none => exact hrest
      | some digits => rfl
    · exact hrest

/-- An answer is read from digits, and a number that is asked for must have an entry. -/
theorem find?_eq (hr : r.HoldsMappings) (asked : String) : r.find? asked =
    match r.askedDigits? asked with
    | none => .ok none
    | some digits => (numberOf digits).map fun (n : Nat) =>
        if isAllDigits (wanted asked) && !(Value.lookup r.entries (ruleKey n)).isSome then none
        else some n := by
  unfold find? askedDigits?
  change (if isAllDigits (wanted asked) = true then _ else _) = _
  cases isAllDigits (wanted asked) with
  | true =>
    rw [if_pos rfl, if_pos rfl]
    dsimp only
    congr 1
    funext n
    cases (Value.lookup r.entries (ruleKey n)).isSome <;> rfl
  | false =>
    rw [if_neg Bool.false_ne_true, if_neg Bool.false_ne_true, wanted, findSymbol?_eq hr]
    rfl

/-- The number of digits is the one that they write. -/
theorem numberOf_eq_ok_iff : numberOf digits = .ok n ↔ Text.wholeNumber digits = .ok n := by
  unfold numberOf
  cases Text.wholeNumber digits with
  | error e => exact ⟨nofun, nofun⟩
  | ok m => exact ⟨fun h => congrArg _ (Except.ok.inj h), fun h => congrArg _ (Except.ok.inj h)⟩

/-- The question fails exactly if the digits that its answer is read from are no numeral. -/
theorem find?_fails_iff (hr : r.HoldsMappings) (asked : String) :
    (∃ error, r.find? asked = .error error) ↔
      ∃ digits, r.askedDigits? asked = some digits ∧ ¬Text.IsNumeral digits := by
  rw [find?_eq hr]
  cases hdigits : r.askedDigits? asked with
  | none => simp
  | some digits =>
    have hne := ne_nil_of_isAllDigits (isAllDigits_of_askedDigits? hdigits)
    simp only [Option.some.injEq, exists_eq_left', ← Text.exists_wholeNumber_iff hne, ← numberOf_eq_ok_iff]
    cases numberOf digits with
    | error error => simp [Except.map]
    | ok n => simp [Except.map]

/-- Where the keys are canonical, an answer is the number of an entry. -/
theorem hasRule_of_find? (hr : r.HoldsMappings) (hkeys : ∀ e ∈ r.entries, IsCanonical e.1)
    (h : r.find? asked = .ok (some n)) : r.HasRule n := by
  rw [find?_eq hr] at h
  cases hdigits : r.askedDigits? asked with
  | none =>
    rw [hdigits] at h
    cases h
  | some digits =>
    rw [hdigits] at h
    dsimp only at h
    cases hnumber : numberOf digits with
    | error error =>
      rw [hnumber] at h
      cases h
    | ok m =>
      rw [hnumber] at h
      have hanswer : (if isAllDigits (wanted asked) && !(Value.lookup r.entries (ruleKey m)).isSome then none
        else some m) = some n := Except.ok.inj h
      split at hanswer
      · cases hanswer
      · next hfound =>
        cases hanswer
        cases hall : isAllDigits (wanted asked) with
        | true =>
          rw [hall, Bool.true_and, Bool.not_eq_true', Bool.not_eq_false] at hfound
          exact hasRule_iff.2 hfound
        | false =>
          -- The digits are those of a key, and the key is the one of the number that they write.
          rw [askedDigits?, hall, if_neg Bool.false_ne_true] at hdigits
          obtain ⟨e, he, hsymbol⟩ := List.exists_of_findSome?_eq_some hdigits
          have hkey := (Option.ite_none_right_eq_some.1 hsymbol).2
          obtain ⟨k, rfl⟩ := hkeys e he digits hkey
          have hread := (Text.wholeNumber_eq_ok_iff.1 (numberOf_eq_ok_iff.1 hnumber)).1
          rw [Text.decimalNumber?_toDigits, Option.some.injEq] at hread
          subst hread
          refine ⟨e, he, String.toList_injective ?_⟩
          rw [(keyDigits?_eq_some_iff.1 hkey).1, toList_ruleKey]

/-! ## Spellings -/

/-- No character comes behind its lower case. -/
theorem toNat_le_toLower (c : Char) : c.toNat ≤ c.toLower.toNat := by
  unfold Char.toLower
  split
  · next hupper =>
    have hbound : c.val.toNat ≤ 90 := UInt32.le_iff_toNat_le.1 hupper.2
    have hsum : (c.val + 32).toNat = c.val.toNat + 32 := by
      rw [UInt32.toNat_add]
      exact Nat.mod_eq_of_lt (by change c.val.toNat + 32 < 4294967296; omega)
    change c.val.toNat ≤ (c.val + 32).toNat
    omega
  · exact Nat.le_refl _

/-- Digits come early among the characters. -/
theorem toNat_le_of_isDigit {c : Char} (h : c.isDigit = true) : c.toNat ≤ 57 :=
  UInt32.le_iff_toNat_le.1 (of_decide_eq_true (Bool.and_eq_true_iff.1 h).2)

/-- Digits have no case. -/
theorem toLower_of_isDigit {c : Char} (h : c.isDigit = true) : c.toLower = c := by
  unfold Char.toLower
  refine dif_neg fun hupper => ?_
  have hlow : 65 ≤ c.toNat := UInt32.le_iff_toNat_le.1 hupper.1
  have hhigh := toNat_le_of_isDigit h
  omega

/-- A character that may stand in the number or the key of a rule. -/
structure IsPlain (c : Char) : Prop where
  basic : Text.isBasic c = true
  notBlank : Text.isBlank c = false

/-- The digits of a number are plain. -/
theorem isPlain_of_mem_toDigits {c : Char} (hc : c ∈ Nat.toDigits 10 n) : IsPlain c := by
  have hhigh := toNat_le_of_isDigit (Text.isDigit_of_mem_toDigits hc)
  refine ⟨decide_eq_true (by omega), Bool.eq_false_iff.2 fun hblank => ?_⟩
  have hdecimal := Text.isDecimal_of_mem_toDigits hc
  rw [Text.not_decimal_of_blank hblank] at hdecimal
  cases hdecimal

/-- The letters of the word are plain in either case. -/
theorem isPlain_of_spelled {word : Text} (h : word.map Char.toLower = "rule".toList) :
    ∀ c ∈ word, IsPlain c := by
  intro c hc
  have hlower : c.toLower ∈ "rule".toList := h ▸ List.mem_map_of_mem hc
  have hletters : ∀ d ∈ "rule".toList, d.toNat < 128 := by simp
  refine ⟨decide_eq_true ((toNat_le_toLower c).trans_lt (hletters _ hlower)), ?_⟩
  rw [← Bool.not_eq_true]
  intro hblank
  have hno : "rule".toList.contains c.toLower = false := by
    refine Text.eq_false_of_blank (q := fun c => "rule".toList.contains c.toLower) ?_ hblank
    decide
  rw [List.contains_iff_mem.2 hlower] at hno
  cases hno

/-- Between blanks, plain characters are what is left of a text. -/
theorem trim_of_plain {b b' t : Text} (hb : ∀ c ∈ b, Text.isBlank c = true)
    (hb' : ∀ c ∈ b', Text.isBlank c = true) (ht : ∀ c ∈ t, IsPlain c) : Text.trim (b ++ t ++ b') = t :=
  Text.trim_between hb hb' (fun c hc => (ht c (List.mem_of_head? hc)).notBlank)
    fun c hc => (ht c (List.mem_of_getLast? hc)).notBlank

/-- However a rule is asked for, it is its number that is looked for. -/
theorem wanted_of_asksFor (h : AsksFor n asked) : wanted asked = Nat.toDigits 10 n := by
  have hdigits : ∀ c ∈ Nat.toDigits 10 n, IsPlain c := fun c => isPlain_of_mem_toDigits
  have hlower : (Nat.toDigits 10 n).map Char.toLower = Nat.toDigits 10 n := by
    refine List.map_congr_left (g := id) (fun c hc => ?_) |>.trans (List.map_id _)
    exact toLower_of_isDigit (Text.isDigit_of_mem_toDigits hc)
  cases h with
  | number before behind =>
    rw [wanted, String.toList_ofList, trim_of_plain before behind hdigits,
      Text.lower_of_basic fun c hc => (hdigits c hc).basic, hlower, withoutKeyWord, if_neg]
    rw [List.isPrefixOf_iff_prefix]
    rintro ⟨rest, hrest⟩
    have hfirst : 'r' ∈ Nat.toDigits 10 n := hrest ▸ List.mem_cons_self
    exact absurd (Text.isDigit_of_mem_toDigits hfirst) (by decide)
  | @key b b' word before behind spelled =>
    have hplain : ∀ c ∈ word ++ Nat.toDigits 10 n, IsPlain c := by
      intro c hc
      rcases List.mem_append.1 hc with hc | hc
      · exact isPlain_of_spelled spelled c hc
      · exact hdigits c hc
    rw [wanted, String.toList_ofList, trim_of_plain before behind hplain,
      Text.lower_of_basic fun c hc => (hplain c hc).basic, List.map_append, spelled, hlower]
    rfl

/-- The number and the key of an entry lead to it. -/
theorem find?_of_asksFor (hr : r.HoldsMappings) (hrule : r.HasRule n) (hfits : Text.fitsNumeral n = true)
    (h : AsksFor n asked) : r.find? asked = .ok (some n) := by
  have hdigits : r.askedDigits? asked = some (Nat.toDigits 10 n) := by
    rw [askedDigits?, wanted_of_asksFor h, if_pos (isAllDigits_toDigits n)]
  have hnumber : numberOf (Nat.toDigits 10 n) = .ok n :=
    numberOf_eq_ok_iff.2 (Text.wholeNumber_toDigits hfits)
  rw [find?_eq hr, hdigits]
  dsimp only
  rw [hnumber, wanted_of_asksFor h, isAllDigits_toDigits, Except.map, hasRule_iff.1 hrule]
  rfl

/-- A question to a registry whose entries are mappings fails exactly if the digits that its answer is read from
are no numeral. Where the keys are canonical, an answer is the number of an entry. Whatever the keys, an entry
is found by its number and by its key, in any case and between any blanks, if the number can be read at all. -/
theorem find?_answers {r : Registry} (hr : r.HoldsMappings) :
    (∀ asked, (∃ error, r.find? asked = .error error) ↔
        ∃ digits, r.askedDigits? asked = some digits ∧ ¬Text.IsNumeral digits) ∧
      ((∀ e ∈ r.entries, IsCanonical e.1) → ∀ asked n, r.find? asked = .ok (some n) → r.HasRule n) ∧
      ∀ n, r.HasRule n → Text.fitsNumeral n = true → ∀ asked, AsksFor n asked →
        r.find? asked = .ok (some n) :=
  ⟨find?_fails_iff hr, fun hkeys _ _ => hasRule_of_find? hr hkeys,
    fun _ hrule hfits _ => find?_of_asksFor hr hrule hfits⟩

/-- The key of a rule is canonical. -/
theorem isCanonical_ruleKey (n : Nat) : IsCanonical (ruleKey n) := by
  intro digits hdigits
  rw [keyDigits?_eq_some_iff, toList_ruleKey] at hdigits
  exact ⟨n, (List.append_cancel_left hdigits.1).symm⟩

/-- The packaged registry holds mappings under keys of rules. -/
theorem packaged_entries : packaged.HoldsMappings ∧ ∀ e ∈ packaged.entries, IsCanonical e.1 := by
  have hshape : ∀ e ∈ packaged.entries, (∃ entry, e.2 = .mapping entry) ∧ ∃ n : Nat, e.1 = ruleKey n := by
    unfold packaged
    simp only [List.forall_mem_cons, List.not_mem_nil, false_imp_iff, implies_true, and_true]
    exact ⟨⟨⟨_, rfl⟩, 1, by decide⟩, ⟨⟨_, rfl⟩, 2, by decide⟩, ⟨⟨_, rfl⟩, 3, by decide⟩,
      ⟨⟨_, rfl⟩, 4, by decide⟩, ⟨_, rfl⟩, 5, by decide⟩
  refine ⟨fun e he => (hshape e he).1, fun e he => ?_⟩
  obtain ⟨n, hkey⟩ := (hshape e he).2
  rw [hkey]
  exact isCanonical_ruleKey n

/-- The third rule of the packaged registry is found by its key in capitals between blanks. -/
theorem find?_answers_packaged :
    packaged.HoldsMappings ∧ (∀ e ∈ packaged.entries, IsCanonical e.1) ∧ packaged.HasRule 3 ∧
      Text.fitsNumeral 3 = true ∧ AsksFor 3 " RULE3\n" ∧ packaged.find? " RULE3\n" = .ok (some 3) := by
  obtain ⟨hmappings, hkeys⟩ := packaged_entries
  have hrule : packaged.HasRule 3 := hasRule_iff.2 (by decide)
  have hfits : Text.fitsNumeral 3 = true := by decide
  have hasks : AsksFor 3 " RULE3\n" :=
    @AsksFor.key 3 [' '] ['\n'] "RULE".toList (List.forall_mem_singleton.2 (by decide))
      (List.forall_mem_singleton.2 (by decide)) (by decide)
  exact ⟨hmappings, hkeys, hrule, hfits, hasks, (find?_answers hmappings).2.2 3 hrule hfits _ hasks⟩

/-- A superscript two counts as a digit but writes no number, so asking the packaged registry for it fails. A key
with zeros before its number leads to a rule that has no entry. -/
theorem find?_astray :
    packaged.HoldsMappings ∧ packaged.find? "²" = .error (.notNumber (.notWhole "²")) ∧
      let padded : Registry := ⟨[("rule007", .mapping [("symbol", .string "x")])]⟩
      padded.HoldsMappings ∧ padded.find? "x" = .ok (some 7) ∧ ¬padded.HasRule 7 := by
  refine ⟨packaged_entries.1, ?_, ?_, ?_, ?_⟩
  · with_unfolding_all rfl
  · exact List.forall_mem_singleton.2 ⟨_, rfl⟩
  · with_unfolding_all rfl
  · rw [hasRule_iff]
    decide

end Registry

end UxLint
