import UxLint.Config.Merge

/-!
# Documents laid over each other

A row of keys leads from a document to the values in it (`Value.at?`). Laying one document over another
decides each row of keys on its own: the upper document has its way where it holds something, unless both
hold mappings there, and the lower one shows through where the upper one holds nothing and covers nothing
(`OverridesAt`). The order of the entries is settled too, so laying a document over nothing, nothing over a
document, or a document over what it was laid over already, gives back what was there (`merge_overrides`).
-/

set_option autoImplicit false

namespace UxLint.Value

/-! ## Entries -/

section Entries

variable {entries : List (String × Value)} {key other : String} {v : Value}

/-- A lookup asks the first entry and then the others. -/
theorem lookup_cons (e : String × Value) (entries : List (String × Value)) (key : String) :
    lookup (e :: entries) key = if e.1 = key then some e.2 else lookup entries key := by
  by_cases h : e.1 = key <;> simp [lookup, h]

/-- A key that is not there has no value. -/
theorem lookup_eq_none (h : key ∉ entries.map (·.1)) : lookup entries key = none := by
  induction entries with
  | nil => rfl
  | cons e entries ih =>
    rw [List.map_cons, List.mem_cons, not_or] at h
    rw [lookup_cons, if_neg (Ne.symm h.1), ih h.2]

/-- A value that is looked up stands in an entry. -/
theorem mem_of_lookup (h : lookup entries key = some v) : (key, v) ∈ entries := by
  induction entries with
  | nil => cases h
  | cons e entries ih =>
    rw [lookup_cons] at h
    split at h
    · next he =>
      cases h
      rw [← he]
      exact List.mem_cons_self
    · exact List.mem_cons_of_mem e (ih h)

/-- What was put under a key is found there. -/
theorem lookup_put_same (key : String) (v : Value) (entries : List (String × Value)) :
    lookup (put key v entries) key = some v := by
  induction entries with
  | nil => simp [put, lookup_cons]
  | cons e entries ih =>
    by_cases he : e.1 = key
    · simp [put, he, lookup_cons]
    · simp [put, he, lookup_cons, ih]

/-- What was put under a key changes nothing under others. -/
theorem lookup_put_other (h : other ≠ key) :
    lookup (put key v entries) other = lookup entries other := by
  induction entries with
  | nil => simp [put, lookup, Ne.symm h]
  | cons e entries ih =>
    by_cases he : e.1 = key
    · simp [put, he, lookup_cons, Ne.symm h]
    · simp [put, he, lookup_cons, ih]

/-- Putting what stands under a key already changes nothing. -/
theorem put_of_lookup (h : lookup entries key = some v) : put key v entries = entries := by
  induction entries with
  | nil => cases h
  | cons e entries ih =>
    rw [lookup_cons] at h
    by_cases he : e.1 = key
    · rw [if_pos he] at h
      cases h
      simp [put, ← he]
    · rw [if_neg he] at h
      simp [put, he, ih h]

/-- Under a new key a value is put last. -/
theorem put_of_not_mem (h : key ∉ entries.map (·.1)) : put key v entries = entries ++ [(key, v)] := by
  induction entries with
  | nil => rfl
  | cons e entries ih =>
    rw [List.map_cons, List.mem_cons, not_or] at h
    simp [put, Ne.symm h.1, ih h.2]

end Entries

/-- No mapping of the value holds a key twice. -/
inductive KeysOnce : Value → Prop where
  | plain {v : Value} (noMapping : v.entries? = none) : KeysOnce v
  | mapping {entries : List (String × Value)} (once : (entries.map (·.1)).Nodup)
      (below : ∀ e ∈ entries, KeysOnce e.2) : KeysOnce (.mapping entries)

namespace KeysOnce

variable {entries : List (String × Value)} {key : String} {v : Value}

/-- A mapping with one entry has every key once if its value does. -/
theorem singleton (key : String) (h : KeysOnce v) : KeysOnce (.mapping [(key, v)]) :=
  .mapping (List.pairwise_singleton _ _) (List.forall_mem_singleton.2 h)

/-- The keys of such a mapping differ. -/
theorem nodup (h : KeysOnce (.mapping entries)) : (entries.map (·.1)).Nodup := by
  cases h with
  | plain noMapping => cases noMapping
  | mapping once below => exact once

/-- The values of such a mapping have every key once. -/
theorem lookup (h : KeysOnce (.mapping entries)) (hv : lookup entries key = some v) : KeysOnce v := by
  cases h with
  | plain noMapping => cases noMapping
  | mapping once below => exact below _ (mem_of_lookup hv)

end KeysOnce

/-! ## Laying entries over entries -/

/-- To lay a mapping over a mapping is to merge their entries. -/
theorem overlay_mapping (base uppers : List (String × Value)) :
    overlay (some (.mapping base)) (.mapping uppers) = .mapping (merge base uppers) := by
  rw [overlay]

/-- Unless there are mappings above and below, the upper value stays as it is. -/
theorem overlay_eq_upper {lower : Option Value} {upper : Value}
    (h : lower.bind entries? = none ∨ upper.entries? = none) : overlay lower upper = upper := by
  cases upper with
  | mapping uppers =>
    have hlower : lower.bind entries? = none := h.resolve_right nofun
    rw [overlay]
    intro base hbase
    rw [hbase] at hlower
    cases hlower
  | _ => rw [overlay]; exact nofun

/-- What stands under a key after entries were laid over others. -/
theorem lookup_merge {base uppers : List (String × Value)} (once : (uppers.map (·.1)).Nodup)
    (key : String) : lookup (merge base uppers) key =
      ((lookup uppers key).map (overlay (lookup base key))).or (lookup base key) := by
  induction uppers generalizing base with
  | nil => rw [merge]; rfl
  | cons e uppers ih =>
    obtain ⟨hnew, hrest⟩ := List.nodup_cons.1 once
    rw [merge, ih hrest, lookup_cons]
    by_cases he : e.1 = key
    · rw [if_pos he, ← he, lookup_eq_none hnew, lookup_put_same]
      rfl
    · rw [if_neg he, lookup_put_other (Ne.symm he)]

/-- To lay no entries over some leaves them. -/
theorem merge_nil (base : List (String × Value)) : merge base [] = base := by
  rw [merge]

/-- Entries laid over others whose keys they do not hold follow them. -/
theorem merge_of_disjoint {base uppers : List (String × Value)} (once : (uppers.map (·.1)).Nodup)
    (new : ∀ key ∈ uppers.map (·.1), key ∉ base.map (·.1)) : merge base uppers = base ++ uppers := by
  induction uppers generalizing base with
  | nil => rw [merge_nil, List.append_nil]
  | cons e uppers ih =>
    obtain ⟨hnew, hrest⟩ := List.nodup_cons.1 once
    have hbase : e.1 ∉ base.map (·.1) := new e.1 List.mem_cons_self
    have hvalue : overlay (lookup base e.1) e.2 = e.2 := by
      rw [lookup_eq_none hbase]
      exact overlay_eq_upper (.inl rfl)
    rw [merge, hvalue, put_of_not_mem hbase, ih hrest, List.append_assoc, List.singleton_append]
    intro key hkey hmem
    rw [List.map_append, List.mem_append] at hmem
    rcases hmem with hmem | hmem
    · exact new key (List.mem_cons_of_mem _ hkey) hmem
    · obtain rfl : key = e.1 := by simpa using hmem
      exact hnew hkey

/-- To lay entries over none yields them. -/
theorem nil_merge {uppers : List (String × Value)} (once : (uppers.map (·.1)).Nodup) :
    merge [] uppers = uppers :=
  merge_of_disjoint once fun _ _ => List.not_mem_nil

/-- Entries change nothing where what they would put stands already. -/
theorem merge_eq_self {base uppers : List (String × Value)}
    (settled : ∀ e ∈ uppers, ∃ v, lookup base e.1 = some v ∧ overlay (some v) e.2 = v) :
    merge base uppers = base := by
  induction uppers with
  | nil => exact merge_nil base
  | cons e uppers ih =>
    obtain ⟨v, hlookup, hvalue⟩ := settled e List.mem_cons_self
    rw [merge, hlookup, hvalue, put_of_lookup hlookup]
    exact ih fun e' he' => settled e' (List.mem_cons_of_mem e he')

/-- An entry is found under its key if no other has that key. -/
theorem lookup_of_mem {entries : List (String × Value)} (once : (entries.map (·.1)).Nodup)
    {e : String × Value} (he : e ∈ entries) : lookup entries e.1 = some e.2 := by
  induction entries with
  | nil => cases he
  | cons d entries ih =>
    obtain ⟨hnew, hrest⟩ := List.nodup_cons.1 once
    rw [lookup_cons]
    rcases List.mem_cons.1 he with rfl | hmem
    · rw [if_pos rfl]
    · have hother : d.1 ≠ e.1 := by
        intro heq
        exact hnew (List.mem_map.2 ⟨e, hmem, heq.symm⟩)
      rw [if_neg hother, ih hrest hmem]

/-- Laying a value over what it was laid over already changes nothing. -/
theorem overlay_overlay {upper : Value} (once : KeysOnce upper) (lower : Option Value) :
    overlay (some (overlay lower upper)) upper = overlay lower upper := by
  induction once generalizing lower with
  | plain noMapping => rw [overlay_eq_upper (.inr noMapping), overlay_eq_upper (.inr noMapping)]
  | @mapping uppers hkeys below ih =>
    have hsettled (base : List (String × Value)) :
        merge (merge base uppers) uppers = merge base uppers := by
      refine merge_eq_self fun e he => ⟨overlay (lookup base e.1) e.2, ?_, ih e he _⟩
      rw [lookup_merge hkeys, lookup_of_mem hkeys he]
      rfl
    by_cases hlower : ∃ base, lower = some (.mapping base)
    · obtain ⟨base, rfl⟩ := hlower
      rw [overlay_mapping, overlay_mapping, hsettled]
    · have hsame : overlay lower (.mapping uppers) = .mapping uppers := by
        refine overlay_eq_upper (.inl ?_)
        rcases lower with _ | v
        · rfl
        · cases v <;> first | rfl | exact absurd ⟨_, rfl⟩ hlower
      -- Over nothing the entries are laid over no entries.
      have hnil := hsettled []
      rw [nil_merge hkeys] at hnil
      rw [hsame, overlay_mapping, hnil]

/-- To lay entries over what they were laid over already changes nothing. -/
theorem merge_merge {uppers : List (String × Value)} (once : KeysOnce (.mapping uppers))
    (base : List (String × Value)) : merge (merge base uppers) uppers = merge base uppers := by
  have hmerge := overlay_overlay once (some (.mapping base))
  rw [overlay_mapping, overlay_mapping, mapping.injEq] at hmerge
  exact hmerge

/-! ## Rows of keys -/

/-- The value that a row of keys leads to. -/
def at? (v : Value) : List String → Option Value
  | [] => some v
  | key :: path => (v.entries?.bind fun entries => lookup entries key).bind fun w => w.at? path

section Rows

variable {entries : List (String × Value)} {v : Value} {key : String} {path : List String}

/-- At the empty path stands the value itself. -/
theorem at?_nil (v : Value) : v.at? [] = some v := rfl

/-- A path into a mapping goes on below the value under its first key. -/
theorem at?_mapping (entries : List (String × Value)) (key : String) (path : List String) :
    (mapping entries).at? (key :: path) = (lookup entries key).bind fun w => w.at? path := rfl

/-- A path goes on below a value that is found. -/
theorem at?_of_lookup (h : lookup entries key = some v) (path : List String) :
    (mapping entries).at? (key :: path) = v.at? path := by
  rw [at?_mapping, h]
  rfl

/-- Below an absent key nothing stands. -/
theorem at?_of_absent (h : lookup entries key = none) (path : List String) :
    (mapping entries).at? (key :: path) = none := by
  rw [at?_mapping, h]
  rfl

/-- Below a value that is no mapping nothing stands. -/
theorem at?_of_noMapping (h : v.entries? = none) (key : String) (path : List String) :
    v.at? (key :: path) = none := by
  rw [at?, h]
  rfl

/-- A path in two parts is followed part by part. -/
theorem at?_append (v : Value) (path rest : List String) :
    v.at? (path ++ rest) = (v.at? path).bind fun w => w.at? rest := by
  induction path generalizing v with
  | nil => rfl
  | cons key path ih =>
    simp only [List.cons_append, at?, Option.bind_assoc, ih]

/-- Whether a row of keys leads to a mapping. -/
def HasMapping (v : Value) (path : List String) : Prop :=
  ∃ entries, v.at? path = some (.mapping entries)

/-- Where something stands below a path, there is a mapping at it. -/
theorem hasMapping_of_at?_append {rest : List String} {w : Value} (hrest : rest ≠ [])
    (h : v.at? (path ++ rest) = some w) : v.HasMapping path := by
  rw [at?_append] at h
  obtain ⟨u, hu, hw⟩ := Option.bind_eq_some_iff.1 h
  cases rest with
  | nil => exact absurd rfl hrest
  | cons key rest =>
    cases u with
    | mapping entries => exact ⟨entries, hu⟩
    | _ => cases hw

end Rows

/-- The upper document leaves a row of keys to the lower one: each shorter row leads nowhere in the upper
document, or to mappings in both. -/
def Uncovered (base upper : Value) (path : List String) : Prop :=
  ∀ above, above <+: path → above ≠ path →
    upper.at? above = none ∨ (upper.HasMapping above ∧ base.HasMapping above)

/-- What a row of keys leads to after one document was laid over another. -/
structure OverridesAt (base upper merged : Value) (path : List String) : Prop where
  /-- What the upper document holds, unless there are mappings in both. -/
  fromUpper : ∀ v, upper.at? path = some v → v.entries? = none ∨ ¬base.HasMapping path →
    merged.at? path = some v
  /-- One mapping laid over the other, where both documents hold one. -/
  fromBoth : ∀ lowers uppers, base.at? path = some (.mapping lowers) →
    upper.at? path = some (.mapping uppers) → merged.at? path = some (.mapping (merge lowers uppers))
  /-- What the lower document holds, where the upper one holds nothing and covers nothing. -/
  fromLower : upper.at? path = none → Uncovered base upper path → merged.at? path = base.at? path
  /-- Nothing, where the upper document holds nothing and covers what there was. -/
  fromNeither : upper.at? path = none → ¬Uncovered base upper path → merged.at? path = none

section Overriding

variable {base uppers entries : List (String × Value)} {key : String} {path : List String} {v : Value}

/-- What stands below a key that is absent above is not covered. -/
theorem uncovered_of_absent (h : lookup uppers key = none) :
    Uncovered (.mapping base) (.mapping uppers) (key :: path) := by
  intro above habove _
  cases above with
  | nil => exact .inr ⟨⟨uppers, rfl⟩, base, rfl⟩
  | cons other above =>
    obtain ⟨rfl, -⟩ := List.cons_prefix_cons.1 habove
    exact .inl (at?_of_absent h above)

/-- Below a key that both have, what is covered is told by the values there. -/
theorem uncovered_cons_iff {lower upper : Value} (hlower : lookup base key = some lower)
    (hupper : lookup uppers key = some upper) :
    Uncovered (.mapping base) (.mapping uppers) (key :: path) ↔ Uncovered lower upper path := by
  have hstep (above : List String) :
      ((mapping uppers).at? (key :: above) = none ∨
          ((mapping uppers).HasMapping (key :: above) ∧ (mapping base).HasMapping (key :: above))) ↔
        (upper.at? above = none ∨ (upper.HasMapping above ∧ lower.HasMapping above)) := by
    unfold HasMapping
    rw [at?_of_lookup hupper, at?_of_lookup hlower]
  constructor
  · intro h above habove hne
    refine (hstep above).1 (h (key :: above) (List.cons_prefix_cons.2 ⟨rfl, habove⟩) ?_)
    exact fun heq => hne (List.cons.inj heq).2
  · intro h above habove hne
    cases above with
    | nil => exact .inr ⟨⟨uppers, rfl⟩, base, rfl⟩
    | cons other above =>
      obtain ⟨rfl, hrest⟩ := List.cons_prefix_cons.1 habove
      exact (hstep above).2 (h above hrest fun heq => hne (heq ▸ rfl))

/-- There is a mapping under a key if its value has entries. -/
theorem hasMapping_singleton : (mapping entries).HasMapping [key] ↔
    (lookup entries key).bind entries? ≠ none := by
  unfold HasMapping
  rw [at?_mapping]
  cases lookup entries key with
  | none => simp
  | some v => cases v <;> simp [at?_nil, entries?]

/-- A value that is not laid over a mapping covers all rows of keys that go on behind it. -/
theorem not_uncovered (hupper : lookup uppers key = some v) (hne : path ≠ [])
    (hone : (lookup base key).bind entries? = none ∨ v.entries? = none) :
    ¬Uncovered (.mapping base) (.mapping uppers) (key :: path) := by
  intro h
  have hat : (mapping uppers).at? [key] = some v := at?_of_lookup hupper []
  have hshorter : [key] ≠ key :: path := fun heq => hne (List.cons.inj heq).2.symm
  rcases h [key] ⟨path, rfl⟩ hshorter with hnone | ⟨⟨entries, hentries⟩, hbase⟩
  · rw [hat] at hnone
    cases hnone
  · rw [hat] at hentries
    cases hentries
    exact hone.elim (hasMapping_singleton.1 hbase) nofun

/-- Under a key that the upper document does not hold, the lower one shows. -/
theorem overridesAt_absent (once : KeysOnce (.mapping uppers)) (hupper : lookup uppers key = none) :
    OverridesAt (.mapping base) (.mapping uppers) (.mapping (merge base uppers)) (key :: path) := by
  have hnone : (mapping uppers).at? (key :: path) = none := at?_of_absent hupper path
  have hshows : (mapping (merge base uppers)).at? (key :: path) = (mapping base).at? (key :: path) := by
    rw [at?_mapping, at?_mapping, lookup_merge once.nodup, hupper]
    rfl
  refine ⟨?_, ?_, fun _ _ => hshows, fun _ h => absurd (uncovered_of_absent hupper) h⟩
  · intro v hv
    rw [hnone] at hv
    cases hv
  · intro _ _ _ huppers
    rw [hnone] at huppers
    cases huppers

/-- Under a key with a value that is not laid over a mapping, only the upper document counts. -/
theorem overridesAt_upper (once : KeysOnce (.mapping uppers)) (hupper : lookup uppers key = some v)
    (hone : (lookup base key).bind entries? = none ∨ v.entries? = none) :
    OverridesAt (.mapping base) (.mapping uppers) (.mapping (merge base uppers)) (key :: path) := by
  have hmerge : lookup (merge base uppers) key = some v := by
    rw [lookup_merge once.nodup, hupper, Option.map_some, overlay_eq_upper hone]
    rfl
  have hstays : (mapping (merge base uppers)).at? (key :: path) =
      (mapping uppers).at? (key :: path) := by
    rw [at?_of_lookup hmerge, at?_of_lookup hupper]
  refine ⟨fun w hw _ => hstays.trans hw, ?_, ?_, fun h _ => hstays.trans h⟩
  · intro lowers uppers' hlowers huppers
    rw [at?_of_lookup hupper] at huppers
    cases path with
    | nil =>
      cases huppers
      exact absurd (hone.resolve_right nofun) (hasMapping_singleton.1 ⟨lowers, hlowers⟩)
    | cons next rest =>
      have hbase : (mapping base).HasMapping [key] :=
        hasMapping_of_at?_append (List.cons_ne_nil next rest) hlowers
      rw [at?_of_noMapping (hone.resolve_left (hasMapping_singleton.1 hbase))] at huppers
      cases huppers
  · intro hnone huncovered
    have hne : path ≠ [] := by
      rintro rfl
      rw [at?_of_lookup hupper] at hnone
      cases hnone
    exact absurd huncovered (not_uncovered hupper hne hone)

/-- Under a key with mappings in both documents, all goes as it goes in these. -/
theorem overridesAt_behind {lowers uppers' : List (String × Value)} (once : KeysOnce (.mapping uppers))
    (hbase : lookup base key = some (.mapping lowers)) (hupper : lookup uppers key = some (.mapping uppers'))
    (h : OverridesAt (.mapping lowers) (.mapping uppers') (.mapping (merge lowers uppers')) path) :
    OverridesAt (.mapping base) (.mapping uppers) (.mapping (merge base uppers)) (key :: path) := by
  have hmerge : lookup (merge base uppers) key = some (.mapping (merge lowers uppers')) := by
    rw [lookup_merge once.nodup, hupper, hbase, Option.map_some, overlay_mapping]
    rfl
  have hmapping : (mapping base).HasMapping (key :: path) ↔ (mapping lowers).HasMapping path := by
    unfold HasMapping
    rw [at?_of_lookup hbase]
  constructor
  · rw [at?_of_lookup hupper, at?_of_lookup hmerge, hmapping]
    exact h.fromUpper
  · rw [at?_of_lookup hupper, at?_of_lookup hmerge, at?_of_lookup hbase]
    exact h.fromBoth
  · rw [at?_of_lookup hupper, at?_of_lookup hmerge, at?_of_lookup hbase,
      uncovered_cons_iff hbase hupper]
    exact h.fromLower
  · rw [at?_of_lookup hupper, at?_of_lookup hmerge, uncovered_cons_iff hbase hupper]
    exact h.fromNeither

/-- Laying entries over entries overrides row by row. The induction follows the row of keys: behind its
first key there are two mappings again, or only one of the documents decides. -/
theorem overridesAt_merge (once : KeysOnce (.mapping uppers)) (path : List String) :
    OverridesAt (.mapping base) (.mapping uppers) (.mapping (merge base uppers)) path := by
  induction path generalizing base uppers with
  | nil =>
    refine ⟨?_, ?_, nofun, nofun⟩
    · intro v hv hone
      cases hv
      exact hone.elim nofun fun hno => absurd ⟨base, rfl⟩ hno
    · intro lowers uppers' hlowers huppers
      cases hlowers
      cases huppers
      rfl
  | cons key path ih =>
    cases hupper : lookup uppers key with
    | none => exact overridesAt_absent once hupper
    | some upper =>
      cases hbase : (lookup base key).bind entries? with
      | none => exact overridesAt_upper once hupper (.inl hbase)
      | some lowers =>
        obtain ⟨lower, hlower, hlowers⟩ := Option.bind_eq_some_iff.1 hbase
        cases upper with
        | mapping uppers' =>
          cases lower with
          | mapping entries =>
            exact overridesAt_behind once hlower hupper (ih (once.lookup hupper))
          | _ => cases hlowers
        | _ => exact overridesAt_upper once hupper (.inr rfl)

/-- An empty mapping above leaves a mapping below as it is. -/
theorem OverridesAt.of_empty {base upper merged : Value} {lowers : List (String × Value)}
    (h : OverridesAt base upper merged path) (hbase : base.at? path = some (.mapping lowers))
    (hupper : upper.at? path = some (.mapping [])) : merged.at? path = some (.mapping lowers) := by
  rw [h.fromBoth lowers [] hbase hupper, merge_nil]

end Overriding

/-- Laying one document over another overrides row of keys by row of keys. A mapping without entries takes nothing
away from a mapping, and a document that was laid over, or is laid over, an empty one comes back, as does one that is
laid over what it was laid over already. -/
theorem merge_overrides {base uppers : List (String × Value)} (once : KeysOnce (.mapping uppers)) :
    (∀ path, OverridesAt (.mapping base) (.mapping uppers) (.mapping (merge base uppers)) path) ∧
      (∀ path lowers, (mapping base).at? path = some (.mapping lowers) →
        (mapping uppers).at? path = some (.mapping []) →
          (mapping (merge base uppers)).at? path = some (.mapping lowers)) ∧
      merge base [] = base ∧ merge [] uppers = uppers ∧
      merge (merge base uppers) uppers = merge base uppers := by
  have hrows (path : List String) :
      OverridesAt (.mapping base) (.mapping uppers) (.mapping (merge base uppers)) path :=
    overridesAt_merge once path
  refine ⟨hrows, ?_, merge_nil base, nil_merge once.nodup, merge_merge once base⟩
  intro path lowers hbase hupper
  exact (hrows path).of_empty hbase hupper

/-- A setting laid over the settings of its section: the lists above replace those below, and what is not
set above stays. -/
theorem merge_overrides_whitelist :
    let base : List (String × Value) := [("rule1", .mapping [("enabled", .bool true),
      ("whitelist", .mapping [("keywords", .list [.string "a", .string "b"]), ("paths", .list [])])])]
    let uppers : List (String × Value) :=
      [("rule1", .mapping [("whitelist", .mapping [("keywords", .list [.string "c"])])])]
    let merged := mapping (merge base uppers)
    KeysOnce (.mapping uppers) ∧
      merged.at? ["rule1", "whitelist", "keywords"] = some (.list [.string "c"]) ∧
      merged.at? ["rule1", "whitelist", "paths"] = some (.list []) ∧
      merged.at? ["rule1", "whitelist", "keywords", "c"] = none ∧
      merge (merge base uppers) uppers = merge base uppers := by
  intro base uppers merged
  have once : KeysOnce (.mapping uppers) := .singleton _ (.singleton _ (.singleton _ (.plain rfl)))
  obtain ⟨hrows, -, -, -, hagain⟩ := @merge_overrides base uppers once
  refine ⟨once, ?_, ?_, ?_, hagain⟩
  · exact (hrows _).fromUpper _ rfl (.inl rfl)
  · refine (hrows ["rule1", "whitelist", "paths"]).fromLower rfl ?_
    rw [uncovered_cons_iff rfl rfl, uncovered_cons_iff rfl rfl]
    exact uncovered_of_absent rfl
  · refine (hrows ["rule1", "whitelist", "keywords", "c"]).fromNeither rfl ?_
    rw [uncovered_cons_iff rfl rfl, uncovered_cons_iff rfl rfl]
    exact not_uncovered rfl (List.cons_ne_nil _ _) (.inr rfl)

end UxLint.Value
