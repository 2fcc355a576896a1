import UxLint.Proofs.Syntax.Comments

/-!
# Entries of an object literal

The keys of an object literal are collected in one pass over its children, each of which enters a value
under a key or nothing at all (`entryKey?`). A child whose key no other child has puts its entry between
those that are there without it, and leaves them as they are (`inserted_objectKeys`). A method enters
nothing.
-/

set_option autoImplicit false

namespace UxLint.Node

/-- The key under which a child of an object literal is entered, if it is entered at all. -/
def entryKey? (c : Node) : Option String :=
  if c.kind == "pair" then some c.pairKey
  else if c.kind == "shorthand_property_identifier" then some c.text
  else none

/-- One row of entries is another one with `e` put in, whose key the other one does not have. -/
inductive Inserted (e : String × Option Node) :
    List (String × Option Node) → List (String × Option Node) → Prop where
  | here {rest : List (String × Option Node)} (fresh : ∀ d ∈ rest, d.1 ≠ e.1) :
      Inserted e (e :: rest) rest
  | there {d : String × Option Node} {full rest : List (String × Option Node)} (other : d.1 ≠ e.1)
      (behind : Inserted e full rest) : Inserted e (d :: full) (d :: rest)

variable {e : String × Option Node} {full rest keys : List (String × Option Node)} {key : String}
  {value : Option Node} {c n : Node} {cs : List Node}

namespace Inserted

/-- With an entry inserted, a test holds of some entry if it did before or does of this one. -/
theorem any_eq (h : Inserted e full rest) (p : String × Option Node → Bool) :
    full.any p = (rest.any p || p e) := by
  induction h with
  | here => rw [List.any_cons, Bool.or_comm]
  | there _ _ ih => rw [List.any_cons, List.any_cons, ih, Bool.or_assoc]

/-- Under its key the inserted entry is found. -/
theorem valueAt?_same (h : Inserted e full rest) : valueAt? full e.1 = e.2 := by
  unfold valueAt?
  induction h with
  | here =>
    rw [List.find?_cons_of_pos (by simp)]
    rfl
  | there other _ ih => rwa [List.find?_cons_of_neg (by simpa using other)]

/-- Before it was inserted, nothing was found there. -/
theorem valueAt?_absent (h : Inserted e full rest) : valueAt? rest e.1 = none := by
  unfold valueAt?
  induction h with
  | here fresh =>
    rw [List.find?_eq_none.2 fun d hd => by simpa using fresh d hd]
    rfl
  | there other _ ih => rwa [List.find?_cons_of_neg (by simpa using other)]

/-- Under other keys nothing changes. -/
theorem valueAt?_other (h : Inserted e full rest) (hkey : key ≠ e.1) :
    valueAt? full key = valueAt? rest key := by
  unfold valueAt?
  induction h with
  | here => rw [List.find?_cons_of_neg (by simpa using hkey.symm)]
  | @there d full rest _ _ ih =>
    rw [List.find?_cons, List.find?_cons]
    cases d.1 == key with
    | true => rfl
    | false => exact ih

end Inserted

/-! ## Entering values -/

/-- To put a value under another key leaves a key fresh. -/
theorem fresh_putKey {other : String} (hkeys : ∀ d ∈ keys, d.1 ≠ other) (hkey : key ≠ other) :
    ∀ d ∈ putKey key value keys, d.1 ≠ other := by
  induction keys with
  | nil =>
    intro d hd
    rw [putKey, List.mem_singleton] at hd
    exact hd ▸ hkey
  | cons f keys ih =>
    have hrest := ih fun d hd => hkeys d (List.mem_cons_of_mem f hd)
    intro d hd
    rw [putKey] at hd
    split at hd
    · rcases List.mem_cons.1 hd with rfl | hd
      · exact hkey
      · exact hkeys d (List.mem_cons_of_mem f hd)
    · rcases List.mem_cons.1 hd with rfl | hd
      · exact hkeys d List.mem_cons_self
      · exact hrest d hd

/-- A value under a new key is put in. -/
theorem inserted_putKey_fresh (hkeys : ∀ d ∈ keys, d.1 ≠ key) :
    Inserted (key, value) (putKey key value keys) keys := by
  induction keys with
  | nil => exact .here hkeys
  | cons d keys ih =>
    have hd : d.1 ≠ key := hkeys d List.mem_cons_self
    rw [putKey, if_neg (by simpa using hd)]
    exact .there hd (ih fun f hf => hkeys f (List.mem_cons_of_mem d hf))

/-- What is put in stays put in when a value is entered under another key. -/
theorem Inserted.putKey_other (h : Inserted e full rest) (hkey : key ≠ e.1) :
    Inserted e (putKey key value full) (putKey key value rest) := by
  induction h with
  | here fresh =>
    rw [putKey, if_neg (by simpa using hkey.symm)]
    exact .here (fresh_putKey fresh hkey)
  | @there d full rest other behind ih =>
    rw [putKey, putKey]
    split
    · exact .there hkey behind
    · exact .there other ih

/-- A child without a key adds no entry. -/
theorem withEntry_of_no_key (hc : c.entryKey? = none) : withEntry keys c = keys := by
  unfold entryKey? at hc
  unfold withEntry
  split at hc
  · cases hc
  · split at hc
    · cases hc
    · next hpair hshort => rw [if_neg hpair, if_neg hshort]

/-- A child that has a key enters some value under it. -/
theorem exists_withEntry_eq (hc : c.entryKey? = some key) :
    ∃ value, ∀ keys, withEntry keys c = putKey key value keys := by
  unfold entryKey? at hc
  unfold withEntry
  split at hc
  · next hpair =>
    cases hc
    exact ⟨c.field? "value", fun keys => if_pos hpair⟩
  · split at hc
    · next hpair hshort =>
      cases hc
      exact ⟨some c, fun keys => by rw [if_neg hpair, if_pos hshort]⟩
    · cases hc

/-- To add an entry under another key leaves the inserted one. -/
theorem Inserted.withEntry_other (h : Inserted e full rest) (hc : c.entryKey? ≠ some e.1) :
    Inserted e (withEntry full c) (withEntry rest c) := by
  cases hkey : c.entryKey? with
  | none => rwa [withEntry_of_no_key hkey, withEntry_of_no_key hkey]
  | some key =>
    obtain ⟨value, hvalue⟩ := exists_withEntry_eq hkey
    rw [hvalue, hvalue]
    exact h.putKey_other fun heq => hc (heq ▸ hkey)

/-- To add entries under other keys leaves the inserted one. -/
theorem Inserted.foldl_withEntry (h : Inserted e full rest) (hcs : ∀ c ∈ cs, c.entryKey? ≠ some e.1) :
    Inserted e (cs.foldl withEntry full) (cs.foldl withEntry rest) := by
  induction cs generalizing full rest with
  | nil => exact h
  | cons c cs ih =>
    exact ih (h.withEntry_other (hcs c List.mem_cons_self)) fun d hd =>
      hcs d (List.mem_cons_of_mem c hd)

/-- To add entries under other keys leaves a key fresh. -/
theorem fresh_foldl_withEntry (hkeys : ∀ d ∈ keys, d.1 ≠ key)
    (hcs : ∀ c ∈ cs, c.entryKey? ≠ some key) : ∀ d ∈ cs.foldl withEntry keys, d.1 ≠ key := by
  induction cs generalizing keys with
  | nil => exact hkeys
  | cons c cs ih =>
    refine ih ?_ fun d hd => hcs d (List.mem_cons_of_mem c hd)
    cases hkey : c.entryKey? with
    | none => rwa [withEntry_of_no_key hkey]
    | some other =>
      obtain ⟨value, hvalue⟩ := exists_withEntry_eq hkey
      rw [hvalue]
      exact fresh_putKey hkeys fun heq => hcs c List.mem_cons_self (heq ▸ hkey)

/-! ## The keys of an object -/

/-- The keys of an object are those of its named children. -/
theorem objectKeys_eq (hn : n.kind = "object") : n.objectKeys = n.namedChildren.foldl withEntry [] := by
  have hunwrap : n.unwrap? = some n := by
    obtain ⟨l, cs⟩ := n
    have hkind : l.kind = "object" := hn
    rw [unwrap?, if_neg (by rw [hkind]; decide)]
  unfold objectKeys
  rw [hunwrap]
  dsimp only
  rw [if_pos (beq_iff_eq.2 hn)]
  rfl

/-- Between two object literals that differ in one child, which enters nothing in the one and a value under
a key that no other child has in the other, the second has the entries of the first with that value put
in. -/
theorem inserted_objectKeys {o o' silent child : Node} {front back : List Node}
    (ho : o.kind = "object") (ho' : o'.kind = "object")
    (children : o.namedChildren = front ++ silent :: back)
    (children' : o'.namedChildren = front ++ child :: back) (hsilent : silent.entryKey? = none)
    (hpair : child.kind = "pair") (hfresh : ∀ c ∈ front ++ back, c.entryKey? ≠ some child.pairKey) :
    Inserted (child.pairKey, child.field? "value") o'.objectKeys o.objectKeys := by
  have hentry : ∀ keys, withEntry keys child = putKey child.pairKey (child.field? "value") keys :=
    fun keys => if_pos (beq_iff_eq.2 hpair)
  rw [objectKeys_eq ho, objectKeys_eq ho', children, children', List.foldl_append,
    List.foldl_append, List.foldl_cons, List.foldl_cons, withEntry_of_no_key hsilent, hentry]
  have hfront : ∀ d ∈ front.foldl withEntry [], d.1 ≠ child.pairKey :=
    fresh_foldl_withEntry (by simp) fun c hc => hfresh c (List.mem_append_left _ hc)
  exact (inserted_putKey_fresh hfront).foldl_withEntry fun c hc =>
    hfresh c (List.mem_append_right _ hc)

end UxLint.Node
