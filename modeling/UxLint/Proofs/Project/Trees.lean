import UxLint.Project.Tree

/-!
# Well-formed trees

A directory holds its entries in increasing order of their names, none of which holds a slash. Trees are made and
changed by putting entries at the end of rows of names and by removing them, and both keep a tree well-formed
(`WellFormed.put`, `WellFormed.remove`). What a path leads to in a well-formed tree is well-formed
(`wellFormed_of_lookUp`).
-/

set_option autoImplicit false

namespace UxLint

namespace Entry

/-- What holds of an entry if it holds of the entries in it holds of every entry. -/
theorem induction_entries {P : Entry → Prop} (file : ∀ octets, P (.file octets))
    (link : ∀ target, P (.link target)) (dir : ∀ entries, (∀ e ∈ entries, P e.2) → P (.dir entries))
    (e : Entry) : P e := by
  match e with
  | .file octets => exact file octets
  | .link target => exact link target
  | .dir entries => exact dir entries fun sub hsub => induction_entries file link dir sub.2
termination_by sizeOf e
decreasing_by
  have hlist := List.sizeOf_lt_of_mem hsub
  obtain ⟨name, sub⟩ := sub
  rw [Prod.mk.sizeOf_spec] at hlist
  rw [Entry.dir.sizeOf_spec]
  dsimp only
  omega

/-- Entries as a directory holds them: in increasing order of their names, none of which holds a slash. -/
structure Orderly (entries : List (String × Entry)) : Prop where
  sorted : entries.Pairwise fun a b => a.1 < b.1
  named : ∀ e ∈ entries, '/' ∉ e.1.toList

/-- A tree in which all directories are orderly. -/
inductive WellFormed : Entry → Prop where
  | file (octets : List UInt8) : WellFormed (.file octets)
  | link (target : String) : WellFormed (.link target)
  | dir {entries : List (String × Entry)} (orderly : Orderly entries)
      (below : ∀ e ∈ entries, WellFormed e.2) : WellFormed (.dir entries)

variable {entries : List (String × Entry)} {name : String} {entry e : Entry}

/-- An entry that is found under a name is one of the entries. -/
theorem mem_of_get? (h : get? entries name = some e) : (name, e) ∈ entries := by
  obtain ⟨found, hfound, rfl⟩ := Option.map_eq_some_iff.1 h
  have hname := List.find?_some hfound
  rw [beq_iff_eq] at hname
  exact hname ▸ List.mem_of_find?_eq_some hfound

/-- After an entry was inserted, there is that entry and those from before. -/
theorem mem_of_mem_insert {x : String × Entry} (h : x ∈ insert name entry entries) :
    x = (name, entry) ∨ x ∈ entries := by
  induction entries with
  | nil => exact .inl (List.mem_singleton.1 h)
  | cons first rest ih =>
    rw [insert] at h
    split at h
    · exact (List.mem_cons.1 h).imp_right (List.mem_cons_of_mem first)
    · split at h
      · exact List.mem_cons.1 h
      · rcases List.mem_cons.1 h with rfl | h
        · exact .inr List.mem_cons_self
        · exact (ih h).imp_right (List.mem_cons_of_mem first)

/-- To insert an entry keeps the names in order. -/
theorem sorted_insert (name : String) (entry : Entry) (h : entries.Pairwise fun a b => a.1 < b.1) :
    (insert name entry entries).Pairwise fun a b => a.1 < b.1 := by
  induction entries with
  | nil => exact List.pairwise_singleton _ _
  | cons first rest ih =>
    obtain ⟨hfirst, hrest⟩ := List.pairwise_cons.1 h
    rw [insert]
    split
    · next heq => exact List.pairwise_cons.2 ⟨beq_iff_eq.1 heq ▸ hfirst, hrest⟩
    · next hne =>
      split
      · next hless =>
        refine List.pairwise_cons.2 ⟨List.forall_mem_cons.2 ⟨hless, fun x hx => ?_⟩, h⟩
        exact String.lt_trans hless (hfirst x hx)
      · next hless =>
        have hbehind : first.1 < name :=
          Std.lt_of_le_of_ne (String.not_lt.1 hless) fun heq => hne (beq_iff_eq.2 heq)
        refine List.pairwise_cons.2 ⟨fun x hx => ?_, ih hrest⟩
        rcases mem_of_mem_insert hx with rfl | hx
        · exact hbehind
        · exact hfirst x hx

namespace WellFormed

/-- The entries of a well-formed directory are in order. -/
theorem orderly_entriesOf (h : e.WellFormed) : Orderly e.entriesOf := by
  cases h with
  | file | link => exact ⟨List.Pairwise.nil, nofun⟩
  | dir orderly below => exact orderly

/-- The entries of a well-formed directory are well-formed. -/
theorem below_entriesOf (h : e.WellFormed) : ∀ x ∈ e.entriesOf, x.2.WellFormed := by
  cases h with
  | file | link => nofun
  | dir orderly below => exact below

/-- A directory stays well-formed if one of its entries is replaced or added. -/
theorem insert (h : e.WellFormed) (hname : '/' ∉ name.toList) (hentry : entry.WellFormed) :
    (Entry.dir (Entry.insert name entry e.entriesOf)).WellFormed := by
  refine .dir ⟨sorted_insert name entry h.orderly_entriesOf.sorted, fun x hx => ?_⟩ fun x hx => ?_
  · rcases mem_of_mem_insert hx with rfl | hx
    · exact hname
    · exact h.orderly_entriesOf.named x hx
  · rcases mem_of_mem_insert hx with rfl | hx
    · exact hentry
    · exact h.below_entriesOf x hx

/-- The empty directory is well-formed. -/
theorem empty : (Entry.dir []).WellFormed := .dir ⟨List.Pairwise.nil, nofun⟩ nofun

/-- To put a well-formed entry keeps a directory well-formed. -/
theorem put {names : List String} (h : e.WellFormed) (hnames : ∀ name ∈ names, '/' ∉ name.toList)
    (hentry : entry.WellFormed) : (e.put names entry).WellFormed := by
  induction names generalizing e with
  | nil => exact hentry
  | cons name rest ih =>
    obtain ⟨hname, hrest⟩ := List.forall_mem_cons.1 hnames
    rw [Entry.put]
    refine h.insert hname (ih ?_ hrest)
    cases hsub : get? e.entriesOf name with
    | none => exact empty
    | some sub => exact h.below_entriesOf _ (mem_of_get? hsub)

/-- To remove an entry keeps a directory well-formed. -/
theorem remove {names : List String} (h : e.WellFormed) (hnames : ∀ name ∈ names, '/' ∉ name.toList) :
    (e.remove names).WellFormed := by
  fun_induction Entry.remove names e with
  | case1 e => exact h
  | case2 e name =>
    exact .dir ⟨h.orderly_entriesOf.sorted.filter _,
      fun x hx => h.orderly_entriesOf.named x (List.mem_filter.1 hx).1⟩
      fun x hx => h.below_entriesOf x (List.mem_filter.1 hx).1
  | case3 e name rest => exact h
  | case4 e name rest _ sub hsub ih =>
    obtain ⟨hname, hrest⟩ := List.forall_mem_cons.1 hnames
    exact h.insert hname (ih (h.below_entriesOf _ (mem_of_get? hsub)) hrest)

end WellFormed

/-- What holds of an entry and of all that is in what it holds of holds of where names lead. -/
theorem walk_lands {P : Entry → Prop} (hP : ∀ entries, P (dir entries) → ∀ x ∈ entries, P x.2)
    {links : Nat} {behind : List (String × Entry)} {names : List String} {landing : Landing}
    (h : walk links behind e names = .ok landing) (he : P e) (hbehind : ∀ b ∈ behind, P b.2) :
    ∀ sub ∈ landing.entry, P sub := by
  fun_induction walk links behind e names with
  | case1 links behind e =>
    cases h
    exact fun sub hsub => Option.some.inj hsub ▸ he
  | case2 links rest entries ih => exact ih h he nofun
  | case3 links rest entries name up above ih =>
    obtain ⟨hup, habove⟩ := List.forall_mem_cons.1 hbehind
    exact ih h hup habove
  | case6 =>
    cases h
    nofun
  | case9 behind name rest _ entries _ target _ more ih => exact ih h he hbehind
  | case10 links behind name rest _ entries _ sub _ hget ih =>
    exact ih h (hP entries he _ (mem_of_get? hget)) (List.forall_mem_cons.2 ⟨he, hbehind⟩)
  | _ => cases h

end Entry

namespace Project

variable {p : Project} {path : Path}

/-- A path that leads to something lands there. -/
theorem land_of_lookUp {e : Entry} (h : p.lookUp path = .ok (some e)) :
    ∃ names, p.land path = .ok ⟨names, some e⟩ := by
  unfold lookUp at h
  split at h
  · next he =>
    cases h
    unfold entryAt at he
    split at he
    · cases he
    · cases he
    · next names _ hland =>
      cases he
      exact ⟨names, hland⟩
  · split at h <;> cases h

/-- A path lands where its names lead from the top directory. -/
theorem walk_of_land {landing : Landing} (h : p.land path = .ok landing) :
    p.top.walk Entry.linkLimit [] (p.namesOf path) = .ok landing := by
  unfold land at h
  split at h
  · cases h
  · split at h
    · cases h
    · exact h

/-- What a path leads to in a well-formed tree is well-formed. -/
theorem wellFormed_of_lookUp {e : Entry} (h : p.lookUp path = .ok (some e)) (htop : p.top.WellFormed) :
    e.WellFormed := by
  obtain ⟨names, hland⟩ := land_of_lookUp h
  exact Entry.walk_lands (fun _ hdir => hdir.below_entriesOf) (walk_of_land hland) htop (by simp) e rfl

end Project

end UxLint
