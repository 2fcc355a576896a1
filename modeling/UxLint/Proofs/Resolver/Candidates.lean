import UxLint.Action.Resolver
import UxLint.Proofs.Project.Trees
import UxLint.Proofs.Rule.Ensures

/-!
# Paths of candidates

No file system is asked for a path that holds a null character. To read such a path is a fault that no
reader passes over, other than a file that is missing or may not be read. The candidates for a
declaration are files that were found in the project, and so their paths hold a null character only if a
name in its tree does (`read_candidate_ne`), which no file system allows.
-/

set_option autoImplicit false

namespace UxLint

/-! ## Characters of paths -/

namespace Text

variable {c sep : Char} {t piece : Text} {ts : List Text}

/-- The characters of a piece are those of the text. -/
theorem mem_of_mem_piece (h : piece ∈ pieces sep t) (hc : c ∈ piece) : c ∈ t := by
  induction t generalizing piece with
  | nil =>
    rw [List.mem_singleton.1 h] at hc
    cases hc
  | cons d t ih =>
    rw [pieces] at h
    split at h
    · rcases List.mem_cons.1 h with rfl | h
      · cases hc
      · exact List.mem_cons_of_mem d (ih h hc)
    · split at h
      · rw [List.mem_singleton.1 h, List.mem_singleton] at hc
        exact hc ▸ List.mem_cons_self
      · next p ps heq =>
        rcases List.mem_cons.1 h with rfl | h
        · rcases List.mem_cons.1 hc with rfl | hc
          · exact List.mem_cons_self
          · exact List.mem_cons_of_mem d (ih (heq ▸ List.mem_cons_self) hc)
        · exact List.mem_cons_of_mem d (ih (heq ▸ List.mem_cons_of_mem p h) hc)

/-- A joined text has the characters of its parts. -/
theorem mem_join_of_mem (ht : t ∈ ts) (hc : c ∈ t) : c ∈ join [sep] ts := by
  induction ts with
  | nil => cases ht
  | cons s ts ih =>
    cases ts with
    | nil =>
      rw [List.mem_singleton.1 ht] at hc
      exact hc
    | cons s' ts =>
      change c ∈ s ++ [sep] ++ join [sep] (s' :: ts)
      rw [List.mem_append, List.mem_append]
      rcases List.mem_cons.1 ht with rfl | ht
      · exact .inl (.inl hc)
      · exact .inr (ih ht)

/-- A character of a joined text separates parts or stands in one. -/
theorem exists_of_mem_join (hc : c ∈ join [sep] ts) : c = sep ∨ ∃ t ∈ ts, c ∈ t := by
  induction ts with
  | nil => cases hc
  | cons s ts ih =>
    cases ts with
    | nil => exact .inr ⟨s, List.mem_cons_self, hc⟩
    | cons s' ts =>
      change c ∈ s ++ [sep] ++ join [sep] (s' :: ts) at hc
      rw [List.mem_append, List.mem_append, List.mem_singleton] at hc
      rcases hc with (hc | hc) | hc
      · exact .inr ⟨s, List.mem_cons_self, hc⟩
      · exact .inl hc
      · refine (ih hc).imp_right ?_
        rintro ⟨t, ht, hc⟩
        exact ⟨t, List.mem_cons_of_mem s ht, hc⟩

end Text

namespace Path

/-- No name on the way of a path holds a null character. -/
def NullFree (path : Path) : Prop := ∀ name ∈ path.segments, '\x00' ∉ name.toList

variable {path other : Path} {s : String}

/-- A path is free of null characters exactly if what it is written as is. -/
theorem nullFree_iff : path.NullFree ↔ '\x00' ∉ path.toString.toList := by
  have hanchor : '\x00' ∉ path.anchor.written.toList := by
    cases path.anchor <;> decide
  unfold NullFree toString
  dsimp only
  split
  · next hempty =>
    rw [List.isEmpty_iff.1 (Bool.and_eq_true_iff.1 hempty).2]
    exact ⟨fun _ => by decide, fun _ => nofun⟩
  · rw [String.toList_append, String.toList_ofList, List.mem_append, not_or]
    constructor
    · refine fun h => ⟨hanchor, fun hmem => ?_⟩
      rcases Text.exists_of_mem_join hmem with hsep | ⟨t, ht, hc⟩
      · exact absurd hsep (by decide)
      · obtain ⟨name, hname, rfl⟩ := List.mem_map.1 ht
        exact h name hname hc
    · exact fun h name hname hc => h.2 (Text.mem_join_of_mem (List.mem_map_of_mem hname) hc)

/-- What is written without null characters is a path without them. -/
theorem nullFree_ofString (h : '\x00' ∉ s.toList) : (ofString s).NullFree := by
  intro name hname hc
  obtain ⟨piece, hpiece, rfl⟩ := List.mem_map.1 hname
  rw [String.toList_ofList] at hc
  exact h (Text.mem_of_mem_piece (List.mem_filter.1 hpiece).1 hc)

/-- Paths without null characters are joined to one. -/
theorem NullFree.join (h : path.NullFree) (h' : other.NullFree) : (path.join other).NullFree := by
  unfold Path.join
  split
  · exact h'
  · exact List.forall_mem_append.2 ⟨h, h'⟩

/-- Going on from names by more names adds nothing but double dots. -/
theorem mem_resolveFrom {absolute : Bool} {behind names : List String} {name : String}
    (h : name ∈ resolveFrom absolute behind names) : name ∈ behind ∨ name ∈ names ∨ name = ".." := by
  fun_induction resolveFrom absolute behind names with
  | case1 => exact .inl (List.mem_reverse.1 h)
  | case2 rest ih =>
    rcases ih h with hbehind | hrest | hdots
    · split at hbehind
      · cases hbehind
      · exact .inr (.inr (List.mem_singleton.1 hbehind))
    · exact .inr (.inl (List.mem_cons_of_mem _ hrest))
    · exact .inr (.inr hdots)
  | case3 rest before ih =>
    rcases ih h with hbehind | hrest | hdots
    · rcases List.mem_cons.1 hbehind with hdots | hbehind
      · exact .inr (.inr hdots)
      · exact .inl hbehind
    · exact .inr (.inl (List.mem_cons_of_mem _ hrest))
    · exact .inr (.inr hdots)
  | case4 rest taken before _ ih =>
    rcases ih h with hbehind | hrest | hdots
    · exact .inl (List.mem_cons_of_mem taken hbehind)
    · exact .inr (.inl (List.mem_cons_of_mem _ hrest))
    · exact .inr (.inr hdots)
  | case5 behind next rest _ ih =>
    rcases ih h with hbehind | hrest | hdots
    · rcases List.mem_cons.1 hbehind with rfl | hbehind
      · exact .inr (.inl List.mem_cons_self)
      · exact .inl hbehind
    · exact .inr (.inl (List.mem_cons_of_mem next hrest))
    · exact .inr (.inr hdots)

/-- To simplify a path brings in no null character. -/
theorem NullFree.normalize (h : path.NullFree) : path.normalize.NullFree := by
  intro name hname
  rcases mem_resolveFrom hname with hbehind | hname | rfl
  · cases hbehind
  · exact h name hname
  · decide

end Path

/-! ## Names of a tree -/

namespace Entry

mutual

/-- Whether no name at or below an entry holds a null character. -/
def nullFree : Entry → Bool
  | dir entries => nullFreeBelow entries
  | _ => true

/-- Whether no name among or below some entries holds a null character. -/
def nullFreeBelow : List (String × Entry) → Bool
  | [] => true
  | (name, sub) :: rest => !name.toList.contains '\x00' && nullFree sub && nullFreeBelow rest

end

variable {entries : List (String × Entry)} {e : Entry}

/-- In a directory without null characters, no name has one, and no entry below. -/
theorem forall_of_nullFreeBelow (h : nullFreeBelow entries = true) :
    ∀ e ∈ entries, '\x00' ∉ e.1.toList ∧ e.2.nullFree = true := by
  induction entries with
  | nil => nofun
  | cons e rest ih =>
    rw [nullFreeBelow] at h
    simp only [Bool.and_eq_true, Bool.not_eq_true', List.contains_eq_mem, decide_eq_false_iff_not] at h
    exact List.forall_mem_cons.2 ⟨h.1, ih h.2⟩

/-- What names lead to belongs to the tree. -/
theorem nullFree_walk {links : Nat} {behind : List (String × Entry)} {names : List String}
    {landing : Landing} (h : walk links behind e names = .ok landing) (he : e.nullFree = true)
    (hbehind : ∀ b ∈ behind, b.2.nullFree = true) :
    ∀ sub ∈ landing.entry, sub.nullFree = true := by
  refine walk_lands (fun entries hentries x hx => ?_) h he hbehind
  rw [nullFree] at hentries
  exact (forall_of_nullFreeBelow hentries x hx).2

/-- Going along names meets no null character, which is looked for before. -/
theorem walk_ne_nullCharacter (links : Nat) (behind : List (String × Entry)) (e : Entry)
    (names : List String) : walk links behind e names ≠ .error .nullCharacter := by
  fun_induction walk links behind e names
  case case2 ih | case3 ih | case9 ih | case10 ih => exact ih
  all_goals
    intro h
    cases h

/-- The name of a file is that of an entry. -/
theorem mem_fileNames {name : String} (h : name ∈ fileNames entries) : ∃ e ∈ entries, e.1 = name := by
  obtain ⟨e, he, rfl⟩ := List.mem_map.1 h
  exact ⟨e, (List.mem_filter.1 he).1, rfl⟩

variable {endings words : List String} {matched : Bool}

/-- What a search finds here has no null character in its names. -/
theorem nullFree_of_found (h : nullFreeBelow entries = true) :
    ∀ names ∈ found endings words matched entries, ∀ name ∈ names, '\x00' ∉ name.toList := by
  intro names hnames name hname
  obtain ⟨single, hsingle, rfl⟩ := List.mem_map.1 hnames
  rw [List.mem_singleton.1 hname]
  obtain ⟨e, he, rfl⟩ := mem_fileNames (List.mem_filter.1 hsingle).1
  exact (forall_of_nullFreeBelow h e he).1

mutual

/-- A search puts no names together but those of the tree. -/
theorem nullFree_of_search (e : Entry) (matched : Bool) (h : e.nullFree = true) :
    ∀ names ∈ e.search endings words matched, ∀ name ∈ names, '\x00' ∉ name.toList := by
  match e with
  | dir entries =>
    rw [nullFree] at h
    rw [search]
    exact List.forall_mem_append.2 ⟨nullFree_of_found h, nullFree_of_searchBelow entries matched h⟩
  | file _ => nofun
  | link _ => nofun

/-- What a search finds below has no null character in its names. -/
theorem nullFree_of_searchBelow (entries : List (String × Entry)) (matched : Bool)
    (h : nullFreeBelow entries = true) :
    ∀ names ∈ searchBelow endings words matched entries, ∀ name ∈ names, '\x00' ∉ name.toList := by
  match entries with
  | [] => nofun
  | (name, sub) :: rest =>
    rw [nullFreeBelow] at h
    simp only [Bool.and_eq_true, Bool.not_eq_true', List.contains_eq_mem, decide_eq_false_iff_not] at h
    obtain ⟨⟨hname, hsub⟩, hrest⟩ := h
    rw [searchBelow]
    refine List.forall_mem_append.2 ⟨?_, nullFree_of_searchBelow rest matched hrest⟩
    intro names hnames
    split at hnames
    · cases hnames
    · obtain ⟨below, hbelow, rfl⟩ := List.mem_map.1 hnames
      exact List.forall_mem_cons.2 ⟨hname, nullFree_of_search sub _ hsub below hbelow⟩

end

end Entry

/-! ## Paths that were looked up -/

namespace Project

variable {p : Project} {path : Path} {root file : String}

/-- A path that leads somewhere has no null character. -/
theorem nullFree_of_land {landing : Landing} (h : p.land path = .ok landing) : path.NullFree := by
  unfold land at h
  split at h
  · cases h
  · next hnull => exact Path.nullFree_iff.2 (by simpa using hnull)

/-- A path without null characters fails for no null character. -/
theorem land_ne_nullCharacter (h : path.NullFree) : p.land path ≠ .error .nullCharacter := by
  have hnull : path.toString.toList.contains '\x00' = false := by
    simpa using Path.nullFree_iff.1 h
  unfold land
  rw [hnull]
  split
  · contradiction
  · split
    · nofun
    · exact Entry.walk_ne_nullCharacter _ _ _ _

/-- What is found at a path stands in the tree, and the path holds no null character. -/
theorem nullFree_of_lookUp {e : Entry} (h : p.lookUp path = .ok (some e)) :
    path.NullFree ∧ (p.top.nullFree = true → e.nullFree = true) := by
  obtain ⟨names, hland⟩ := land_of_lookUp h
  exact ⟨nullFree_of_land hland,
    fun htop => Entry.nullFree_walk (walk_of_land hland) htop (by simp) e rfl⟩

/-- The path of a file has no null character. -/
theorem nullFree_of_isFile (h : p.isFile file = .ok true) : (Path.ofString file).NullFree := by
  unfold isFile at h
  cases hfound : p.lookUp (.ofString file) with
  | error fault =>
    rw [hfound] at h
    cases h
  | ok found =>
    rw [hfound] at h
    cases found with
    | none => cases h
    | some e => exact (nullFree_of_lookUp hfound).1

/-- A file with a usable path is read, or the file system has its reason not to hand it out. -/
theorem read_ne_nullCharacter (h : (Path.ofString file).NullFree) :
    p.read file ≠ .error .nullCharacter := by
  have hland := land_ne_nullCharacter (p := p) h
  unfold read octets octetsOf entryAt
  rcases hlanded : p.land (.ofString file) with e | ⟨names, _ | e⟩
  · rw [hlanded] at hland
    exact fun herror => hland (congrArg Except.error (Except.error.inj herror))
  · nofun
  · cases e <;> nofun

/-- A search finds paths without a null character only. -/
theorem nullFree_of_search (htop : p.top.nullFree = true) {endings words files : List String}
    (h : p.search root endings words = .ok files) : ∀ file ∈ files, '\x00' ∉ file.toList := by
  unfold search at h
  rcases hfound : p.lookUp (.ofString root) with fault | _ | e
  · rw [hfound] at h
    cases h
  · rw [hfound] at h
    obtain rfl := Except.ok.inj h
    simp
  · rw [hfound] at h
    obtain rfl := Except.ok.inj h
    obtain ⟨hroot, hentry⟩ := nullFree_of_lookUp hfound
    cases e with
    | dir entries =>
      dsimp only
      split
      · simp
      · intro file hfile
        obtain ⟨names, hnames, rfl⟩ := List.mem_map.1 hfile
        exact Path.nullFree_iff.1 (hroot.join
          (Entry.nullFree_of_search (.dir entries) _ (hentry htop) names hnames))
    | file octets => simp
    | link target => simp

end Project

/-! ## Candidates -/

namespace Resolver

variable {r : Resolver} {u : SourceUnit}

/-- The first file of a row of paths is a file. -/
theorem isFile_of_firstFile? {paths : List String} {file : String}
    (h : r.firstFile? paths = .ok (some file)) : r.project.isFile file = .ok true := by
  induction paths with
  | nil => cases h
  | cons path rest ih =>
    rw [firstFile?] at h
    rcases hpath : r.project.isFile path with fault | _ | _
    · rw [hpath] at h
      cases h
    · rw [hpath] at h
      exact ih h
    · rw [hpath] at h
      cases h
      exact hpath

/-- The files of an import are files. -/
theorem isFile_of_filesOfImport {source : String} {files : List String}
    (h : r.filesOfImport u.path source = .ok files) :
    ∀ file ∈ files, r.project.isFile file = .ok true := by
  unfold filesOfImport at h
  rcases hmodule : r.module? source u.path with fault | _ | path
  · rw [hmodule] at h
    cases h
  · rw [hmodule] at h
    cases h
    nofun
  · rw [hmodule] at h
    rcases hnamespaces : r.namespaces path with fault | constants
    · simp only [bind, Except.bind, hnamespaces] at h
      cases h
    · simp only [bind, Except.bind, hnamespaces] at h
      split at h
      · cases h
      · next found hfound =>
        cases h
        intro file hfile
        obtain ⟨file', hmem, heq⟩ := List.mem_filterMap.1 hfile
        obtain rfl : file' = some file := heq
        obtain ⟨c, -, hc⟩ := exists_of_mem_mapM hfound (some file) hmem
        exact isFile_of_firstFile? hc

/-- The files that a unit imports as a whole are files. -/
theorem isFile_of_namespaceFiles {files : List String} (h : r.namespaceFiles u = .ok files) :
    ∀ file ∈ files, r.project.isFile file = .ok true := by
  unfold namespaceFiles at h
  split at h
  · cases h
    nofun
  · next root _ =>
    rcases hrows : (Action.namespaceImports root).mapM (r.filesOfImport u.path) with fault | rows
    · rw [hrows] at h
      cases h
    · rw [hrows] at h
      cases h
      intro file hfile
      obtain ⟨row, hrow, hmem⟩ := List.mem_flatten.1 hfile
      obtain ⟨source, -, hsource⟩ := exists_of_mem_mapM hrows row hrow
      exact isFile_of_filesOfImport hsource file hmem

/-- What is left once without repetitions was there before. -/
theorem mem_of_mem_unique {seen l : List String} {s : String} (h : s ∈ unique seen l) : s ∈ l := by
  induction l generalizing seen with
  | nil => cases h
  | cons x rest ih =>
    rw [unique] at h
    split at h
    · exact List.mem_cons_of_mem x (ih h)
    · rcases List.mem_cons.1 h with rfl | h
      · exact List.mem_cons_self
      · exact List.mem_cons_of_mem x (ih h)

/-- What a search of the project finds has usable paths. -/
theorem nullFree_of_searchedFiles (htop : r.project.top.nullFree = true) {files : List String}
    (h : r.searchedFiles u = .ok files) : ∀ file ∈ files, (Path.ofString file).NullFree := by
  unfold searchedFiles at h
  simp only [bind, Except.bind] at h
  split at h
  · cases h
  · next beside hbeside =>
    split at h
    · cases h
    · next sources hsources =>
      split at h
      · cases h
      · next named hnamed =>
        cases h
        intro file hfile
        refine Path.nullFree_ofString ?_
        rcases List.mem_append.1 hfile with hfile | hfile
        · rcases List.mem_append.1 hfile with hfile | hfile
          · exact Project.nullFree_of_search htop hbeside file hfile
          · exact Project.nullFree_of_search htop hsources file hfile
        · exact Project.nullFree_of_search htop hnamed file hfile

/-- The candidates are what was met, each path in its normal form and once. -/
theorem exists_met_of_candidates {files : List String} (h : r.candidates u = .ok files) :
    ∃ met, (r.namespaceFiles u = .ok met ∨ r.searchedFiles u = .ok met) ∧
      files = unique [] (met.map fun f => (Path.ofString f).normalize.toString) := by
  unfold candidates at h
  rcases hnamed : r.namespaceFiles u with fault | named
  · rw [hnamed] at h
    cases h
  · rw [hnamed] at h
    simp only [bind, Except.bind] at h
    split at h
    · rcases hsearched : r.searchedFiles u with fault | met
      · rw [hsearched] at h
        cases h
      · rw [hsearched] at h
        exact ⟨met, .inr rfl, (Except.ok.inj h).symm⟩
    · exact ⟨named, .inl rfl, (Except.ok.inj h).symm⟩

/-- If no name in the project holds a null character, the file system is asked for every candidate. -/
theorem read_candidate_ne (htop : r.project.top.nullFree = true) {files : List String}
    (h : r.candidates u = .ok files) :
    ∀ file ∈ files, r.project.read file ≠ .error .nullCharacter := by
  obtain ⟨met, hmet, rfl⟩ := exists_met_of_candidates h
  have hfree : ∀ file ∈ met, (Path.ofString file).NullFree := by
    rcases hmet with hnamed | hsearched
    · exact fun file hfile => Project.nullFree_of_isFile (isFile_of_namespaceFiles hnamed file hfile)
    · exact nullFree_of_searchedFiles htop hsearched
  intro file hfile
  obtain ⟨f, hf, rfl⟩ := List.mem_map.1 (mem_of_mem_unique hfile)
  have hnormal : (Path.ofString f).normalize.NullFree := (hfree f hf).normalize
  exact Project.read_ne_nullCharacter (Path.nullFree_ofString (Path.nullFree_iff.1 hnormal))

end Resolver

end UxLint
