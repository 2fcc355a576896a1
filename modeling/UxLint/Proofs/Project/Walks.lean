import UxLint.Proofs.Project.Trees
import UxLint.Proofs.Text.Pieces
import Mathlib.Data.List.Nodup

/-!
# Walks through a tree

Files are listed by one walk and searched for by another. The first lists each file that can be reached from a
directory without entering an excluded one, once, the files of a directory before those of the directories in it
and both in the order of their names. A search finds those of the listed files, in the same order, whose names
have the right ending and, if words are given, that have on the way from the directory a name that starts like one of
them (`walks_agree`). An empty path names no directory: a search from it finds nothing, whatever the current directory
holds (`search_of_dir`).
-/

set_option autoImplicit false

namespace UxLint

namespace Entry

/-! ## What is listed -/

/-- Names lead from an entry to a file without entering an excluded directory. A link to a directory is no file,
and nothing is reached through it. -/
inductive Reaches : Entry → List String → Prop where
  | file {entries : List (String × Entry)} {name : String} {e : Entry} (mem : (name, e) ∈ entries)
      (leaf : leadsToDir entries linkLimit e = false) : Reaches (.dir entries) [name]
  | inside {entries : List (String × Entry)} {name : String} {e : Entry} {names : List String}
      (mem : (name, e) ∈ entries) (entered : name ∉ excludedNames) (rest : Reaches e names) :
      Reaches (.dir entries) (name :: names)

/-- A file comes before another one in a walk. -/
inductive Before : List String → List String → Prop where
  /-- Two files of one directory come in the order of their names. -/
  | files {a b : String} (h : a < b) : Before [a] [b]
  /-- The files of a directory come before those of the directories in it. -/
  | above {a b c : String} {names : List String} : Before [a] (b :: c :: names)
  /-- Two directories in one come in the order of their names. -/
  | directories {a b c d : String} {names names' : List String} (h : a < b) :
      Before (a :: c :: names) (b :: d :: names')
  | inside {a : String} {names names' : List String} (h : Before names names') :
      Before (a :: names) (a :: names')

variable {entries : List (String × Entry)} {names : List String} {e : Entry}

/-- Files are reached over some names. -/
theorem Reaches.ne_nil (h : e.Reaches names) : names ≠ [] := by
  cases h <;> exact List.cons_ne_nil _ _

/-- No path comes before itself. -/
theorem not_before_self (names : List String) : ¬Before names names := by
  induction names with
  | nil => nofun
  | cons a names ih =>
    intro h
    cases h with
    | files h => exact String.lt_irrefl a h
    | directories h => exact String.lt_irrefl a h
    | inside h => exact ih h

/-- The names of files are those of entries that lead to no directory. -/
theorem mem_fileNames_iff {name : String} : name ∈ fileNames entries ↔
    ∃ e, (name, e) ∈ entries ∧ leadsToDir entries linkLimit e = false := by
  unfold fileNames
  rw [List.mem_map]
  constructor
  · rintro ⟨⟨name', e⟩, he, rfl⟩
    obtain ⟨hmem, hleaf⟩ := List.mem_filter.1 he
    exact ⟨e, hmem, by simpa using hleaf⟩
  · rintro ⟨e, hmem, hleaf⟩
    exact ⟨(name, e), List.mem_filter.2 ⟨hmem, by simpa using hleaf⟩, rfl⟩

/-- What is listed of one entry among others. -/
def filesOf (e : String × Entry) : List (List String) :=
  if excludedNames.contains e.1 then [] else (files e.2).map (e.1 :: ·)

/-- The files below a directory are those of its entries, one after the other. -/
theorem filesBelow_eq (entries : List (String × Entry)) : filesBelow entries = entries.flatMap filesOf := by
  induction entries with
  | nil => rfl
  | cons e rest ih =>
    rw [filesBelow, ih]
    rfl

/-- The files of an entry are those below it under its name, if that is not left out. -/
theorem mem_filesOf_iff {e : String × Entry} : names ∈ filesOf e ↔
    e.1 ∉ excludedNames ∧ ∃ rest ∈ files e.2, e.1 :: rest = names := by
  unfold filesOf
  split
  · next hexcluded => simpa using fun hentered => absurd (List.contains_iff_mem.1 hexcluded) hentered
  · next hentered =>
    rw [List.mem_map, and_iff_right]
    exact mt List.contains_iff_mem.2 hentered

/-- Exactly the files that can be reached are listed. -/
theorem mem_files_iff (e : Entry) : names ∈ e.files ↔ e.Reaches names := by
  induction e using induction_entries generalizing names with
  | file octets => exact ⟨nofun, nofun⟩
  | link target => exact ⟨nofun, nofun⟩
  | dir entries ih =>
    rw [files, List.mem_append, List.mem_map, filesBelow_eq, List.mem_flatMap]
    constructor
    · rintro (⟨name, hname, rfl⟩ | ⟨sub, hsub, hnames⟩)
      · obtain ⟨e, hmem, hleaf⟩ := mem_fileNames_iff.1 hname
        exact .file hmem hleaf
      · obtain ⟨hentered, rest, hrest, rfl⟩ := mem_filesOf_iff.1 hnames
        exact .inside hsub hentered ((ih sub hsub).1 hrest)
    · intro h
      cases h with
      | file mem leaf => exact .inl ⟨_, mem_fileNames_iff.2 ⟨_, mem, leaf⟩, rfl⟩
      | inside mem entered rest =>
        exact .inr ⟨_, mem, mem_filesOf_iff.2 ⟨entered, _, (ih _ mem).2 rest, rfl⟩⟩

/-- A file has a name. -/
theorem ne_nil_of_mem_files (h : names ∈ e.files) : names ≠ [] := ((mem_files_iff e).1 h).ne_nil

/-! ## The order of the files -/

/-- What is listed of an entry comes before what is listed of one with a greater name. -/
theorem before_of_mem_filesOf {a b : String × Entry} (h : a.1 < b.1) {names names' : List String}
    (ha : names ∈ filesOf a) (hb : names' ∈ filesOf b) : Before names names' := by
  obtain ⟨-, rest, hrest, rfl⟩ := mem_filesOf_iff.1 ha
  obtain ⟨-, rest', hrest', rfl⟩ := mem_filesOf_iff.1 hb
  obtain ⟨c, more, rfl⟩ := List.exists_cons_of_ne_nil (ne_nil_of_mem_files hrest)
  obtain ⟨d, more', rfl⟩ := List.exists_cons_of_ne_nil (ne_nil_of_mem_files hrest')
  exact .directories h

/-- Files are listed in the order of the walk. -/
theorem pairwise_files (h : e.WellFormed) : e.files.Pairwise Before := by
  induction h with
  | file octets => exact List.Pairwise.nil
  | link target => exact List.Pairwise.nil
  | @dir entries orderly below ih =>
    rw [files, filesBelow_eq, List.pairwise_append]
    refine ⟨?_, ?_, ?_⟩
    · have hnames : (fileNames entries).Pairwise (· < ·) :=
        List.pairwise_map.2 (orderly.sorted.filter _)
      exact List.pairwise_map.2 (hnames.imp .files)
    · rw [List.pairwise_flatMap]
      refine ⟨fun sub hsub => ?_, orderly.sorted.imp fun hless _ ha _ hb => before_of_mem_filesOf hless ha hb⟩
      unfold filesOf
      split
      · exact List.Pairwise.nil
      · exact List.pairwise_map.2 ((ih sub hsub).imp .inside)
    · intro single hsingle names hnames
      obtain ⟨name, -, rfl⟩ := List.mem_map.1 hsingle
      obtain ⟨sub, -, hnames⟩ := List.mem_flatMap.1 hnames
      obtain ⟨-, rest, hrest, rfl⟩ := mem_filesOf_iff.1 hnames
      obtain ⟨c, more, rfl⟩ := List.exists_cons_of_ne_nil (ne_nil_of_mem_files hrest)
      exact .above

/-- In a well-formed directory no file is listed twice. -/
theorem nodup_files (h : e.WellFormed) : e.files.Nodup := by
  refine (pairwise_files h).imp ?_
  rintro names names' hbefore rfl
  exact not_before_self names hbefore

/-- The names that lead to a file are those of entries. -/
theorem named_of_reaches (h : e.Reaches names) (he : e.WellFormed) : ∀ name ∈ names, '/' ∉ name.toList := by
  induction h with
  | file mem leaf =>
    cases he with
    | dir orderly below => exact List.forall_mem_singleton.2 (orderly.named _ mem)
  | inside mem entered rest ih =>
    cases he with
    | dir orderly below => exact List.forall_mem_cons.2 ⟨orderly.named _ mem, ih (below _ mem)⟩

/-! ## What a search finds -/

/-- Whether a search finds a file: the last of its names has one of the endings, and one of them starts like one of
the words, unless a directory above does, as `matched` says. -/
def selects (endings words : List String) (matched : Bool) (names : List String) : Bool :=
  endings.any (endsWith (names.getLast?.getD "")) && (matched || names.any (startsLike words))

/-- A file has one of the endings and, if there are words, a name on the way to it, its own or that of a directory,
starts in lower case with one of them. -/
structure Selected (endings words names : List String) : Prop where
  ending : ∃ ending ∈ endings, endsWith (names.getLast?.getD "") ending = true
  word : words = [] ∨ ∃ name ∈ names, ∃ word ∈ words, startsWith (lowercase name) word = true

/-- A search selects exactly the files that are asked for. -/
theorem selects_iff {endings words : List String} :
    selects endings words words.isEmpty names = true ↔ Selected endings words names := by
  simp only [selects, startsLike, Bool.and_eq_true, Bool.or_eq_true, List.any_eq_true, List.isEmpty_iff]
  exact ⟨fun h => ⟨h.1, h.2⟩, fun h => ⟨h.ending, h.word⟩⟩

/-- Below a directory that starts like one of the words, every file with the right ending is found. -/
theorem selects_cons (endings words : List String) (matched : Bool) (name : String) {names : List String}
    (hne : names ≠ []) : selects endings words matched (name :: names) =
      selects endings words (matched || startsLike words name) names := by
  rw [selects, selects, List.getLast?_cons_of_ne_nil hne, List.any_cons, Bool.or_assoc]

/-- A search below a directory goes through its entries, one after the other. -/
theorem searchBelow_eq (endings words : List String) (matched : Bool) (entries : List (String × Entry)) :
    searchBelow endings words matched entries = entries.flatMap fun e =>
      if excludedNames.contains e.1 then []
      else (search endings words (matched || startsLike words e.1) e.2).map (e.1 :: ·) := by
  induction entries with
  | nil => rfl
  | cons e rest ih =>
    rw [searchBelow, ih]
    rfl

/-- A search finds the listed files that it selects, in their order. -/
theorem search_eq_filter (endings words : List String) (matched : Bool) (e : Entry) :
    e.search endings words matched = e.files.filter (selects endings words matched) := by
  induction e using induction_entries generalizing matched with
  | file octets => rfl
  | link target => rfl
  | dir entries ih =>
    rw [search, files, List.filter_append, searchBelow_eq, filesBelow_eq, List.filter_flatMap]
    congr 1
    · rw [found, List.filter_map]
      congr 1
      refine List.filter_congr fun name _ => ?_
      rw [Function.comp_apply, selects, List.any_cons, List.any_nil, Bool.or_false]
      rfl
    · refine List.flatMap_congr fun sub hsub => ?_
      unfold filesOf
      split
      · rfl
      · rw [ih sub hsub, List.filter_map]
        congr 1
        refine List.filter_congr fun names hnames => ?_
        exact (selects_cons endings words matched sub.1 (ne_nil_of_mem_files hnames)).symm

end Entry

/-! ## Paths of files -/

namespace Text

variable {sep : Char}

/-- What is joined at a separator falls apart at it again. -/
theorem pieces_join {ts : List Text} (hne : ts ≠ []) (hts : ∀ t ∈ ts, sep ∉ t) :
    pieces sep (join [sep] ts) = ts := by
  induction ts with
  | nil => exact absurd rfl hne
  | cons t ts ih =>
    obtain ⟨ht, hrest⟩ := List.forall_mem_cons.1 hts
    cases ts with
    | nil => exact pieces_of_not_mem ht
    | cons u us =>
      rw [join, List.append_assoc, List.singleton_append, pieces_append_cons ht,
        ih (List.cons_ne_nil u us) hrest]
      exact List.cons_ne_nil u us

/-- What is joined behind other texts stands behind a text of its own. -/
theorem exists_join_append (sep : Char) (ts : List Text) :
    ∃ front, ∀ us, us ≠ [] → join [sep] (ts ++ us) = front ++ join [sep] us := by
  induction ts with
  | nil => exact ⟨[], fun us _ => rfl⟩
  | cons t ts ih =>
    obtain ⟨front, hfront⟩ := ih
    refine ⟨t ++ [sep] ++ front, fun us hus => ?_⟩
    rw [List.cons_append, join, hfront us hus]
    · simp only [List.append_assoc]
    · exact List.append_ne_nil_of_right_ne_nil ts hus

end Text

namespace Project

variable {root : Path} {names names' : List String}

/-- A path below a root is the root with the names behind it. -/
theorem below_eq (root : Path) (hne : names ≠ []) : below root names = root.anchor.written ++
    String.ofList (Text.join ['/'] (root.segments.map String.toList ++ names.map String.toList)) := by
  have hsegments : (root.segments ++ names).isEmpty = false :=
    List.isEmpty_eq_false_iff.2 (List.append_ne_nil_of_right_ne_nil root.segments hne)
  have hjoin : root.join ⟨.here, names⟩ = ⟨root.anchor, root.segments ++ names⟩ := rfl
  rw [below, hjoin, Path.toString]
  dsimp only
  rw [hsegments, Bool.and_false, if_neg Bool.false_ne_true, List.map_append]

/-- The path of a file below a directory tells the names that lead to the file. -/
theorem below_injective (hne : names ≠ []) (hne' : names' ≠ []) (hnames : ∀ name ∈ names, '/' ∉ name.toList)
    (hnames' : ∀ name ∈ names', '/' ∉ name.toList) (h : below root names = below root names') :
    names = names' := by
  obtain ⟨front, hfront⟩ := Text.exists_join_append '/' (root.segments.map String.toList)
  have hmap {names : List String} (hne : names ≠ []) : names.map String.toList ≠ [] :=
    mt List.map_eq_nil_iff.1 hne
  have hpieces {names : List String} (hne : names ≠ []) (hnames : ∀ name ∈ names, '/' ∉ name.toList) :
      Text.pieces '/' (Text.join ['/'] (names.map String.toList)) = names.map String.toList :=
    Text.pieces_join (hmap hne) (List.forall_mem_map.2 hnames)
  rw [below_eq root hne, below_eq root hne', hfront _ (hmap hne), hfront _ (hmap hne')] at h
  have htext : Text.join ['/'] (names.map String.toList) = Text.join ['/'] (names'.map String.toList) := by
    have hlist := congrArg String.toList h
    simp only [String.toList_append, String.toList_ofList] at hlist
    exact List.append_cancel_left (List.append_cancel_left hlist)
  refine List.map_injective_iff.2 (fun a b => String.toList_injective) ?_
  rw [← hpieces hne hnames, htext, hpieces hne' hnames']

/-! ## The two walks -/

variable {p : Project} {entries : List (String × Entry)}

/-- Each file is listed by a path of its own. -/
theorem nodup_below (root : Path) {e : Entry} (he : e.WellFormed) : (e.files.map (below root)).Nodup := by
  refine List.Nodup.map_on (fun names hnames names' hnames' h => ?_) (Entry.nodup_files he)
  have hreaches := (Entry.mem_files_iff e).1 hnames
  have hreaches' := (Entry.mem_files_iff e).1 hnames'
  exact below_injective hreaches.ne_nil hreaches'.ne_nil (Entry.named_of_reaches hreaches he)
    (Entry.named_of_reaches hreaches' he) h

/-- To collect the files of one directory lists them below it. -/
theorem collectAll_singleton {root : String} (hroot : p.lookUp (.ofString root) = .ok (some (.dir entries))) :
    p.collectAll [root] = .ok ((Entry.dir entries).files.map (below (.ofString root))) := by
  have hcollect : p.collect root = .ok ((Entry.dir entries).files.map (below (.ofString root))) := by
    rw [collect, hroot]
    rfl
  rw [collectAll, List.mapM_cons, hcollect]
  change Except.ok (((Entry.dir entries).files.map (below (.ofString root))) ++ []) = _
  rw [List.append_nil]

/-- A search from a directory finds the listed files that it selects. A search from an empty path finds nothing. -/
theorem search_of_dir {root : String} (hroot : p.lookUp (.ofString root) = .ok (some (.dir entries)))
    (endings words : List String) : p.search root endings words =
      .ok (if root = "" then [] else ((Entry.dir entries).files.filter
        (Entry.selects endings words words.isEmpty)).map (below (.ofString root))) := by
  rw [search, hroot, ← Entry.search_eq_filter]
  simp only [← beq_iff_eq (a := root)]
  rfl

/-- From a directory, the files are listed that can be reached without entering an excluded directory, each once
and by a path of its own, the files of a directory in order before the directories in order. A search finds those of
them, in the same order, that have one of the endings and, if there are words, a name on the way that starts like one
of them. -/
theorem walks_agree {p : Project} (htop : p.top.WellFormed) {root : String} {entries : List (String × Entry)}
    (hnamed : root ≠ "") (hroot : p.lookUp (.ofString root) = .ok (some (.dir entries))) :
    ∃ listed : List (List String),
      (∀ names, names ∈ listed ↔ (Entry.dir entries).Reaches names) ∧ listed.Pairwise Entry.Before ∧
      p.collectAll [root] = .ok (listed.map (below (.ofString root))) ∧
      (listed.map (below (.ofString root))).Nodup ∧
      ∀ endings words, ∃ found : List (List String), found.Sublist listed ∧
        (∀ names, names ∈ found ↔ names ∈ listed ∧ Entry.Selected endings words names) ∧
        p.search root endings words = .ok (found.map (below (.ofString root))) := by
  have hdir : (Entry.dir entries).WellFormed := wellFormed_of_lookUp hroot htop
  refine ⟨(Entry.dir entries).files, fun names => Entry.mem_files_iff _, Entry.pairwise_files hdir,
    collectAll_singleton hroot, nodup_below _ hdir, fun endings words => ?_⟩
  let found := (Entry.dir entries).files.filter (Entry.selects endings words words.isEmpty)
  refine ⟨found, List.filter_sublist, fun names => ?_, ?_⟩
  · rw [List.mem_filter, Entry.selects_iff]
  · rw [search_of_dir hroot, if_neg hnamed]

/-- A tree with scripts in it, one of them in an excluded directory. -/
def scripts : Project where
  top := ((((Entry.dir []).put ["src", "c.js"] (.file [])).put ["build", "x.js"] (.file [])).put
    ["src", "API", "b.js"] (.file [])).put ["a.js"] (.file [])
  current := []

/-- The project of the example is well-formed. -/
theorem wellFormed_scripts : scripts.top.WellFormed :=
  (((Entry.WellFormed.empty.put (by decide) (.file [])).put (by decide) (.file [])).put (by decide)
    (.file [])).put (by decide) (.file [])

/-- From where paths lead on, a path without names leads to the whole tree. -/
theorem lookUp_top {p : Project} (hcurrent : p.current = []) {root : String}
    (hroot : Path.ofString root = ⟨.here, []⟩) : p.lookUp (.ofString root) = .ok (some p.top) := by
  have hland : p.land ⟨.here, []⟩ = .ok ⟨[], some p.top⟩ := by
    rw [land, namesOf, hcurrent, if_neg (by decide), if_neg (by decide)]
    change p.top.walk Entry.linkLimit [] [] = _
    rw [Entry.walk]
    rfl
  rw [hroot, lookUp, entryAt, hland]

/-- The scripts that are not in the excluded directory are listed in order, and the one below a directory with the
right start is found. -/
theorem walks_agree_scripts :
    scripts.top.WellFormed ∧ "." ≠ "" ∧
      scripts.lookUp (.ofString ".") = .ok (some (.dir scripts.top.entriesOf)) ∧
      scripts.collectAll ["."] = .ok ["a.js", "src/c.js", "src/API/b.js"] ∧
      ["a.js", "src/c.js", "src/API/b.js"].Nodup ∧
      scripts.search "." [".js"] ["api"] = .ok ["src/API/b.js"] := by
  have hroot : scripts.lookUp (.ofString ".") = .ok (some (.dir scripts.top.entriesOf)) :=
    lookUp_top rfl (by decide)
  have hfiles : scripts.collectAll ["."] = .ok ["a.js", "src/c.js", "src/API/b.js"] := by
    rw [collectAll_singleton hroot]
    exact congrArg Except.ok (by decide +kernel)
  have hfound : scripts.search "." [".js"] ["api"] = .ok ["src/API/b.js"] := by
    rw [search_of_dir hroot]
    exact congrArg Except.ok (by decide +kernel)
  have hnamed : "." ≠ "" := by decide
  obtain ⟨listed, -, -, hlisted, hnodup, -⟩ := walks_agree wellFormed_scripts hnamed hroot
  have hpaths : listed.map (below (.ofString ".")) = ["a.js", "src/c.js", "src/API/b.js"] :=
    Except.ok.inj (hlisted.symm.trans hfiles)
  exact ⟨wellFormed_scripts, hnamed, hroot, hfiles, hpaths ▸ hnodup, hfound⟩

end Project

end UxLint
