import UxLint.Config.Load
import Mathlib.Data.List.Induction

/-!
# How loading ends

Loading the settings gives settings, fails in a way that is announced to the user, or breaks down. It
breaks down only for a cause that lies in a file that was looked at, in a path, or in the place where the
search starts (`load_outcome`): the tools of a project file are no table, a file holds octets that write
no text, a name is too long, or the search starts nowhere. The first of these needs no more than a project
file of some other program above the start of the search (`load_other_tools`).
-/

set_option autoImplicit false

namespace UxLint

open ConfigFile

/-! ## Causes -/

/-- A file that loading looks at: the one that was asked for or, if none was, a file of one of the usual
names in the directory where the search starts or in one above. -/
inductive LooksAt (p : Project) : Option String → String → Path → Prop where
  | asked (path start : String) : LooksAt p (some path) start (.ofString path)
  | met {start name : String} {names directory : List String} (resolved : p.resolve start = .ok names)
      (above : directory <+: names) (usual : name ∈ projectName :: usualNames) :
      LooksAt p none start (Project.complete (directory ++ [name]))

/-- What makes loading break down, and with which fault. -/
inductive LoadCause (reader : DocumentReader) (p : Project) (path : Option String) (start : String) :
    Fault → Prop where
  /-- The tools that a project file configures are something else than a table. -/
  | tools {file : Path} {octets : List UInt8} {document tools : Value} (looks : LooksAt p path start file)
      (isProject : file.name = projectName) (opened : p.octetsOf file = .ok octets)
      (isText : Text.fault? octets = none)
      (parsed : reader.project (Text.decode octets) = some document)
      (under : Value.lookup (document.entries?.getD []) "tool" = some tools)
      (noTable : tools.entries? = none) (truthy : tools.isTruthy = true) :
      LoadCause reader p path start (.noEntries tools)
  /-- A file holds octets that write no text. -/
  | octets {file : Path} {octets : List UInt8} {fault : Text.OctetFault} (looks : LooksAt p path start file)
      (opened : p.octetsOf file = .ok octets)
      (noText : (if file.name = projectName then Text.fault? octets else Text.streamFault? octets) =
        some fault) :
      LoadCause reader p path start (.notText fault)
  /-- The path of a file is too long. -/
  | name {file : Path} (looks : LooksAt p path start file) (long : p.land file = .error .nameTooLong) :
      LoadCause reader p path start (.file file.toString .nameTooLong)
  /-- The search starts at a path that no file system is asked for. -/
  | null (searches : path = none) (holds : start.toList.contains '\x00' = true) :
      LoadCause reader p path start (.file start .nullCharacter)
  /-- The search starts at a path that leads back to itself. -/
  | loop {at_ : String} (searches : path = none) (unresolved : p.resolve start = .error (.linkLoop at_)) :
      LoadCause reader p path start (.linkLoop at_)

/-! ## Computations that break down for a cause only -/

/-- A computation gives a result with `Q`, fails in an announced way, or breaks down with a fault with
`P`. -/
def Settles {α : Type} (P : Fault → Prop) (Q : α → Prop) : Except LoadError α → Prop
  | .ok a => Q a
  | .error (.config _) => True
  | .error (.fault f) => P f

namespace Settles

variable {α β : Type} {P : Fault → Prop} {Q : α → Prop} {R : β → Prop}

/-- An error that settles one reading settles every reading. -/
theorem error {e : LoadError} (h : Settles P Q (.error e)) : Settles P R (.error e) := by
  cases e with
  | config e => trivial
  | fault f => exact h

/-- Two readings settle one after the other. -/
theorem bind {x : Except LoadError α} {g : α → Except LoadError β} (hx : Settles P Q x)
    (hg : ∀ a, Q a → Settles P R (g a)) : Settles P R (x >>= g) := by
  cases x with
  | ok a => exact hg a hx
  | error e => exact hx.error

/-- A reading that settles with more settles with less. -/
theorem mono {Q' : α → Prop} {x : Except LoadError α} (hx : Settles P Q x) (h : ∀ a, Q a → Q' a) :
    Settles P Q' x := by
  cases x with
  | ok a => exact h a hx
  | error e => exact hx.error

/-- A computation that only knows faults. -/
theorem ofFault {x : Except Fault α} (hok : ∀ a, x = .ok a → Q a) (herror : ∀ f, x = .error f → P f) :
    Settles P Q (x.mapError .fault) := by
  cases x with
  | ok a => exact hok a rfl
  | error f => exact herror f rfl

/-- A computation that only fails in announced ways. -/
theorem ofConfig (x : Except ConfigError α) : Settles P (fun _ => True) (x.mapError .config) := by
  cases x <;> trivial

end Settles

/-! ## Looking up paths -/

namespace Project

variable {p : Project} {path : Path}

/-- A path that cannot be looked up is too long. -/
theorem land_of_lookUp_error {f : Fault} (h : p.lookUp path = .error f) :
    p.land path = .error .nameTooLong ∧ f = .file path.toString .nameTooLong := by
  unfold lookUp at h
  split at h
  · cases h
  · next e he =>
    split at h
    · cases h
    · next habsent =>
      have hlong : e = .nameTooLong := by
        cases e <;> first | rfl | exact absurd rfl habsent
      subst hlong
      cases h
      unfold entryAt at he
      split at he
      · next hland =>
        cases he
        exact ⟨hland, rfl⟩
      · cases he
      · cases he

/-- What is a file can be opened. -/
theorem octetsOf_of_isFileEntry (h : (p.lookUp path).map isFileEntry = .ok true) :
    ∃ octets, p.octetsOf path = .ok octets := by
  unfold lookUp at h
  split at h
  · next e he =>
    cases e with
    | file octets =>
      refine ⟨octets, ?_⟩
      unfold octetsOf
      rw [he]
    | link target => cases h
    | dir entries => cases h
  · split at h <;> cases h

/-- What can be opened is a file. -/
theorem isFileEntry_of_octetsOf {octets : List UInt8} (h : p.octetsOf path = .ok octets) :
    (p.lookUp path).map isFileEntry = .ok true := by
  unfold octetsOf at h
  split at h
  · cases h
  · next he =>
    unfold lookUp
    rw [he]
    rfl
  · cases h

/-- A start is not resolved if it holds a null character or its links lead in a circle. -/
theorem resolve_error {start : String} {f : Fault} (h : p.resolve start = .error f) :
    (start.toList.contains '\x00' = true ∧ f = .file start .nullCharacter) ∨
      ∃ at_, f = .linkLoop at_ := by
  unfold resolve at h
  split at h
  · next hholds =>
    cases h
    exact .inl ⟨hholds, rfl⟩
  · dsimp only at h
    split at h
    · cases h
      exact .inr ⟨_, rfl⟩
    · cases h

end Project

/-! ## The parts of loading -/

section Parts

variable (reader : DocumentReader) {p : Project} {path : Option String} {start : String}

/-- To ask whether a path is a file settles: what is one can be opened. -/
theorem isFile_settles {file : Path} (looks : LooksAt p path start file) :
    Settles (LoadCause reader p path start) (fun isFile => isFile = true →
      ∃ octets, p.octetsOf file = .ok octets)
      (((p.lookUp file).map Project.isFileEntry).mapError .fault) := by
  refine Settles.ofFault ?_ ?_
  · rintro isFile hfound rfl
    exact Project.octetsOf_of_isFileEntry hfound
  · intro f hf
    cases hlookUp : p.lookUp file with
    | ok found =>
      rw [hlookUp] at hf
      cases hf
    | error g =>
      rw [hlookUp] at hf
      cases hf
      obtain ⟨hland, rfl⟩ := Project.land_of_lookUp_error hlookUp
      exact .name looks hland

/-- The section of a project document is found, or the tools are no mapping though they count as true. -/
theorem section?_cases (document : Value) :
    (∃ found, section? document = .ok found) ∨
      ∃ tools, Value.lookup (document.entries?.getD []) "tool" = some tools ∧ tools.entries? = none ∧
        tools.isTruthy = true ∧ section? document = .error (.fault (.noEntries tools)) := by
  unfold section?
  split
  · exact .inl ⟨_, rfl⟩
  · exact .inl ⟨_, rfl⟩
  · next tools hnoMapping hlookup =>
    have hnone : tools.entries? = none := by
      cases tools with
      | mapping entries => exact absurd rfl (hnoMapping entries)
      | _ => rfl
    cases htruthy : tools.isTruthy with
    | true => exact .inr ⟨tools, hlookup, hnone, htruthy, rfl⟩
    | false => exact .inl ⟨none, rfl⟩

/-- To read the section of an opened project document settles. -/
theorem projectSection?_settles {file : Path} {octets : List UInt8} (looks : LooksAt p path start file)
    (isProject : file.name = projectName) (opened : p.octetsOf file = .ok octets) (shown : String) :
    Settles (LoadCause reader p path start) (fun _ => True)
      (projectSection? reader shown (p.octetsOf file)) := by
  rw [opened]
  unfold projectSection?
  dsimp only
  cases hfault : Text.fault? octets with
  | some fault => exact .octets looks opened (by rw [if_pos isProject, hfault])
  | none =>
    cases hdocument : reader.project (Text.decode octets) with
    | none => trivial
    | some document =>
      dsimp only
      rcases section?_cases document with ⟨found, hfound⟩ | ⟨tools, hunder, hnoTable, htruthy, hfault'⟩
      · rw [hfound]
        trivial
      · rw [hfault']
        exact .tools looks isProject opened hfault hdocument hunder hnoTable htruthy

/-- To read the entries of an opened document settles. -/
theorem readEntries_settles {file : Path} {octets : List UInt8} (looks : LooksAt p path start file)
    (noProject : file.name ≠ projectName) (opened : p.octetsOf file = .ok octets) (shown : String) :
    Settles (LoadCause reader p path start) (fun _ => True)
      (readEntries reader shown (p.octetsOf file)) := by
  rw [opened]
  unfold readEntries
  dsimp only
  split
  · next fault hfault => exact .octets looks opened (by rw [if_neg noProject, hfault])
  · split <;> trivial

/-- To read an opened file settles, whichever kind of document it is. -/
theorem readFile_settles {file : Path} {octets : List UInt8} (looks : LooksAt p path start file)
    (opened : p.octetsOf file = .ok octets) (shown : String) :
    Settles (LoadCause reader p path start) (fun _ => True)
      (readFile reader shown file.name (p.octetsOf file)) := by
  unfold readFile
  split
  · next hname =>
    have hsection := projectSection?_settles reader looks (beq_iff_eq.1 hname) opened shown
    split
    · next e he =>
      rw [he] at hsection
      exact hsection.error
    · trivial
    · trivial
  · next hname =>
    exact readEntries_settles reader looks (fun h => hname (beq_iff_eq.2 h)) opened shown

/-- To look for the first file of a row settles with one of the row that can be opened. -/
theorem firstFile?_settles {rows : List (List String)}
    (looks : ∀ names ∈ rows, LooksAt p path start (Project.complete names)) :
    Settles (LoadCause reader p path start) (fun found => ∀ names, found = some names →
      names ∈ rows ∧ ∃ octets, p.octetsAt names = .ok octets) (firstFile? p rows) := by
  induction rows with
  | nil =>
    intro names hnames
    cases hnames
  | cons row rows ih =>
    have hrow := isFile_settles reader (looks row List.mem_cons_self)
    refine Settles.bind hrow fun isFile hopened => ?_
    cases isFile with
    | true =>
      intro names hnames
      cases hnames
      exact ⟨List.mem_cons_self, hopened rfl⟩
    | false =>
      have hrest := ih fun names hnames => looks names (List.mem_cons_of_mem row hnames)
      refine Settles.mono hrest fun found hfound names hnames => ?_
      obtain ⟨hmem, hoctets⟩ := hfound names hnames
      exact ⟨List.mem_cons_of_mem row hmem, hoctets⟩

variable {names : List String}

/-- A directory in which the search looks: what it finds there is a file that loading looks at. -/
theorem inDirectory?_settles (resolved : p.resolve start = .ok names) (directory : List String)
    (above : directory <+: names) :
    Settles (LoadCause reader p none start) (fun found => ∀ file, found = some file →
      LooksAt p none start (Project.complete file) ∧ ∃ octets, p.octetsAt file = .ok octets)
      (inDirectory? reader p directory) := by
  have hlooks {name : String} (usual : name ∈ projectName :: usualNames) :
      LooksAt p none start (Project.complete (directory ++ [name])) := .met resolved above usual
  have husual : ∀ row ∈ usualNames.map (fun name => directory ++ [name]),
      LooksAt p none start (Project.complete row) := by
    intro row hrow
    obtain ⟨name, hname, rfl⟩ := List.mem_map.1 hrow
    exact hlooks (List.mem_cons_of_mem _ hname)
  unfold inDirectory?
  refine Settles.bind (firstFile?_settles reader husual) fun found hfound => ?_
  cases found with
  | some file =>
    intro other hother
    cases hother
    obtain ⟨hmem, hoctets⟩ := hfound file rfl
    exact ⟨husual file hmem, hoctets⟩
  | none =>
    have hproject := hlooks List.mem_cons_self
    refine Settles.bind (isFile_settles reader hproject) fun isFile hopened => ?_
    cases isFile with
    | false =>
      intro file hfile
      cases hfile
    | true =>
      obtain ⟨octets, hoctets⟩ := hopened rfl
      have hname : (Project.complete (directory ++ [projectName])).name = projectName := by
        unfold Path.name Project.complete
        rw [List.getLast?_concat]
        rfl
      refine Settles.bind (projectSection?_settles reader hproject hname hoctets _) fun section_ _ => ?_
      intro file hfile
      cases section_ with
      | none => cases hfile
      | some entries =>
        cases hfile
        exact ⟨hproject, octets, hoctets⟩

/-- A search goes on above a directory in which nothing is found. -/
theorem search?_above {name : String} {behind : List String}
    (h : inDirectory? reader p (name :: behind).reverse = .ok none) :
    search? reader p (name :: behind) = search? reader p behind := by
  conv_lhs => unfold search?
  rw [h]

/-- A search ends in a directory that answers. -/
theorem search?_here {name : String} {behind : List String}
    (h : inDirectory? reader p (name :: behind).reverse ≠ .ok none) :
    search? reader p (name :: behind) = inDirectory? reader p (name :: behind).reverse := by
  unfold search?
  split
  · next hnone => exact absurd hnone h
  · rfl

/-- A search upwards settles with a file at the start or above it that can be opened. -/
theorem search?_settles (resolved : p.resolve start = .ok names) (behind : List String)
    (above : behind.reverse <+: names) :
    Settles (LoadCause reader p none start) (fun found => ∀ file, found = some file →
      LooksAt p none start (Project.complete file) ∧ ∃ octets, p.octetsAt file = .ok octets)
      (search? reader p behind) := by
  induction behind with
  | nil =>
    unfold search?
    exact inDirectory?_settles reader resolved [] above
  | cons name behind ih =>
    have hhere := inDirectory?_settles reader resolved (name :: behind).reverse above
    have habove : behind.reverse <+: names := by
      rw [List.reverse_cons] at above
      exact (List.prefix_append _ _).trans above
    by_cases hnone : inDirectory? reader p (name :: behind).reverse = .ok none
    · rw [search?_above reader hnone]
      exact ih habove
    · rw [search?_here reader hnone]
      exact hhere

/-- To look for a configuration file settles with one that can be opened. -/
theorem find?_settles :
    Settles (LoadCause reader p none start) (fun found => ∀ file, found = some file →
      LooksAt p none start (Project.complete file) ∧ ∃ octets, p.octetsAt file = .ok octets)
      (find? reader p start) := by
  have hresolve : Settles (LoadCause reader p none start) (fun names => p.resolve start = .ok names)
      ((p.resolve start).mapError .fault) := by
    refine Settles.ofFault (fun names hnames => hnames) fun f hf => ?_
    rcases Project.resolve_error hf with ⟨hholds, rfl⟩ | ⟨at_, rfl⟩
    · exact .null rfl hholds
    · exact .loop rfl hf
  unfold find?
  refine Settles.bind hresolve fun names resolved => ?_
  exact search?_settles reader resolved names.reverse (by simp)

/-- To read a file that was asked for settles. -/
theorem read_settles {asked : String} {octets : List UInt8} (opened : p.octets asked = .ok octets) :
    Settles (LoadCause reader p (some asked) start) (fun _ => True) (ConfigFile.read reader p asked) :=
  readFile_settles reader (.asked asked start) opened _

/-- To load the entries of a configuration settles. -/
theorem loadEntries_settles :
    Settles (LoadCause reader p path start) (fun _ => True)
      (Settings.loadEntries reader p path start) := by
  unfold Settings.loadEntries
  cases path with
  | some asked =>
    refine Settles.bind (isFile_settles reader (.asked asked start)) fun isFile hopened => ?_
    cases isFile with
    | false => trivial
    | true =>
      obtain ⟨octets, hoctets⟩ := hopened rfl
      exact read_settles reader hoctets
  | none =>
    refine Settles.bind (find?_settles reader) fun found hfound => ?_
    cases found with
    | none => trivial
    | some file =>
      obtain ⟨hlooks, octets, hoctets⟩ := hfound file rfl
      exact readFile_settles reader hlooks hoctets _

end Parts

namespace Settings

variable (reader : DocumentReader) (p : Project) (start : String)

/-- Loading gives settings, fails in an announced way, or breaks down for one of the causes. -/
theorem load_outcome (path : Option String) :
    (∃ s, load reader p path start = .ok s) ∨ (∃ e, load reader p path start = .error (.config e)) ∨
      ∃ f, load reader p path start = .error (.fault f) ∧ LoadCause reader p path start f := by
  have hsettles : Settles (LoadCause reader p path start) (fun _ => True)
      (load reader p path start) := by
    unfold load
    exact Settles.bind (loadEntries_settles reader) fun entries _ => Settles.ofConfig _
  match hload : load reader p path start with
  | .ok s => exact .inl ⟨s, rfl⟩
  | .error (.config e) => exact .inr (.inl ⟨e, rfl⟩)
  | .error (.fault f) =>
    rw [hload] at hsettles
    exact .inr (.inr ⟨f, rfl, hsettles⟩)

/-! ## Project files of other programs -/

/-- What is missing is no file. -/
theorem isFileAt_of_missing {names landing : List String}
    (h : p.land (Project.complete names) = .ok ⟨landing, none⟩) :
    ConfigFile.isFileAt p names = .ok false := by
  unfold ConfigFile.isFileAt Project.isFileAt Project.lookUp Project.entryAt
  rw [h]
  rfl

/-- A row without files has no first one. -/
theorem firstFile?_none {rows : List (List String)}
    (h : ∀ names ∈ rows, ConfigFile.isFileAt p names = .ok false) : firstFile? p rows = .ok none := by
  induction rows with
  | nil => rfl
  | cons names rows ih =>
    unfold firstFile?
    rw [h names List.mem_cons_self]
    exact ih fun other hother => h other (List.mem_cons_of_mem names hother)

/-- The octets at a path are those of the file that it leads to. -/
theorem octetsAt_of_land {names landing : List String} {octets : List UInt8}
    (h : p.land (Project.complete names) = .ok ⟨landing, some (.file octets)⟩) :
    p.octetsAt names = .ok octets := by
  unfold Project.octetsAt Project.octetsOf Project.entryAt
  rw [h]

/-- A directory without files of the usual names and without a project file comes out empty. -/
theorem inDirectory?_of_missing {directory : List String}
    (h : ∀ name ∈ projectName :: usualNames, ConfigFile.isFileAt p (directory ++ [name]) = .ok false) :
    inDirectory? reader p directory = .ok none := by
  have husual : firstFile? p (usualNames.map fun name => directory ++ [name]) = .ok none := by
    refine firstFile?_none p fun names hnames => ?_
    obtain ⟨name, hname, rfl⟩ := List.mem_map.1 hnames
    exact h name (List.mem_cons_of_mem _ hname)
  unfold inDirectory?
  rw [husual]
  dsimp only [bind, Except.bind]
  rw [h projectName List.mem_cons_self]
  rfl

/-- The search ends in the nearest directory that does not come out empty. -/
theorem search?_eq {directory names : List String} (above : directory <+: names)
    (below : ∀ d, directory <+: d → d <+: names → d ≠ directory → inDirectory? reader p d = .ok none)
    (ends : inDirectory? reader p directory ≠ .ok none) :
    search? reader p names.reverse = inDirectory? reader p directory := by
  obtain ⟨rest, rfl⟩ := above
  induction rest using List.reverseRecOn with
  | nil =>
    rw [List.append_nil]
    cases hbehind : directory.reverse with
    | nil =>
      rw [List.reverse_eq_nil_iff.1 hbehind]
      unfold search?
      rfl
    | cons name behind =>
      have hdirectory : (name :: behind).reverse = directory := by
        rw [← hbehind, List.reverse_reverse]
      rw [search?_here reader (by rw [hdirectory]; exact ends), hdirectory]
  | append_singleton rest name ih =>
    have hempty : inDirectory? reader p (directory ++ (rest ++ [name])) = .ok none :=
      below _ (List.prefix_append _ _) List.prefix_rfl (by simp)
    have hbehind : (directory ++ (rest ++ [name])).reverse = name :: (directory ++ rest).reverse := by
      simp
    have hdirectory : (name :: (directory ++ rest).reverse).reverse =
        directory ++ (rest ++ [name]) := by
      rw [← hbehind, List.reverse_reverse]
    rw [hbehind, search?_above reader (by rw [hdirectory]; exact hempty)]
    refine ih fun d hd hrest => below d hd (hrest.trans ?_)
    rw [← List.append_assoc]
    exact List.prefix_append _ _

/-- A project file whose tools are something else than a table makes loading break down, if the search
comes to it. -/
theorem load_other_tools {names directory : List String} {octets : List UInt8} {document tools : Value}
    (resolved : p.resolve start = .ok names) (above : directory <+: names)
    (below : ∀ d, directory <+: d → d <+: names → d ≠ directory → inDirectory? reader p d = .ok none)
    (noUsual : firstFile? p (usualNames.map fun name => directory ++ [name]) = .ok none)
    (opened : p.octetsAt (directory ++ [projectName]) = .ok octets)
    (isText : Text.fault? octets = none)
    (parsed : reader.project (Text.decode octets) = some document)
    (under : Value.lookup (document.entries?.getD []) "tool" = some tools)
    (noTable : tools.entries? = none) (truthy : tools.isTruthy = true) :
    load reader p none start = .error (.fault (.noEntries tools)) := by
  have hfile : ConfigFile.isFileAt p (directory ++ [projectName]) = .ok true := by
    unfold ConfigFile.isFileAt Project.isFileAt
    rw [Project.isFileEntry_of_octetsOf opened]
    rfl
  have hsection : section? document = .error (.fault (.noEntries tools)) := by
    unfold section?
    rw [under]
    cases tools with
    | mapping entries => cases noTable
    | _ => simp only [truthy, if_true]
  have hproject (shown : String) : projectSection? reader shown (.ok octets) =
      .error (.fault (.noEntries tools)) := by
    unfold projectSection?
    dsimp only
    rw [isText]
    dsimp only
    rw [parsed]
    exact hsection
  have hdirectory : inDirectory? reader p directory = .error (.fault (.noEntries tools)) := by
    unfold inDirectory?
    rw [noUsual]
    dsimp only [bind, Except.bind]
    rw [hfile]
    dsimp only
    rw [opened, if_pos rfl, hproject]
  have hfind : find? reader p start = .error (.fault (.noEntries tools)) := by
    unfold find?
    rw [resolved]
    dsimp only [Except.mapError, bind, Except.bind]
    rw [search?_eq reader p above below (by rw [hdirectory]; simp), hdirectory]
  unfold load loadEntries
  dsimp only
  rw [hfind]
  rfl

/-- What the project file of some other program holds. -/
def otherText : Text := "tool = 'none'\n".toList

/-- A directory below one that holds the project file of some other program. -/
def belowOther : Project :=
  ⟨.dir [("app", .dir []), ("pyproject.toml", .file (Text.encode otherText))], ["app"]⟩

/-- A reader that knows the project file. -/
def otherReader : DocumentReader where
  configuration := fun _ => .error "no configuration file"
  project := fun t => if t = otherText then some (.mapping [("tool", .string "none")]) else none

/-- There is no configuration file in the directory of the example. -/
theorem land_belowOther_app {name : String} (h : name ∈ projectName :: usualNames) :
    belowOther.land (Project.complete ["app", name]) = .ok ⟨["app", name], none⟩ := by
  unfold usualNames projectName at h
  simp only [List.mem_cons, List.not_mem_nil, or_false] at h
  rcases h with rfl | rfl | rfl | rfl
  all_goals
    change belowOther.top.walk Entry.linkLimit [] ["app", _] = _
    unfold Entry.walk
    change Entry.walk Entry.linkLimit [("app", belowOther.top)] (.dir []) [_] = _
    unfold Entry.walk
    rfl

/-- There is no usual configuration file above it. -/
theorem land_belowOther_usual {name : String} (h : name ∈ usualNames) :
    belowOther.land (Project.complete [name]) = .ok ⟨[name], none⟩ := by
  unfold usualNames at h
  simp only [List.mem_cons, List.not_mem_nil, or_false] at h
  rcases h with rfl | rfl | rfl
  all_goals
    change belowOther.top.walk Entry.linkLimit [] [_] = _
    unfold Entry.walk
    rfl

/-- There is a project document above it. -/
theorem land_belowOther_project : belowOther.land (Project.complete [projectName]) =
    .ok ⟨[projectName], some (.file (Text.encode otherText))⟩ := by
  change belowOther.top.walk Entry.linkLimit [] ["pyproject.toml"] = _
  unfold Entry.walk
  change Entry.walk Entry.linkLimit [("pyproject.toml", belowOther.top)] (.file _) [] = _
  unfold Entry.walk
  rfl

/-- The example starts in its directory. -/
theorem resolve_belowOther : belowOther.resolve "." = .ok ["app"] := by
  have hnames : belowOther.top.namesFrom Entry.linkLimit [] ["app"] = ["app"] := by
    unfold Entry.namesFrom
    change Entry.namesFrom belowOther.top Entry.linkLimit ["app"] [] = _
    unfold Entry.namesFrom
    rfl
  have hland : belowOther.land (Project.complete ["app"]) = .ok ⟨["app"], some (.dir [])⟩ := by
    change belowOther.top.walk Entry.linkLimit [] ["app"] = _
    unfold Entry.walk
    change Entry.walk Entry.linkLimit [("app", belowOther.top)] (.dir []) [] = _
    unfold Entry.walk
    rfl
  have hpath : belowOther.namesOf (.ofString ".") = ["app"] := by decide +kernel
  unfold Project.resolve
  rw [if_neg (by decide +kernel), hpath, hnames]
  dsimp only
  unfold Project.entryAt
  rw [hland]

/-- The project file of another program, in the directory above, makes loading break down: it neither
gives settings nor fails in an announced way. -/
theorem load_belowOther :
    load otherReader belowOther none "." = .error (.fault (.noEntries (.string "none"))) ∧
      (¬∃ s, load otherReader belowOther none "." = .ok s) ∧
      ¬∃ e, load otherReader belowOther none "." = .error (.config e) := by
  have hempty : inDirectory? otherReader belowOther ["app"] = .ok none :=
    inDirectory?_of_missing otherReader belowOther fun name hname =>
      isFileAt_of_missing belowOther (land_belowOther_app hname)
  have hbelow : ∀ d, [] <+: d → d <+: ["app"] → d ≠ [] →
      inDirectory? otherReader belowOther d = .ok none := by
    intro d _ hd hne
    cases d with
    | nil => exact absurd rfl hne
    | cons name rest =>
      obtain ⟨rfl, hrest⟩ := List.cons_prefix_cons.1 hd
      rw [List.prefix_nil.1 hrest]
      exact hempty
  have husual : firstFile? belowOther (usualNames.map fun name => [] ++ [name]) = .ok none := by
    refine firstFile?_none belowOther fun names hnames => ?_
    obtain ⟨name, hname, rfl⟩ := List.mem_map.1 hnames
    exact isFileAt_of_missing belowOther (land_belowOther_usual hname)
  have htext : Text.decode (Text.encode otherText) = otherText := by decide +kernel
  have hparsed : otherReader.project (Text.decode (Text.encode otherText)) =
      some (.mapping [("tool", .string "none")]) := by
    rw [htext]
    unfold otherReader
    dsimp only
    rw [if_pos rfl]
  have hload : load otherReader belowOther none "." = .error (.fault (.noEntries (.string "none"))) :=
    load_other_tools otherReader belowOther "." resolve_belowOther List.nil_prefix hbelow husual
      (octetsAt_of_land belowOther land_belowOther_project) (by decide +kernel) hparsed rfl rfl rfl
  rw [hload]
  exact ⟨rfl, fun ⟨_, h⟩ => (by cases h), fun ⟨_, h⟩ => (by cases h)⟩

end Settings

end UxLint
