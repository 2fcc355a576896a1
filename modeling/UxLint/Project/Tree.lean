import UxLint.Fault
import UxLint.Project.Entry
import UxLint.Project.Path
import UxLint.Text.Lines

/-!
# File trees

A file tree is seen from a directory in it. Going along the names of a path follows the links on the
way and ends at a place in the tree, where something may be or may be missing; this is where a file is
read or written. What lies above the top directory is the top directory itself.
-/

set_option autoImplicit false

namespace UxLint

/-- The octets of the longest name in a path. -/
def longestName : Nat := 255

/-- The octets of the longest path. -/
def longestPath : Nat := 4095

/-- Where a path ends in a tree. -/
structure Landing where
  /-- The names that lead there from the top directory without any link. -/
  names : List String
  entry : Option Entry

namespace Entry

/-- Goes along names from an entry, following at most `links` links. `behind` holds the directories on the
way to the entry, the nearest first, each with the name that leads on from it. -/
def walk (links : Nat) (behind : List (String × Entry)) (e : Entry) :
    List String → Except FileError Landing
  | [] => .ok ⟨(behind.map (·.1)).reverse, some e⟩
  | ".." :: rest =>
    match e, behind with
    | dir _, [] => walk links [] e rest
    | dir _, (_, up) :: above => walk links above up rest
    | _, _ => .error .notDirectory
  | name :: rest =>
    match e with
    | dir entries =>
      if longestName < name.utf8ByteSize then .error .nameTooLong
      else
        match get? entries name with
        | none =>
          if rest.isEmpty then .ok ⟨(name :: behind.map (·.1)).reverse, none⟩ else .error .missing
        | some (link target) =>
          match links with
          | 0 => .error .tooManyLinks
          | more + 1 => walk more behind e (target :: rest)
        | some sub => walk links ((name, e) :: behind) sub rest
    | _ => .error .notDirectory
termination_by names => (links, names.length)

/-- The names that lead from an entry to where names lead, as far as links are there to be followed;
what is missing is taken for a directory. `behind` are the names so far, the last one first. A link
beyond the first `links` is not followed, and what leads on from it is gone along as if nothing were
there. -/
def namesFrom (top : Entry) (links : Nat) (behind : List String) : List String → List String
  | [] => behind.reverse
  | ".." :: rest => namesFrom top links behind.tail rest
  | name :: rest =>
    match top.at? (behind.reverse ++ [name]) with
    | some (link target) =>
      match links with
      | 0 => (Path.mk .top (behind.reverse ++ name :: rest)).normalize.segments
      | more + 1 => namesFrom top more behind (target :: rest)
    | _ => namesFrom top links (name :: behind) rest
termination_by names => (links, names.length)

end Entry

/-- A file tree and the place in it from which paths lead on. -/
structure Project where
  top : Entry
  /-- The names that lead from the top directory to the current one. -/
  current : List String

namespace Project

/-- A tree with nothing in it but the current directory. -/
def empty (current : List String) : Project := ⟨(Entry.dir []).put current (.dir []), current⟩

/-- The path from the top directory to a row of names. -/
def complete (names : List String) : Path := ⟨.top, names⟩

/-- The names of a path from the top directory on. -/
def namesOf (p : Project) (path : Path) : List String :=
  if path.isAbsolute then path.segments else p.current ++ path.segments

/-- Where a path ends. -/
def land (p : Project) (path : Path) : Except FileError Landing :=
  if path.toString.toList.contains '\x00' then .error .nullCharacter
  else if longestPath < path.toString.utf8ByteSize then .error .nameTooLong
  else p.top.walk Entry.linkLimit [] (p.namesOf path)

/-- What a path leads to. -/
def entryAt (p : Project) (path : Path) : Except FileError Entry :=
  match p.land path with
  | .error e => .error e
  | .ok ⟨_, none⟩ => .error .missing
  | .ok ⟨_, some e⟩ => .ok e

/-- What a path leads to, if anything is there. A path that cannot be looked up raises a fault. -/
def lookUp (p : Project) (path : Path) : Except Fault (Option Entry) :=
  match p.entryAt path with
  | .ok e => .ok (some e)
  | .error e => if e.isAbsence then .ok none else .error (.file path.toString e)

/-- Whether what was found is a file. -/
def isFileEntry : Option Entry → Bool
  | some (.file _) => true
  | _ => false

/-- Whether a path leads to a file. -/
def isFile (p : Project) (path : String) : Except Fault Bool :=
  (p.lookUp (.ofString path)).map isFileEntry

/-- Whether a row of names leads from the top directory to a file. -/
def isFileAt (p : Project) (names : List String) : Except Fault Bool :=
  (p.lookUp (complete names)).map isFileEntry

/-- The octets of the file that a path leads to. -/
def octetsOf (p : Project) (path : Path) : Except FileError (List UInt8) :=
  match p.entryAt path with
  | .error e => .error e
  | .ok (.file octets) => .ok octets
  | .ok _ => .error .isDirectory

/-- The octets of the file that a written path leads to. -/
def octets (p : Project) (path : String) : Except FileError (List UInt8) := p.octetsOf (.ofString path)

/-- The octets of the file that a row of names leads to from the top directory. -/
def octetsAt (p : Project) (names : List String) : Except FileError (List UInt8) :=
  p.octetsOf (complete names)

/-- The text of a file, with all line ends made line feeds. -/
def read (p : Project) (path : String) : Except FileError Text :=
  (p.octets path).map fun octets => Text.unifyLineFeeds (Text.decode octets)

/-- The text of a file; nothing if the file system does not hand it out. -/
def readable? (p : Project) (path : String) : Except Fault (Option Text) :=
  match p.read path with
  | .ok t => .ok (some t)
  | .error e => if e.isOfFileSystem then .ok none else .error (.file path e)

/-! ## Changes -/

/-- The tree with an entry at the end of a row of names. -/
def place (p : Project) (names : List String) (entry : Entry) : Project :=
  { p with top := p.top.put names entry }

/-- Writes octets to a file in a directory that is there; through a link they go where it leads. -/
def writeOctets (p : Project) (path : String) (octets : List UInt8) : Except FileError Project :=
  match p.land (.ofString path) with
  | .error e => .error e
  | .ok ⟨_, some (.dir _)⟩ => .error .isDirectory
  | .ok landing => .ok (p.place landing.names (.file octets))

/-- Writes a text to a file in a directory that is there. -/
def write (p : Project) (path : String) (t : Text) : Except FileError Project :=
  p.writeOctets path (Text.encode t)

/-- The directory that holds the last name of a path: the names that lead to it, and its entries. -/
def holder (p : Project) (path : Path) : Except FileError (List String × List (String × Entry)) :=
  match p.land path.parent with
  | .error e => .error e
  | .ok ⟨names, some (.dir entries)⟩ => .ok (names, entries)
  | .ok ⟨_, some _⟩ => .error .notDirectory
  | .ok ⟨_, none⟩ => .error .missing

/-- The entry of the last name of a path, a link left as it is, and the names that lead to the entry. -/
def slot (p : Project) (path : Path) : Except FileError Landing := do
  let (names, entries) ← p.holder path
  if path.name == "" || path.name == ".." then throw .isDirectory
  if path.name.toList.contains '\x00' then throw .nullCharacter
  if longestName < path.name.utf8ByteSize then throw .nameTooLong
  return ⟨names ++ [path.name], Entry.get? entries path.name⟩

/-- Makes a directory in one that is there. One that is there already is left as it is. -/
def makeOne (p : Project) (path : Path) : Except FileError Project :=
  match p.lookUp path with
  | .ok (some (.dir _)) => .ok p
  | _ =>
    match p.slot path with
    | .error e => .error e
    | .ok ⟨_, some _⟩ => .error .alreadyThere
    | .ok ⟨names, none⟩ => .ok (p.place names (.dir []))

/-- Makes a directory and those above it, as far as they are not there. -/
def makeDirectory (p : Project) (path : Path) : Except FileError Project :=
  (List.range' 1 path.segments.length).foldlM
    (fun p n => p.makeOne { path with segments := path.segments.take n }) p

/-- Makes a link to another name of its directory. -/
def makeLink (p : Project) (path : String) (target : String) : Except FileError Project :=
  match p.slot (.ofString path) with
  | .error e => .error e
  | .ok ⟨_, some _⟩ => .error .alreadyThere
  | .ok ⟨names, none⟩ => .ok (p.place names (.link target))

/-- Takes a file or a link away; what a link leads to stays. -/
def delete (p : Project) (path : String) : Except FileError Project :=
  match p.slot (.ofString path) with
  | .error e => .error e
  | .ok ⟨_, none⟩ => .error .missing
  | .ok ⟨_, some (.dir _)⟩ => .error .isDirectory
  | .ok ⟨names, some _⟩ => .ok { p with top := p.top.remove names }

/-! ## Searches -/

/-- The path that leads from a directory to a file below it. -/
def below (root : Path) (names : List String) : String := (root.join ⟨.here, names⟩).toString

/-- The files below a directory whose names end in one of `endings` and, if there are `words`, that
start like one of them or lie below a directory that does. An empty path names no directory to list. -/
def search (p : Project) (root : String) (endings words : List String) :
    Except Fault (List String) :=
  (p.lookUp (.ofString root)).map fun found =>
    match found with
    | some (.dir entries) =>
      if root == "" then []
      else ((Entry.dir entries).search endings words words.isEmpty).map (below (.ofString root))
    | _ => []

/-- The files that a path stands for: itself, or all those below it. -/
def collect (p : Project) (path : String) : Except Fault (List String) :=
  (p.lookUp (.ofString path)).map fun found =>
    match found with
    | some (.dir entries) => (Entry.dir entries).files.map (below (.ofString path))
    | some (.file _) => [(Path.ofString path).toString]
    | _ => []

/-- The files that several paths stand for, path after path. -/
def collectAll (p : Project) (paths : List String) : Except Fault (List String) :=
  (paths.mapM p.collect).map List.flatten

/-- The names that lead from the top directory to where a path leads, links followed and what is
missing taken for directories. -/
def resolve (p : Project) (path : String) : Except Fault (List String) :=
  if path.toList.contains '\x00' then .error (.file path .nullCharacter)
  else
    let names := p.top.namesFrom Entry.linkLimit [] (p.namesOf (.ofString path))
    match p.entryAt (complete names) with
    | .error .tooManyLinks => .error (.linkLoop (complete names).toString)
    | _ => .ok names

end Project

end UxLint
