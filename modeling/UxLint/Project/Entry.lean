import UxLint.Text.Search

/-!
# Entries of directories

A directory holds its entries in increasing order of their names; each is a file, a link to another
name of the same directory, or a directory. A walk lists the files of a directory before those of the
directories in it. It leaves out directories that hold no sources, and enters no directory through a
link. A link that leads to no directory counts as a file, whether or not anything is there.
-/

set_option autoImplicit false

namespace UxLint

/-- What a name in a directory stands for. -/
inductive Entry where
  | file (octets : List UInt8)
  /-- A link to another name of the directory. -/
  | link (target : String)
  | dir (entries : List (String × Entry))
  deriving Inhabited

namespace Entry

/-- The entry of a name. -/
def get? (entries : List (String × Entry)) (name : String) : Option Entry :=
  (entries.find? fun e => e.1 == name).map (·.2)

/-- The entries with one of them replaced or added, in the order of their names. -/
def insert (name : String) (entry : Entry) : List (String × Entry) → List (String × Entry)
  | [] => [(name, entry)]
  | e :: rest =>
    if e.1 == name then (name, entry) :: rest
    else if name < e.1 then (name, entry) :: e :: rest
    else e :: insert name entry rest

/-- The entries without one of them. -/
def erase (name : String) (entries : List (String × Entry)) : List (String × Entry) :=
  entries.filter fun e => e.1 != name

/-- The entries of a directory; a file has none. -/
def entriesOf : Entry → List (String × Entry)
  | dir entries => entries
  | _ => []

/-- The entry at the end of a row of names. -/
def at? (e : Entry) : List String → Option Entry
  | [] => some e
  | name :: rest => (get? e.entriesOf name).bind fun sub => at? sub rest

/-- The entry with another one at the end of a row of names; directories are made on the way. -/
def put : Entry → List String → Entry → Entry
  | _, [], entry => entry
  | e, name :: rest, entry =>
    dir (insert name (put ((get? e.entriesOf name).getD (dir [])) rest entry) e.entriesOf)

/-- The entry without what is at the end of a row of names. -/
def remove : List String → Entry → Entry
  | [], e => e
  | [name], e => dir (erase name e.entriesOf)
  | name :: rest, e =>
    match get? e.entriesOf name with
    | none => e
    | some sub => dir (insert name (remove rest sub) e.entriesOf)

/-- How many links are followed on one way. -/
def linkLimit : Nat := 40

/-- Whether an entry among `entries` is a directory, or leads to one of them by at most `links` links. -/
def leadsToDir (entries : List (String × Entry)) : Nat → Entry → Bool
  | _, dir _ => true
  | _, file _ => false
  | 0, link _ => false
  | links + 1, link target =>
    match get? entries target with
    | none => false
    | some e => leadsToDir entries links e

/-- The directories that no walk enters. -/
def excludedNames : List String := ["node_modules", "dist", "build", ".git"]

/-- The names among some entries that lead to no directory. -/
def fileNames (entries : List (String × Entry)) : List String :=
  (entries.filter fun e => !leadsToDir entries linkLimit e.2).map (·.1)

mutual

/-- The files at and below an entry, by the names that lead to them. -/
def files : Entry → List (List String)
  | dir entries => (fileNames entries).map (fun name => [name]) ++ filesBelow entries
  | _ => []

/-- The files of the directories among some entries. -/
def filesBelow : List (String × Entry) → List (List String)
  | [] => []
  | (name, sub) :: rest =>
    (if excludedNames.contains name then [] else (files sub).map (name :: ·)) ++ filesBelow rest

end

/-- Whether a name in lower case starts with one of the given words. -/
def startsLike (words : List String) (name : String) : Bool :=
  words.any fun w => startsWith (lowercase name) w

/-- The files among some entries that a search finds: their names end in one of `endings`, and start
with one of `words` unless a directory above does, as `matched` says. -/
def found (endings words : List String) (matched : Bool) (entries : List (String × Entry)) :
    List (List String) :=
  ((fileNames entries).filter fun name =>
    endings.any (endsWith name) && (matched || startsLike words name)).map fun name => [name]

mutual

/-- The files at and below an entry that a search finds. -/
def search (endings words : List String) (matched : Bool) : Entry → List (List String)
  | dir entries => found endings words matched entries ++ searchBelow endings words matched entries
  | _ => []

/-- The files that a search finds in the directories among some entries. -/
def searchBelow (endings words : List String) (matched : Bool) :
    List (String × Entry) → List (List String)
  | [] => []
  | (name, sub) :: rest =>
    (if excludedNames.contains name then []
      else (search endings words (matched || startsLike words name) sub).map (name :: ·)) ++
      searchBelow endings words matched rest

end

end Entry

end UxLint
