import MultiRelease.Files.Content
import MultiRelease.Files.Path

/-!
# Trees of files

`Files` is the state of a file tree: what stands at each address, an address being the list of names
that leads there from the root.  The order of the list is the order in which a folder is
enumerated.

A path is resolved step by step (`Files.walk`).  Every step has to start in a folder, two dots lead
to the parent, and a symbolic link is followed wherever it occurs, at most `maxLinks` times in all.
Asking what a path names therefore always sees through links; only the enumeration of a folder
(`Files.list?`) and the search through everything below it (`Files.below`) show links as such.

Who has opened a file (`OpenFile`) sees later changes of its content.  A file that is removed keeps
its content for those who have it open; a file that is written in its place is another file.
-/

set_option autoImplicit false

namespace MultiRelease

/-- The names that lead from the root to a place. -/
abbrev Address := List String

/-- What can stand at an address. -/
inductive FileEntry where
  | folder
  | file (content : Content) (executable : Bool)
  | link (target : Path)
deriving Inhabited

namespace FileEntry

/-- Whether the entry is a folder. -/
def isFolder : FileEntry → Bool
  | folder => true
  | _ => false

/-- Whether the entry is a file. -/
def isFile : FileEntry → Bool
  | file _ _ => true
  | _ => false

end FileEntry

/-- A file tree together with the folder from which relative paths start. -/
structure Files where
  entries : List (Address × FileEntry)
  workingFolder : Address := []
  /-- The files that have been removed, in the order of their removal. -/
  removed : List (Address × Content) := []
deriving Inhabited

/-- A file that has been opened. -/
structure OpenFile where
  address : Address
  /-- How many files had been removed from the address before. -/
  earlier : Nat
deriving Repr, DecidableEq, Inhabited

namespace Files

/-- How many links may be followed on the way to one place. -/
def maxLinks : Nat := 40

/-! ## Looking at addresses -/

/-- What stands at an address; the root is a folder. -/
def entryAt? (files : Files) (address : Address) : Option FileEntry :=
  if address = [] then some .folder
  else (files.entries.find? (·.1 = address)).map (·.2)

/-- The name under which a place stands directly in a folder. -/
def childName? (folder address : Address) : Option String :=
  match folder.isPrefixOf? address with
  | some [name] => some name
  | _ => none

/-- What stands directly in a folder, in the order of enumeration. -/
def childrenAt (files : Files) (folder : Address) : List (String × FileEntry) :=
  files.entries.filterMap fun (address, entry) =>
    (childName? folder address).map fun name => (name, entry)

/-- What stands anywhere below a folder, with the names that lead there from the folder.  Links are
not followed. -/
def belowAt (files : Files) (folder : Address) : List (List String × FileEntry) :=
  files.entries.filterMap fun (address, entry) =>
    match folder.isPrefixOf? address with
    | some (name :: names) => some (name :: names, entry)
    | _ => none

/-! ## Resolving paths -/

/-- The place that some steps lead to, starting in a given place, if `links` may be followed. -/
def walk (files : Files) (links : Nat) (here : Address) : List String → Option Address
  | [] => some here
  | step :: steps =>
    if (files.entryAt? here).any FileEntry.isFolder then
      if step = "." then walk files links here steps
      else if step = ".." then walk files links here.dropLast steps
      else
        match files.entryAt? (here ++ [step]) with
        | none => none
        | some (.link target) =>
          match links with
          | 0 => none
          | links + 1 =>
            walk files links (if target.isAbsolute then [] else here) (target.steps ++ steps)
        | some _ => walk files links (here ++ [step]) steps
    else none
termination_by steps => (links, steps.length)

/-- The place where the steps of a path start. -/
def start (files : Files) (path : Path) : Address :=
  if path.isAbsolute then [] else files.workingFolder

/-- The place that a path names. -/
def resolve? (files : Files) (path : Path) : Option Address :=
  if path.text = "" then none else files.walk maxLinks (files.start path) path.steps

/-- What a path names. -/
def entry? (files : Files) (path : Path) : Option FileEntry :=
  (files.resolve? path).bind files.entryAt?

/-- Whether a path names a file. -/
def isFile (files : Files) (path : Path) : Bool := (files.entry? path).any FileEntry.isFile

/-- Whether a path names a folder. -/
def isFolder (files : Files) (path : Path) : Bool := (files.entry? path).any FileEntry.isFolder

/-- The content of the file that a path names. -/
def read? (files : Files) (path : Path) : Option Content :=
  match files.entry? path with
  | some (.file content _) => some content
  | _ => none

/-- The contents of the files that have been removed from an address. -/
def removedAt (files : Files) (address : Address) : List Content :=
  files.removed.filterMap fun (other, content) => if other = address then some content else none

/-- Opens the file that a path names. -/
def openFile? (files : Files) (path : Path) : Option OpenFile :=
  match files.resolve? path with
  | some address =>
    if (files.entryAt? address).any FileEntry.isFile then
      some ⟨address, (files.removedAt address).length⟩
    else none
  | none => none

/-- The present content of an open file. -/
def contentOf? (files : Files) (file : OpenFile) : Option Content :=
  match (files.removedAt file.address)[file.earlier]?, files.entryAt? file.address with
  | some content, _ => some content
  | none, some (.file content _) => some content
  | none, _ => none

/-- What stands directly in the folder that a path names. -/
def list? (files : Files) (path : Path) : Option (List (String × FileEntry)) :=
  match files.resolve? path with
  | some address =>
    if (files.entryAt? address).any FileEntry.isFolder then some (files.childrenAt address)
    else none
  | none => none

/-- What stands anywhere below the folder that a path names. -/
def below (files : Files) (path : Path) : List (List String × FileEntry) :=
  match files.resolve? path with
  | some address =>
    if (files.entryAt? address).any FileEntry.isFolder then files.belowAt address else []
  | none => []

/-- The absolute path of an address. -/
def absolutePath (address : Address) : Path := ⟨"/" ++ "/".intercalate address⟩

/-- The absolute path, without links and dots, of what a path names. -/
def canonicalize? (files : Files) (path : Path) : Option Path :=
  (files.resolve? path).map absolutePath

/-! ## Changing the tree -/

/-- The place that a path would name once it exists: links on the way are followed, and names that
do not exist are taken as they are. -/
def placeOf (files : Files) (links : Nat) (here : Address) : List String → Address
  | [] => here
  | step :: steps =>
    if step = "." then placeOf files links here steps
    else if step = ".." then placeOf files links here.dropLast steps
    else
      match files.entryAt? (here ++ [step]), links with
      | some (.link target), links + 1 =>
        placeOf files links (if target.isAbsolute then [] else here) (target.steps ++ steps)
      | _, links => placeOf files links (here ++ [step]) steps
termination_by steps => (links, steps.length)

/-- Puts an entry at an address, in place of what stands there. -/
def putAt (files : Files) (address : Address) (entry : FileEntry) : Files :=
  if files.entries.any (·.1 = address) then
    { files with
      entries := files.entries.map fun old => if old.1 = address then (address, entry) else old }
  else { files with entries := files.entries ++ [(address, entry)] }

/-- Makes sure that an address and all addresses on the way to it exist. -/
def makeFolders (files : Files) : Address → Address → Files
  | _, [] => files
  | here, name :: names =>
    let here := here ++ [name]
    let files := if (files.entryAt? here).isSome then files else files.putAt here .folder
    makeFolders files here names

/-- What stands at an address after an entry is written there.  A file that is written over may be
executed if it could be before. -/
def written (old : Option FileEntry) : FileEntry → FileEntry
  | .file content executable =>
    match old with
    | some (.file _ before) => .file content (executable || before)
    | _ => .file content executable
  | entry => entry

/-- Puts an entry where a path leads, and folders on the way where there are none. -/
def write (files : Files) (path : Path) (entry : FileEntry) : Files :=
  let address := files.placeOf maxLinks (files.start path) path.steps
  match entry with
  | .folder => files.makeFolders [] address
  | entry =>
    (files.makeFolders [] address.dropLast).putAt address
      (written (files.entryAt? address) entry)

/-- Removes what stands at an address, with everything below it. -/
def removeAt (files : Files) (address : Address) : Files :=
  let (gone, kept) := files.entries.partition fun (other, _) => address.isPrefixOf other
  let removed := gone.filterMap fun
    | (other, .file content _) => some (other, content)
    | _ => none
  { files with entries := kept, removed := files.removed ++ removed }

/-- Removes what a path names, with everything below it.  A link at the end of the path is removed
itself. -/
def delete (files : Files) (path : Path) : Files :=
  match path.steps.getLast? with
  | some name =>
    let folder := files.placeOf maxLinks (files.start path) path.steps.dropLast
    files.removeAt (folder ++ [name])
  | none => files

end Files

end MultiRelease
