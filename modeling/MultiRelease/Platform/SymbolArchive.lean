import MultiRelease.Platform.OpenArchive
import MultiRelease.Sorted
import MultiRelease.Text.Quoted

/-!
# The symbol archive

`lib/ct.sym` describes the platform classes of past releases.  Its top-level folders are named by
the codes of the releases that they apply to, one character each (`789ABC`, `B`).

There are two layouts.  In the *per-module* layout each release folder has one folder for each
module.  In the *legacy* layout the packages stand directly in the release folders, and the modules
of a release are described in a folder of its own, named by the code and `-modules`; the presence
of such a folder is what tells the layouts apart.

The index of an archive consists of its files and its folders, without leading and trailing
slashes, every folder on the way to a file or folder included.
-/

set_option autoImplicit false

namespace MultiRelease

open Text

/-- The place of the symbol archive in a JDK. -/
def symbolArchivePath : Path := ⟨"lib/ct.sym"⟩

/-- The ending of the folders that describe the modules of a release in the legacy layout. -/
def legacyModulesSuffix : String := "-modules"

/-- The name of a module description. -/
def moduleInfoSignature : String := "module-info.sig"

/-- The file that marks a release as identical to the running JDK. -/
def systemModulesMarker : String := "system-modules"

/-- A symbol archive with its index. -/
structure SymbolArchive where
  path : Path
  content : OpenArchive
  /-- The files, in ascending order. -/
  files : List String
  /-- The folders, in ascending order. -/
  folders : List String
deriving Inhabited

namespace SymbolArchive

/-! ## The index -/

/-- Everything before each slash of a name. -/
def cuts : List Char → List (List Char)
  | [] => []
  | c :: rest =>
    let deeper := (cuts rest).map (c :: ·)
    if c = '/' then [] :: deeper else deeper

/-- A name without its leading slashes. -/
def withoutLeadingSlashes (name : List Char) : List Char := name.dropWhile (· = '/')

/-- A name without its trailing slashes. -/
def withoutTrailingSlashes (name : List Char) : List Char :=
  (name.reverse.dropWhile (· = '/')).reverse

/-- What an entry contributes to the index: the file that it is, if it is one, and the folders. -/
def indexName (name : String) : List String × List String :=
  let name := withoutLeadingSlashes name.toList
  let trimmed := withoutTrailingSlashes name
  if trimmed = [] then ([], [])
  else
    let parents := (cuts trimmed).map String.ofList
    if name.getLast? = some '/' then ([], String.ofList trimmed :: parents)
    else ([String.ofList trimmed], parents)

/-- The archive with an index of the names of its entries. -/
def ofArchive (path : Path) (content : OpenArchive) : SymbolArchive :=
  let indexed := content.archive.entries.map fun entry => indexName entry.name
  { path, content
    files := sortedTexts (indexed.flatMap (·.1))
    folders := sortedTexts (indexed.flatMap (·.2)) }

/-- Opens the archive that a path names. -/
def openFile (files : Files) (path : Path) : Except PlatformError SymbolArchive :=
  match files.openArchive path with
  | .ok content => .ok (ofArchive path content)
  | .error error => .error error

/-- Opens the archive of the JDK with the given home. -/
def openHome (files : Files) (home : Path) : Except PlatformError SymbolArchive :=
  openFile files (home.join symbolArchivePath)

/-- Whether the archive has the per-module layout. -/
def perModule (archive : SymbolArchive) : Bool :=
  !archive.folders.any fun folder =>
    !folder.toList.contains '/' && hasSuffix legacyModulesSuffix folder

/-- Whether the archive has a folder; slashes at the end do not count. -/
def hasFolder (archive : SymbolArchive) (path : String) : Bool :=
  archive.folders.contains (String.ofList (withoutTrailingSlashes path.toList))

/-- Whether the archive has a file. -/
def hasFile (archive : SymbolArchive) (path : String) : Bool := archive.files.contains path

/-- Whether the archive has a file or folder. -/
def exists? (archive : SymbolArchive) (path : String) : Bool :=
  archive.hasFile path || archive.hasFolder path

/-! ## Releases -/

/-- The folder that lists the modules of a release. -/
def moduleFolder (archive : SymbolArchive) (code : Char) : String :=
  if archive.perModule then String.singleton code
  else String.singleton code ++ legacyModulesSuffix

/-- The top-level folders that apply to a release. -/
def releaseRoots (archive : SymbolArchive) (code : Char) : List String :=
  archive.folders.filter fun folder =>
    !folder.toList.contains '/' && !hasSuffix legacyModulesSuffix folder
      && folder.toList.contains code

/-- The names of the folders directly in a folder.  Folders with a common beginning stand together
in the index. -/
def childFolders (archive : SymbolArchive) (folder : String) : List String :=
  let beginning := folder ++ "/"
  let inside := (archive.folders.dropWhile fun name => decide (name < beginning)).takeWhile
    (hasPrefix beginning)
  inside.filterMap fun name =>
    (withoutPrefix? beginning name).filter fun rest => !rest.toList.contains '/'

/-- The path of a signature file in a module of a release folder. -/
def modulePath (root module signaturePath : String) : String :=
  s!"{root}/{module}/{signaturePath}"

/-- The modules of a release folder that have a signature file. -/
def modulesWith (archive : SymbolArchive) (root signaturePath : String) : List String :=
  (archive.childFolders root).filter fun module =>
    archive.hasFile (modulePath root module signaturePath)

/-- Where a signature file is found below one release folder. -/
def pathInRoot? (archive : SymbolArchive) (root signaturePath : String) (module : Option String) :
    Option String :=
  if archive.perModule then
    match module with
    | some module =>
      let path := modulePath root module signaturePath
      if archive.hasFile path then some path else none
    | none =>
      (archive.modulesWith root signaturePath).head?.map fun module =>
        modulePath root module signaturePath
  else
    let path := s!"{root}/{signaturePath}"
    if archive.hasFile path then some path else none

/-- Where the signature file of a release is found, in the given module or in any.  The legacy
layout knows no modules here. -/
def fullPath? (archive : SymbolArchive) (code : Char) (signaturePath : String)
    (module : Option String) : Option String :=
  (archive.releaseRoots code).findSome? fun root =>
    archive.pathInRoot? root signaturePath module

/-- The module that a signature file of a release belongs to, in the per-module layout. -/
def moduleOf? (archive : SymbolArchive) (code : Char) (signaturePath : String) : Option String :=
  if archive.perModule then
    (archive.releaseRoots code).findSome? fun root =>
      (archive.modulesWith root signaturePath).head?
  else none

/-- The data of the entry that is stored under exactly the given name.  As with all archives
(`OpenArchive.read`), it is left out that room is reserved for the stated size of the data before
they are read, and that a size beyond all memory ends the program there. -/
def fileBytes (archive : SymbolArchive) (files : Files) (path : String) :
    Except PlatformError (List UInt8) :=
  let place := archive.path.join ⟨path⟩
  match archive.content.read files path place with
  | .ok (some bytes) => .ok bytes
  | .ok none => .error (.badArchive place)
  | .error error => .error error

/-- The description of an archive as a structure. -/
def describe (archive : SymbolArchive) : String :=
  s!"CtSym \x7b path: {quoted archive.path.text}, files: {archive.files.length}, " ++
    s!"jre12_plus: {archive.perModule} \x7d"

end SymbolArchive

end MultiRelease
