import MultiRelease.Module.Descriptor
import MultiRelease.NameMap
import MultiRelease.Platform.OpenArchive
import MultiRelease.Sorted

/-!
# Runtime images

The class library of the running JDK, in one of two forms: *exploded*, with a folder for each
module, or *packaged*, with an archive for each module that holds the classes under `classes/`.

An archive is opened when it is first needed and then kept, so a packaged image changes as it is
used.
-/

set_option autoImplicit false

namespace MultiRelease

/-- A class file together with the module that it was found in. -/
structure ImageClass where
  module : String
  bytes : List UInt8
deriving Repr, DecidableEq, Inhabited

/-- A runtime image. -/
inductive RuntimeImage where
  | exploded (root : Path) (modules : List String)
  /-- The archives of the modules, and those that have been opened. -/
  | packaged (archives : NameMap Path) (opened : NameMap OpenArchive)
deriving Inhabited

namespace RuntimeImage

/-- The folder of an exploded image in a JDK. -/
def explodedFolder : Path := ⟨"modules"⟩

/-- The folder of a packaged image in a JDK. -/
def packagedFolder : Path := ⟨"jmods"⟩

/-- The ending of the archives of a packaged image. -/
def moduleArchiveExtension : String := "jmod"

/-- The folder of the classes in an archive. -/
def classesFolder : String := "classes/"

/-! ## Opening -/

/-- The exploded image in a folder.  Every folder in it is a module, also one behind a link. -/
def openExploded (files : Files) (root : Path) : Except PlatformError RuntimeImage :=
  match files.list? root with
  | none => .error (.unreadable root)
  | some members =>
    let names := (members.map (·.1)).filter fun name => files.isFolder (root.child name)
    .ok (.exploded root (names.mergeSort fun a b => decide (a ≤ b)))

/-- The packaged image in a folder. -/
def openPackaged (files : Files) (folder : Path) : Except PlatformError RuntimeImage :=
  match files.list? folder with
  | none => .error (.unreadable folder)
  | some members =>
    let archives := members.filterMap fun (name, _) =>
      match splitExtension name with
      | some (stem, ending) =>
        if ending = moduleArchiveExtension then some (stem, folder.child name) else none
      | none => none
    .ok (.packaged (NameMap.ofList archives) {})

/-- The image of the JDK with the given home. -/
def openHome (files : Files) (home : Path) : Except PlatformError RuntimeImage :=
  if files.isFolder (home.join explodedFolder) then
    openExploded files (home.join explodedFolder)
  else if files.isFolder (home.join packagedFolder) then
    openPackaged files (home.join packagedFolder)
  else .error (.noRuntimeImage home)

/-- The modules of an image, in ascending order. -/
def modules : RuntimeImage → List String
  | exploded _ modules => modules
  | packaged archives _ => archives.keys

/-! ## Looking classes up -/

/-- The archive of a module in a packaged image, opened now if need be. -/
def openedArchive (files : Files) (opened : NameMap OpenArchive) (module : String) (path : Path) :
    Except PlatformError OpenArchive × NameMap OpenArchive :=
  match opened.get? module with
  | some archive => (.ok archive, opened)
  | none =>
    match files.openArchive path with
    | .ok archive => (.ok archive, opened.insert module archive)
    | .error error => (.error error, opened)

/-- The class with the given file name in one module. -/
def readClass (files : Files) (image : RuntimeImage) (module name : String) :
    Except PlatformError (Option (List UInt8)) × RuntimeImage :=
  match image with
  | exploded root _ =>
    (.ok ((files.read? ((root.child module).child name)).map Content.bytes), image)
  | packaged archives opened =>
    match archives.get? module with
    | none => (.ok none, image)
    | some path =>
      match openedArchive files opened module path with
      | (.ok archive, opened) =>
        (archive.read files (classesFolder ++ name) path, .packaged archives opened)
      | (.error error, opened) => (.error error, .packaged archives opened)

/-- The class with the given file name in the first of some modules that has it.  An error ends the
search. -/
def firstClass (files : Files) (image : RuntimeImage) (name : String) :
    List String → Except PlatformError (Option ImageClass) × RuntimeImage
  | [] => (.ok none, image)
  | module :: others =>
    match readClass files image module name with
    | (.ok (some bytes), image) => (.ok (some ⟨module, bytes⟩), image)
    | (.ok none, image) => firstClass files image name others
    | (.error error, image) => (.error error, image)

/-- The class with the given file name, in the given module, or in the first module that is
accepted and has it. -/
def findClass (files : Files) (image : RuntimeImage) (name : String) (module : Option String)
    (accepts : String → Bool) : Except PlatformError (Option ImageClass) × RuntimeImage :=
  match module with
  | some module => firstClass files image name [module]
  | none => firstClass files image name (image.modules.filter accepts)

/-- The compiled declarations of some modules, of those that have one. -/
def moduleInfosOf (files : Files) (image : RuntimeImage) :
    List String → Except PlatformError (List (String × List UInt8)) × RuntimeImage
  | [] => (.ok [], image)
  | module :: others =>
    match readClass files image module (moduleInfoName ++ ".class") with
    | (.error error, image) => (.error error, image)
    | (.ok found, image) =>
      match moduleInfosOf files image others with
      | (.error error, image) => (.error error, image)
      | (.ok infos, image) =>
        (.ok ((found.map fun bytes => (module, bytes)).toList ++ infos), image)

/-- The compiled declarations of the modules of an image, in the order of the modules. -/
def moduleInfos (files : Files) (image : RuntimeImage) :
    Except PlatformError (List (String × List UInt8)) × RuntimeImage :=
  moduleInfosOf files image image.modules

end RuntimeImage

end MultiRelease
