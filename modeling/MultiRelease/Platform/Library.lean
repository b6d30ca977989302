import MultiRelease.Lookup.Answer
import MultiRelease.Lookup.Query
import MultiRelease.Platform.RuntimeImage
import MultiRelease.Session
import MultiRelease.Text.Quoted

/-!
# The platform library

The classpath entry for the classes of a JDK.  It is named by the archive `lib/jrt-fs.jar`, of which
only the place matters: the JDK is two folders up, and the types come from its runtime image.  A JDK
without an image has no types.
-/

set_option autoImplicit false

namespace MultiRelease

open Text

/-- The place of the platform library in a JDK. -/
def platformLibraryPath : Path := ⟨"lib/jrt-fs.jar"⟩

/-- The platform library of a JDK. -/
structure PlatformLibrary where
  archivePath : Path
  home : Path
  image : Option RuntimeImage
  rules : Option AccessRules := none
  annotationPath : Option Path := none
deriving Inhabited

namespace PlatformLibrary

/-- The platform library named by an archive. -/
def openArchive (files : Files) (archivePath : Path) (rules : Option AccessRules)
    (annotationPath : Option Path) : Except PlatformError PlatformLibrary :=
  if files.isFile archivePath then
    match archivePath.parent?.bind Path.parent? with
    | none => .error (.noJdkHome archivePath)
    | some home =>
      .ok { archivePath, home, rules, annotationPath
            image := (RuntimeImage.openHome files home).toOption }
  else .error (.missingLibrary archivePath)

/-- The place of the modules of the runtime image in the session's cache. -/
def modulesPlace (library : PlatformLibrary) : String := library.archivePath.text

/-- The answer with a type that was loaded: the type is marked with its module, and the access rules
are applied to the name that it has in its class file. -/
def answer (library : PlatformLibrary) (type : BinaryType) (moduleName : Option String)
    (release : Release) : Answer where
  kind := .binary (match moduleName with
    | some name => { type with moduleName := some name }
    | none => type)
  moduleName
  release
  restriction := library.rules.bind fun rules => rules.restriction? type.name

/-- Loads the type with the given file name from the runtime image. -/
def loadType (library : PlatformLibrary) (files : Files) (session : Session) (name : String)
    (module : Option String) (accepts : String → Bool) :
    Except LoadError (Option Answer) × PlatformLibrary × Session :=
  match library.image with
  | none => (.ok none, library, session)
  | some image =>
    match image.findClass files name module accepts with
    | (.error error, image) =>
      (.error (.archive error), { library with image := some image }, session)
    | (.ok none, image) => (.ok none, { library with image := some image }, session)
    | (.ok (some found), image) =>
      let library := { library with image := some image }
      match session.decode found.bytes name with
      | (.ok type, session) =>
        (.ok (some (library.answer type (some found.module) .unversioned)), library, session)
      | (.error cause, session) => (.error (.malformed name cause), library, session)

/-- The descriptors that can be decoded. -/
def decodedModules (infos : List (String × List UInt8)) : ModuleMap :=
  NameMap.ofList (infos.filterMap fun (name, bytes) =>
    (parseModuleInfo bytes).toOption.map fun descriptor => (name, descriptor))

/-- Notes the modules of the runtime image in the session, once, if there are any. -/
def loadModules (library : PlatformLibrary) (files : Files) (session : Session) :
    PlatformLibrary × Session :=
  if session.modules.contains library.modulesPlace then (library, session)
  else
    match library.image with
    | none => (library, session)
    | some image =>
      match image.moduleInfos files with
      | (.error _, image) => ({ library with image := some image }, session)
      | (.ok infos, image) =>
        let modules := decodedModules infos
        ({ library with image := some image },
          if modules.isEmpty then session else session.noteModules library.modulesPlace modules)

/-- Looks a type up.  The release of the lookup does not matter, and only a named module narrows it
down; what cannot be loaded is not found. -/
def find (library : PlatformLibrary) (files : Files) (session : Session) (query : Query)
    (constraint : ModuleConstraint) : Option Answer × PlatformLibrary × Session :=
  match library.loadType files session query.qualifiedBinaryFileName constraint.name?
      (fun _ => true) with
  | (.ok found, library, session) => (found, library, session)
  | (.error _, library, session) => (none, library, session)

/-- The names of the modules of the image, of all or of those in a list. -/
def moduleNames (library : PlatformLibrary) (files : Files) (session : Session)
    (limit : Option (List String)) : List String × PlatformLibrary × Session :=
  let (library, session) := library.loadModules files session
  (session.modules.namesAt library.modulesPlace limit, library, session)

/-- The description of the entry as a structure. -/
def describe (library : PlatformLibrary) : String :=
  s!"ClasspathJrt \x7b archive_path: {quoted library.archivePath.text}, " ++
    s!"image: {library.image.isSome} \x7d"

/-- The entry in words. -/
def text (library : PlatformLibrary) : String :=
  "Classpath jrt file " ++ library.archivePath.text

end PlatformLibrary

end MultiRelease
