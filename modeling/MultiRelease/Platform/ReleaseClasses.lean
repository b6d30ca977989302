import MultiRelease.Platform.Library

/-!
# Platform classes of a release

The classes of the platform as they were in one release.  Where they come from is decided once, when
the release is first asked for:

* from the symbol archive, if it has data for the release;
* from the runtime image, if the archive marks the release as identical to the running JDK;
* from nowhere, if there is no archive or if it does not know the release.  The error is kept and
  reported whenever a type is asked for.

Deciding also notes the modules of the release in the session.
-/

set_option autoImplicit false

namespace MultiRelease

open Text

/-- Where the classes of a release come from. -/
inductive ReleaseSource where
  | unavailable (error : PlatformError)
  | runtimeImage
  /-- From the archive, under the code of the release.  The place of the release's modules in the
  session's cache is missing if the archive does not list them. -/
  | symbols (archive : SymbolArchive) (code : Char) (modulesPlace : Option String)
deriving Inhabited

/-- The platform classes of a release. -/
structure ReleaseClasses where
  release : UInt16
  source : ReleaseSource
deriving Inhabited

namespace ReleaseClasses

/-- Where the archive says that the classes of a release come from. -/
def sourceIn (archive : SymbolArchive) (library : PlatformLibrary) (release : UInt16)
    (code : Char) : ReleaseSource :=
  let folder := String.singleton code
  if archive.hasFolder folder then
    if archive.exists? (folder ++ "/" ++ systemModulesMarker) then .runtimeImage
    else
      let modules := archive.moduleFolder code
      .symbols archive code
        (if archive.hasFolder modules then some (library.modulesPlace ++ "|" ++ modules) else none)
  else .unavailable (.releaseNotFound release)

/-- The folders with the descriptions of the modules of a release. -/
def moduleRoots (archive : SymbolArchive) (code : Char) : List String :=
  if archive.perModule then archive.releaseRoots code else [archive.moduleFolder code]

/-- The descriptor in a file of the archive, if it can be decoded. -/
def descriptorAt? (files : Files) (archive : SymbolArchive) (path : String) :
    Option ModuleDescriptor :=
  match archive.fileBytes files path with
  | .ok bytes => (parseModuleInfo bytes).toOption
  | .error _ => none

/-- The modules that the folders of one root describe. -/
def modulesInRoot (files : Files) (archive : SymbolArchive) (root : String) :
    List (String × ModuleDescriptor) :=
  (archive.modulesWith root moduleInfoSignature).filterMap fun module =>
    (descriptorAt? files archive (SymbolArchive.modulePath root module moduleInfoSignature)).map
      fun descriptor => (module, descriptor)

/-- The modules of a release; of several descriptors of one module the first counts. -/
def modulesOf (files : Files) (archive : SymbolArchive) (code : Char) : ModuleMap :=
  ((moduleRoots archive code).flatMap (modulesInRoot files archive)).foldl
    (fun modules (name, descriptor) => modules.insertIfAbsent name descriptor) {}

/-- Notes the modules of the release in the session, once, if there are any. -/
def loadModules (classes : ReleaseClasses) (library : PlatformLibrary) (files : Files)
    (session : Session) : PlatformLibrary × Session :=
  match classes.source with
  | .symbols _ _ none => (library, session)
  | .symbols archive code (some place) =>
    if session.modules.contains place then (library, session)
    else
      let modules := modulesOf files archive code
      (library, if modules.isEmpty then session else session.noteModules place modules)
  | _ => library.loadModules files session

/-- Where the classes of a release come from, according to the symbol archive of the JDK. -/
def decideSource (library : PlatformLibrary) (files : Files) (session : Session)
    (release : UInt16) : ReleaseSource × Session :=
  match releaseCode release with
  | none => (.unavailable (.releaseNotFound release), session)
  | some code =>
    match session.symbolArchive files library.home with
    | (.ok archive, session) => (sourceIn archive library release code, session)
    | (.error error, session) => (.unavailable error, session)

/-- The platform classes of a release. -/
def ofRelease (library : PlatformLibrary) (files : Files) (session : Session) (release : UInt16) :
    ReleaseClasses × PlatformLibrary × Session :=
  let (source, session) := decideSource library files session release
  let classes : ReleaseClasses := ⟨release, source⟩
  (classes, classes.loadModules library files session)

@[simp] theorem release_ofRelease (library : PlatformLibrary) (files : Files) (session : Session)
    (release : UInt16) : (ofRelease library files session release).1.release = release := rfl

/-- The module to name in an answer from the archive. -/
def answerModule (archive : SymbolArchive) (code : Char) (signaturePath : String) :
    Option String → Option String
  | some module => some module
  | none => archive.moduleOf? code signaturePath

/-- Loads a type from the symbol archive. -/
def loadSymbols (classes : ReleaseClasses) (library : PlatformLibrary) (files : Files)
    (session : Session) (archive : SymbolArchive) (code : Char) (name : String)
    (module : Option String) : Except LoadError (Option Answer) × Session :=
  let signaturePath := (withoutSuffix? classSuffix name).getD name ++ signatureSuffix
  match archive.fullPath? code signaturePath module with
  | none => (.ok none, session)
  | some path =>
    match archive.fileBytes files path with
    | .error error => (.error (.archive error), session)
    | .ok bytes =>
      match session.decode bytes signaturePath with
      | (.error cause, session) => (.error (.malformed path cause), session)
      | (.ok type, session) =>
        let moduleName := answerModule archive code signaturePath module
        (.ok (some (library.answer type moduleName (.java classes.release))), session)

/-- Loads the type with the given file name as it was in the release. -/
def loadType (classes : ReleaseClasses) (library : PlatformLibrary) (files : Files)
    (session : Session) (name : String) (module : Option String) (accepts : String → Bool) :
    Except LoadError (Option Answer) × PlatformLibrary × Session :=
  match classes.source with
  | .unavailable error => (.error (.unavailable error), library, session)
  | .runtimeImage => library.loadType files session name module accepts
  | .symbols archive code _ =>
    if archive.releaseRoots code = [] then library.loadType files session name module accepts
    else
      let (result, session) :=
        loadSymbols classes library files session archive code name module
      (result, library, session)

/-- Whether the release has a listing of its modules. -/
def hasModule (classes : ReleaseClasses) : Bool :=
  match classes.source with
  | .symbols _ _ place => place.isSome
  | _ => true

/-- The place of the modules of the release in the session's cache. -/
def modulesPlace (classes : ReleaseClasses) (library : PlatformLibrary) : Option String :=
  match classes.source with
  | .symbols _ _ place => place
  | _ => some library.modulesPlace

end ReleaseClasses

end MultiRelease
