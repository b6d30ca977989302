import MultiRelease.Platform.ReleaseClasses
import MultiRelease.Release.Compliance

/-!
# The platform library of a release

The classpath entry for a JDK from which a build takes the classes of a fixed release.  A lookup
without a release is answered with the classes of that release, and a lookup that names a release
with the runtime image.  The classes of the release are set up when they are first needed.
-/

set_option autoImplicit false

namespace MultiRelease

open Text

/-- Why a platform library for a release cannot be set up. -/
inductive ReleaseLibraryError where
  | compliance (error : ComplianceError)
  | platform (error : PlatformError)
deriving Repr, DecidableEq

/-- The platform library as seen by one release. -/
structure ReleaseLibrary where
  library : PlatformLibrary
  /-- The value of `--release`. -/
  option : String
  number : UInt16
  /-- The classes of the release, once they are set up. -/
  classes : Option { classes : ReleaseClasses // classes.release = number } := none
deriving Inhabited

namespace ReleaseLibrary

/-- The platform library named by an archive, for a compliance level. -/
def openArchive (files : Files) (archivePath : Path) (rules : Option AccessRules)
    (annotationPath : Option Path) (compliance : String) :
    Except ReleaseLibraryError ReleaseLibrary :=
  match releaseOption compliance with
  | .error error => .error (.compliance error)
  | .ok option =>
    match complianceRelease option with
    | .error error => .error (.compliance error)
    | .ok number =>
      match PlatformLibrary.openArchive files archivePath rules annotationPath with
      | .error error => .error (.platform error)
      | .ok library => .ok { library, option, number }

/-- The classes of the release, set up now if need be. -/
def releaseClasses (entry : ReleaseLibrary) (files : Files) (session : Session) :
    ReleaseClasses × ReleaseLibrary × Session :=
  match entry.classes with
  | some classes => (classes, entry, session)
  | none =>
    let setUp := ReleaseClasses.ofRelease entry.library files session entry.number
    let classes := some ⟨setUp.1, ReleaseClasses.release_ofRelease ..⟩
    (setUp.1, { entry with library := setUp.2.1, classes }, setUp.2.2)

@[simp] theorem release_releaseClasses (entry : ReleaseLibrary) (files : Files)
    (session : Session) : (entry.releaseClasses files session).1.release = entry.number := by
  rw [releaseClasses]
  cases entry.classes with
  | some classes => exact classes.2
  | none => rfl

/-- Looks a type up. -/
def find (entry : ReleaseLibrary) (files : Files) (session : Session) (query : Query)
    (constraint : ModuleConstraint) (release : Release) :
    Option Answer × ReleaseLibrary × Session :=
  if release.isVersioned then
    let (found, library, session) := entry.library.find files session query constraint
    (found, { entry with library }, session)
  else
    let (classes, entry, session) := entry.releaseClasses files session
    match classes.loadType entry.library files session query.qualifiedBinaryFileName
        constraint.name? (fun _ => true) with
    | (.ok found, library, session) => (found, { entry with library }, session)
    | (.error _, library, session) => (none, { entry with library }, session)

/-- The place of the modules of the release in the session's cache. -/
def modulesPlace (entry : ReleaseLibrary) (files : Files) (session : Session) :
    Option String × ReleaseLibrary × Session :=
  let (classes, entry, session) := entry.releaseClasses files session
  (classes.modulesPlace entry.library, entry, session)

/-- The names of the modules of the release, of all or of those in a list. -/
def moduleNames (entry : ReleaseLibrary) (files : Files) (session : Session)
    (limit : Option (List String)) : List String × ReleaseLibrary × Session :=
  let (place, entry, session) := entry.modulesPlace files session
  match place with
  | some place => (session.modules.namesAt place limit, entry, session)
  | none => ([], entry, session)

/-- Whether the release has a listing of its modules. -/
def hasModule (entry : ReleaseLibrary) (files : Files) (session : Session) :
    Bool × ReleaseLibrary × Session :=
  let (classes, entry, session) := entry.releaseClasses files session
  (classes.hasModule, entry, session)

/-- Whether two entries stand for the same library at the same value of `--release`. -/
def same (a b : ReleaseLibrary) : Bool :=
  a.option = b.option && a.library.archivePath.same b.library.archivePath

/-- What entries are filed under: equal for entries that are the same. -/
def identity (entry : ReleaseLibrary) : List Path.Component × String :=
  (entry.library.archivePath.components, entry.option)

/-- The description of the entry as a structure. -/
def describe (entry : ReleaseLibrary) : String :=
  "ClasspathJrtWithRelease \x7b archive_path: " ++ quoted entry.library.archivePath.text ++
    s!", release: {quoted entry.option}, initialized: {entry.classes.isSome} \x7d"

/-- The entry in words. -/
def text (entry : ReleaseLibrary) : String :=
  s!"Classpath jrt file {entry.library.archivePath.text} with --release option {entry.option}"

end ReleaseLibrary

end MultiRelease
