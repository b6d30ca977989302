import MultiRelease.Location.SourceRoot
import MultiRelease.Platform.ReleaseLibrary

/-!
# Locations

The entries of a classpath.  There are four kinds; this file says for each question that a build
asks which kind answers it how.  Asking may change a location, because it remembers what it saw.
-/

set_option autoImplicit false

namespace MultiRelease

/-- An entry of a classpath. -/
inductive Location where
  | classFolder (folder : ClassFolder)
  | sourceRoot (root : SourceRoot)
  | platform (library : PlatformLibrary)
  | releasePlatform (entry : ReleaseLibrary)
deriving Inhabited

namespace Location

/-- What the location is bound to.  The platform is bound to no release. -/
def release : Location → Release
  | classFolder folder => folder.release
  | sourceRoot root => root.release
  | platform _ => .unversioned
  | releasePlatform _ => .unversioned

/-- The module that the location belongs to. -/
def moduleName : Location → Option String
  | classFolder folder => folder.moduleName
  | sourceRoot root => root.moduleName
  | platform _ => none
  | releasePlatform _ => none

/-- Looks a type up. -/
def find (files : Files) (query : Query) (constraint : ModuleConstraint) (release : Release)
    (session : Session) : Location → Option Answer × Location × Session
  | classFolder folder =>
    let (found, folder, session) := folder.find files session query constraint release
    (found, classFolder folder, session)
  | sourceRoot root =>
    let (found, root, session) := root.find files session query constraint release
    (found, sourceRoot root, session)
  | platform library =>
    let (found, library, session) := library.find files session query constraint
    (found, platform library, session)
  | releasePlatform entry =>
    let (found, entry, session) := entry.find files session query constraint release
    (found, releasePlatform entry, session)

/-- The members of a package, for locations that list packages. -/
def list (files : Files) (package : String) : Location → Option (List String) × Location
  | classFolder folder =>
    let (listing, folder) := folder.list files package
    (listing, classFolder folder)
  | sourceRoot root =>
    let (listing, root) := root.list files package
    (listing, sourceRoot root)
  | location => (none, location)

/-- The name of the module that a folder belongs to, if the limit admits it. -/
def ownModuleNames (limit : Option (List String)) : Option String → List String
  | some name => if limit.all (·.contains name) then [name] else []
  | none => []

/-- The names of the modules of the location, of all or of those in a list. -/
def moduleNames (files : Files) (limit : Option (List String)) (session : Session) :
    Location → List String × Location × Session
  | platform library =>
    let (names, library, session) := library.moduleNames files session limit
    (names, platform library, session)
  | releasePlatform entry =>
    let (names, entry, session) := entry.moduleNames files session limit
    (names, releasePlatform entry, session)
  | location => (ownModuleNames limit location.moduleName, location, session)

/-- Whether the location belongs to a module or lists modules. -/
def hasModule (files : Files) (session : Session) : Location → Bool × Location × Session
  | platform library => (true, platform library, session)
  | releasePlatform entry =>
    let (answer, entry, session) := entry.hasModule files session
    (answer, releasePlatform entry, session)
  | location => (location.moduleName.isSome, location, session)

/-- The place of the location's modules in the session's cache; folders have none. -/
def modulesPlace (files : Files) (session : Session) :
    Location → Option String × Location × Session
  | platform library => (some library.modulesPlace, platform library, session)
  | releasePlatform entry =>
    let (place, entry, session) := entry.modulesPlace files session
    (place, releasePlatform entry, session)
  | location => (none, location, session)

/-- The description of the location as a structure. -/
def describe : Location → String
  | classFolder folder => folder.describe
  | sourceRoot root => root.describe
  | platform library => library.describe
  | releasePlatform entry => entry.describe

/-- The location in words. -/
def text : Location → String
  | classFolder folder => folder.text
  | sourceRoot root => root.text
  | platform library => library.text
  | releasePlatform entry => entry.text

end Location

end MultiRelease
