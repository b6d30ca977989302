import MultiRelease.Environment
import MultiRelease.Jdk

/-!
# Build configurations

What a build is told: where the sources and the output are, for which releases the roots are
compiled, and which platform the classes come from.  From a configuration come the source roots and
the name environment.
-/

set_option autoImplicit false

namespace MultiRelease

/-- A source folder and the release that it is compiled for. -/
structure SourceRootConfig where
  sourceFolder : Path
  /-- No release, or one below `firstMultiRelease`, means the baseline. -/
  release : Option UInt16 := none
  inclusions : List String := []
  exclusions : List String := []
deriving Repr, DecidableEq, Inhabited

/-- The configuration of a build. -/
structure BuildConfig where
  /-- The baseline output. -/
  output : Path := ⟨"./out"⟩
  roots : List SourceRootConfig := []
  /-- More folders with classes. -/
  classpath : List Path := []
  /-- The JDK to use; without one, a JDK is looked for. -/
  jdkHome : Option Path := none
  compliance : String := toString defaultSourceLevel.toNat
  accessRules : List (String × AccessKind) := []
  annotationPath : Option Path := none
deriving Repr, DecidableEq, Inhabited

namespace BuildConfig

/-- Where the classes of an overlay are written. -/
def overlayFolder (config : BuildConfig) (release : UInt16) : Path :=
  SourceRoot.binaryFolderOf config.output (.java release)

/-- The first root whose source folder is that of an earlier one. -/
def repeatedRoot? (earlier : List SourceRootConfig) :
    List SourceRootConfig → Option SourceRootConfig
  | [] => none
  | root :: others =>
    if earlier.any fun other => other.sourceFolder.same root.sourceFolder then some root
    else repeatedRoot? (earlier ++ [root]) others

/-- Checks the compliance level, and that no source folder is used twice. -/
def validate (config : BuildConfig) : Except BuildError Unit :=
  match complianceRelease config.compliance with
  | .error error => .error (.compliance error)
  | .ok _ =>
    match repeatedRoot? [] config.roots with
    | some root =>
      .error (.configuration
        s!"source folder '{root.sourceFolder.text}' is configured more than once")
    | none => .ok ()

/-- The source root of one entry of a configuration, with the module that its sources declare. -/
def sourceRoot (config : BuildConfig) (files : Files) (root : SourceRootConfig) :
    Except BuildError SourceRoot :=
  match (SourceRoot.ofFolders root.sourceFolder config.output root.release).withPatterns
      root.inclusions root.exclusions with
  | .ok location => .ok { location with module := location.declaredModule? files }
  | .error error => .error (.pattern error)

/-- The source roots of a configuration. -/
def sourceRoots (config : BuildConfig) (files : Files) : Except BuildError (List SourceRoot) :=
  config.roots.mapM (config.sourceRoot files)

/-- The JDK of a configuration.  One that is configured has to exist; one that is looked for may be
missing. -/
def jdk? (config : BuildConfig) (files : Files) (vars : Variables) :
    Except BuildError (Option Jdk) :=
  match config.jdkHome with
  | some home => (Jdk.ofHome files home).map some
  | none => .ok (Jdk.discover files vars).toOption

/-- The access rules for the platform. -/
def platformRules (config : BuildConfig) (library : Path) :
    Except BuildError (Option AccessRules) :=
  if config.accessRules = [] then .ok none
  else
    match AccessRules.parse config.accessRules library.text with
    | .ok rules => .ok (some rules)
    | .error cause =>
      .error (.pattern ⟨", ".intercalate (config.accessRules.map (·.1)), .malformed cause⟩)

/-- The platform library of a JDK at the compliance level of the configuration. -/
def platformLocation (config : BuildConfig) (files : Files) (jdk : Jdk) :
    Except BuildError Location := do
  let rules ← config.platformRules jdk.library
  match ReleaseLibrary.openArchive files jdk.library rules config.annotationPath
      config.compliance with
  | .ok entry => .ok (.releasePlatform entry)
  | .error (.compliance error) => .error (.compliance error)
  | .error (.platform error) => .error (.platform error)

/-- The classpath of a configuration: the source roots, the other class folders, and the platform if
there is a JDK. -/
def environment (config : BuildConfig) (files : Files) (vars : Variables) :
    Except BuildError Environment := do
  config.validate
  let roots ← config.sourceRoots files
  let jdk ← config.jdk? files vars
  let platform ←
    match jdk with
    | some jdk => (config.platformLocation files jdk).map fun location => [location]
    | none => .ok []
  let classFolders := config.classpath.map fun root => Location.classFolder { root }
  let locations := roots.map Location.sourceRoot ++ classFolders ++ platform
  .ok ⟨locations.map fun location => { location }⟩

end BuildConfig

end MultiRelease
