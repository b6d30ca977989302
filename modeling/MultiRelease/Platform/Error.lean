import MultiRelease.ClassFile.Error
import MultiRelease.Files

/-!
# Errors of the platform library

What can go wrong with the symbol archive and the runtime image of a JDK, and with loading one type
from them.  Those who look types up treat every one of these errors as "not found".
-/

set_option autoImplicit false

namespace MultiRelease

/-- Why part of the platform library is unavailable. -/
inductive PlatformError where
  /-- The platform library itself is missing. -/
  | missingLibrary (path : Path)
  | unreadable (path : Path)
  | badArchive (path : Path)
  | releaseNotFound (release : UInt16)
  | noRuntimeImage (home : Path)
  | noJdkHome (library : Path)
deriving Repr, DecidableEq

/-- The wording of an error.  What the system or the archive format adds is not part of it. -/
def PlatformError.message : PlatformError → String
  | .missingLibrary path => s!"IO error while reading {path.text}: platform archive not found"
  | .unreadable path => s!"IO error while reading {path.text}"
  | .badArchive path => s!"ZIP error while reading {path.text}"
  | .releaseNotFound release => s!"release {release.toNat} is not found in the system"
  | .noRuntimeImage home => s!"no runtime image found under {home.text}"
  | .noJdkHome library => s!"cannot derive the JDK home from {library.text}"

/-- Why a type could not be loaded. -/
inductive LoadError where
  /-- The release is unavailable as a whole. -/
  | unavailable (cause : PlatformError)
  | archive (cause : PlatformError)
  | malformed (name : String) (cause : ClassFileError)
deriving Repr, DecidableEq

/-- The wording of an error. -/
def LoadError.message : LoadError → String
  | .unavailable cause => cause.message
  | .archive cause => cause.message
  | .malformed name cause => s!"malformed binary type {name}: {cause.message}"

end MultiRelease
