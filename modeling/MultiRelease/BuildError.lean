import MultiRelease.Location.SourceRoot
import MultiRelease.Platform.Error
import MultiRelease.Release.Compliance

/-!
# Errors of a build
-/

set_option autoImplicit false

namespace MultiRelease

/-- Why a build cannot be set up. -/
inductive BuildError where
  | configuration (detail : String)
  | compliance (error : ComplianceError)
  | jdkNotFound (detail : String)
  | platform (error : PlatformError)
  | pattern (error : PatternError)
deriving Repr, DecidableEq

namespace BuildError

/-- The wording of an error. -/
def message : BuildError → String
  | configuration detail => "Build configuration error: " ++ detail
  | compliance error => error.message
  | jdkNotFound detail => "JDK not found: " ++ detail
  | platform error => error.message
  | pattern error => error.message

/-- The wording of an error and of what caused it, from the outside in. -/
def chain (error : BuildError) : List String :=
  match error with
  | pattern error => [error.message, error.cause.message]
  | error => [error.message]

end BuildError

end MultiRelease
