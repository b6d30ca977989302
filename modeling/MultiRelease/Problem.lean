import MultiRelease.Files.Path
import MultiRelease.Text.Json

/-!
# Problems

What a check of the build output reports, each problem against the file that it concerns.
-/

set_option autoImplicit false

namespace MultiRelease

/-- How bad a problem is. -/
inductive Severity where
  | info
  | warning
  | error
deriving Repr, DecidableEq, Inhabited

namespace Severity

/-- The word for a severity. -/
def word : Severity → String
  | info => "info"
  | warning => "warning"
  | error => "error"

/-- The order of severities, the mildest first. -/
def precedes : Severity → Severity → Bool
  | info, _ => true
  | warning, info => false
  | warning, _ => true
  | error, error => true
  | error, _ => false

end Severity

/-- A range of characters in a file. -/
structure SourceRange where
  first : Nat
  last : Nat
deriving Repr, DecidableEq, Inhabited

/-- A problem with a file. -/
structure Problem where
  resource : Path
  range : Option SourceRange := none
  message : String
  severity : Severity := .error
deriving Repr, DecidableEq, Inhabited

namespace Problem

/-- The problem in one line. -/
def describe (p : Problem) : String := s!"{p.resource.text}: {p.severity.word}: {p.message}"

/-- The problem as JSON. -/
def toJson (p : Problem) : Json :=
  .object [
    ("resource", .text p.resource.text),
    ("range", match p.range with
      | some range => .object [("start", .number range.first), ("end", .number range.last)]
      | none => .null),
    ("message", .text p.message),
    ("severity", .text p.severity.word)]

/-- A list of problems in the indented layout of JSON. -/
def listJson (problems : List Problem) : String := (Json.list (problems.map toJson)).pretty

/-- Whether one of the problems is an error. -/
def anyError (problems : List Problem) : Bool := problems.any (·.severity = .error)

end Problem

end MultiRelease
