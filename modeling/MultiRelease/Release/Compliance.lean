import MultiRelease.Release
import MultiRelease.Text.Blank
import MultiRelease.Text.Number
import MultiRelease.Text.Segments

/-!
# Compliance levels

A compliance level is written as a release number, possibly in the old form with a leading `1.`.
`releaseOption` turns it into the value that a compiler takes for `--release`: the old form loses
its prefix, and a level below the oldest supported release becomes that release.  A text that is
not of one of these forms is refused when it contains a dot, and otherwise passed on as it stands,
so that only `complianceRelease` decides whether it is a number.
-/

set_option autoImplicit false

namespace MultiRelease

open Text

/-- Why a compliance level is refused. -/
inductive ComplianceError where
  | empty
  | invalid (level : String)
deriving Repr, DecidableEq

/-- The wording of a refused compliance level. -/
def ComplianceError.message : ComplianceError → String
  | .empty => "--release argument can not be null or empty"
  | .invalid level => "Invalid value for --release argument: " ++ level

/-- The oldest release that the symbol archive describes. -/
def oldestSymbolRelease : UInt16 := 6

/-- The number of a level that consists of digits only, after a possible `1.`. -/
def complianceNumber? (level : String) : Option UInt16 :=
  let digits := (withoutPrefix? "1." level).getD level
  if digits ≠ "" ∧ digits.toList.all isDecimalDigit then number16? digits else none

/-- The value of `--release` for a compliance level without surrounding blanks. -/
def trimmedReleaseOption (level : String) : Except ComplianceError String :=
  if level = "" then .error .empty
  else if (complianceNumber? level).any (· ≤ 5) then .ok (toString oldestSymbolRelease.toNat)
  else
    match withoutPrefix? "1." level with
    | some minor =>
      if minor = "" ∨ '.' ∈ minor.toList then .error (.invalid level) else .ok minor
    | none => if '.' ∈ level.toList then .error (.invalid level) else .ok level

/-- The value of `--release` for a compliance level. -/
def releaseOption (compliance : String) : Except ComplianceError String :=
  trimmedReleaseOption (trim compliance)

/-- The release number of a compliance level. -/
def complianceRelease (compliance : String) : Except ComplianceError UInt16 := do
  let option ← releaseOption compliance
  match number16? option with
  | some number => .ok number
  | none => .error (.invalid compliance)

end MultiRelease
