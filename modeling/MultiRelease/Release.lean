/-!
# Releases

A build produces a baseline output and, for some releases, overlays that replace part of it.  What
is bound to no release is *unversioned*; everything else is bound to the release with a number.
The unversioned binding sorts before every number.

Overlays exist from release 9 on (`firstMultiRelease`), so a smaller number asks for the baseline
(`Release.overlay`).  Output bound to a release may answer a lookup made at that release or at a
later one, and unversioned output may answer every lookup (`Release.appliesTo`).
-/

set_option autoImplicit false

namespace MultiRelease

/-- What a lookup or an output is bound to. -/
inductive Release where
  | unversioned
  | java (number : UInt16)
deriving Repr, DecidableEq, Inhabited

/-- The first release whose archives may hold overlays. -/
def firstMultiRelease : UInt16 := 9

/-- The folder of overlays inside the baseline output. -/
def versionsFolder : String := "META-INF/versions"

namespace Release

/-- The binding of an overlay root: a number below `firstMultiRelease`, or none, means the
baseline. -/
def overlay : Option UInt16 → Release
  | some number => if firstMultiRelease ≤ number then java number else unversioned
  | none => unversioned

/-- The number of a release, if it has one. -/
def number? : Release → Option UInt16
  | unversioned => none
  | java number => some number

/-- Whether the binding names a release. -/
def isVersioned : Release → Bool
  | unversioned => false
  | java _ => true

/-- Whether output bound to `own` may answer a lookup made at `requested`. -/
def appliesTo (own requested : Release) : Bool :=
  match own, requested with
  | unversioned, _ => true
  | java _, unversioned => false
  | java n, java limit => n ≤ limit

/-- The order of releases: unversioned first, then by number. -/
def precedes : Release → Release → Bool
  | unversioned, _ => true
  | java _, unversioned => false
  | java m, java n => m ≤ n

instance : LE Release := ⟨fun a b => a.precedes b = true⟩

instance (a b : Release) : Decidable (a ≤ b) := inferInstanceAs (Decidable (_ = true))

/-- The name under which a release is shown. -/
def text : Release → String
  | unversioned => "base"
  | java number => toString number.toNat

/-- The description of a release inside the description of a structure. -/
def describe : Release → String
  | unversioned => "Unversioned"
  | java number => s!"Java({number.toNat})"

theorem overlay_none : overlay none = unversioned := rfl

theorem overlay_some (n : UInt16) :
    overlay (some n) = if firstMultiRelease ≤ n then java n else unversioned := rfl

end Release

/-- The single base-36 digit that stands for a release in the symbol archive; releases above 35
have none. -/
def releaseCode (number : UInt16) : Option Char :=
  if number < 10 then some (Char.ofNat (48 + number.toNat))
  else if number < 36 then some (Char.ofNat (55 + number.toNat))
  else none

end MultiRelease
