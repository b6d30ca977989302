import MultiRelease.Release

/-!
# The order of releases

Unversioned comes first and the numbers follow in their order, which is linear
(`Release.precedes_trans`, `Release.precedes_total`, `Release.precedes_antisymm`).  Locations are
asked by this order, the newest first.

A location that is bound to a release is asked for that release and for all later ones
(`Release.appliesTo_of_le`), and one that is bound to none is asked always.  So what applies to a
lookup is never newer than it (`Release.bound_of_appliesTo`), and to a lookup at no release only
what is bound to none applies (`Release.eq_unversioned_of_applies`).

Two lookups of one type at different releases are compared by `Release.IsBefore`: a location that
applies to the newer lookup and not to the older one is bound to a release after the older one
(`Release.isBefore_of_not_applies`), and therefore after all that applies to the older one
(`Release.le_of_applies_of_isBefore`).
-/

set_option autoImplicit false

namespace MultiRelease.Release

theorem precedes_refl (a : Release) : a.precedes a = true := by
  cases a with
  | unversioned => rfl
  | java n => exact decide_eq_true (UInt16.le_refl n)

theorem precedes_trans (a b c : Release) (hab : a.precedes b = true) (hbc : b.precedes c = true) :
    a.precedes c = true := by
  cases a with
  | unversioned => rfl
  | java m =>
    cases b with
    | unversioned => cases hab
    | java n =>
      cases c with
      | unversioned => cases hbc
      | java k =>
        exact decide_eq_true (UInt16.le_trans (of_decide_eq_true hab) (of_decide_eq_true hbc))

theorem precedes_total (a b : Release) : (a.precedes b || b.precedes a) = true := by
  cases a with
  | unversioned => rfl
  | java m =>
    cases b with
    | unversioned => rfl
    | java n =>
      rw [Bool.or_eq_true]
      exact (UInt16.le_total m n).imp decide_eq_true decide_eq_true

/-- Releases that precede each other are the same. -/
theorem precedes_antisymm {a b : Release} (hab : a.precedes b = true)
    (hba : b.precedes a = true) : a = b := by
  cases a with
  | unversioned =>
    cases b with
    | unversioned => rfl
    | java n => cases hba
  | java m =>
    cases b with
    | unversioned => cases hab
    | java n => rw [UInt16.le_antisymm (of_decide_eq_true hab) (of_decide_eq_true hba)]

/-! ## What applies to a release -/

theorem appliesTo_of_not_isVersioned {release requested : Release}
    (h : release.isVersioned = false) : release.appliesTo requested = true := by
  cases release with
  | unversioned => rfl
  | java number => cases h

/-- What applies to a lookup at no release is bound to none. -/
theorem eq_unversioned_of_applies {bound : Release} (h : bound.appliesTo unversioned = true) :
    bound = unversioned := by
  cases bound with
  | unversioned => rfl
  | java number => cases h

/-- What applies to a release is never newer. -/
theorem bound_of_appliesTo {bound : Release} {number : UInt16}
    (h : bound.appliesTo (java number) = true) :
    bound = unversioned ∨ ∃ n, n ≤ number ∧ bound = java n := by
  cases bound with
  | unversioned => exact .inl rfl
  | java n => exact .inr ⟨n, of_decide_eq_true h, rfl⟩

/-- Whether the release with a number is newer than another one; all are newer than none. -/
def IsBefore : Release → UInt16 → Prop
  | unversioned, _ => True
  | java m, n => m < n

/-- What does not apply to a release is newer than it. -/
theorem isBefore_of_not_applies {older : Release} {n : UInt16}
    (h : (java n).appliesTo older = false) : older.IsBefore n := by
  cases older with
  | unversioned => trivial
  | java m => exact UInt16.not_le.1 (of_decide_eq_false h)

/-- What applies to a release applies to newer ones. -/
theorem appliesTo_of_le {bound older newer : Release} (hle : older ≤ newer)
    (h : bound.appliesTo older = true) : bound.appliesTo newer = true := by
  cases bound with
  | unversioned => rfl
  | java n =>
    cases older with
    | unversioned => cases h
    | java m =>
      cases newer with
      | unversioned => cases hle
      | java k =>
        exact decide_eq_true (UInt16.le_trans (of_decide_eq_true h) (of_decide_eq_true hle))

/-- What applies to a release is not newer than what comes after that release. -/
theorem le_of_applies_of_isBefore {bound older : Release} {n : UInt16}
    (h : bound.appliesTo older = true) (hbefore : older.IsBefore n) : bound ≤ java n := by
  cases bound with
  | unversioned => rfl
  | java m =>
    cases older with
    | unversioned => cases h
    | java k =>
      exact decide_eq_true (UInt16.le_trans (of_decide_eq_true h) (UInt16.le_of_lt hbefore))

end MultiRelease.Release
