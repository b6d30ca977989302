import MultiRelease.Platform.ReleaseLibrary
import MultiRelease.Proofs.Files.Resolving
import MultiRelease.Proofs.Platform.Shown

/-!
# What sessions share

Locations that work in one session share the symbol archives that it has opened.  Which of them
opened an archive does not matter: a session gives the archive that it would open now, up to the
path under which it was opened, which only shows in messages (`SymbolArchive.unplaced`).

`Session.SameArchives` relates sessions that give the same archives in this sense, for every home of
a JDK.  Every lookup leaves the session related to what it was (`ReleaseLibrary.find_preserves`),
and an entry answers alike in related sessions (`ReleaseLibrary.find_congr`).  Both are shown from
the bottom up.

* Symbol archives.  Nothing that is read from an archive depends on its path for messages
  (`SymbolArchive.congr_unplaced`), and homes that are spelled differently lead to one archive
  (`SymbolArchive.openHome_of_same`).  A session looks for an archive under a home that is the same,
  not under one that is equal, so this is needed.
* Sessions.  Opening an archive is not noticed by those who ask for it later, or for another one
  (`Session.sameArchives_symbolArchive`).
* The classes of a release.  Where they come from is decided alike in related sessions
  (`ReleaseClasses.decideSource_alike`).  The sources need not be equal, since the reasons for
  having none may mention different paths (`ReleaseSource.Alike`).  What is found in them depends on
  the source and on what the platform library shows (`ReleaseClasses.loadType_congr`).
* The platform library of a release.  `ReleaseLibrary.find_unversioned` writes a lookup without a
  release as setting the classes up and then loading from them, so that the two can be looked at one
  after the other.

The modules that a session knows play no part in lookups.  They are the subject of another file.
-/

set_option autoImplicit false

namespace MultiRelease

/-! ## Symbol archives -/

namespace SymbolArchive

/-- The archive without the path under which it was opened. -/
def unplaced (archive : SymbolArchive) : SymbolArchive := { archive with path := ⟨""⟩ }

/-- What does not read the path is the same for archives that differ in nothing else. -/
theorem congr_unplaced {β : Type} {f : SymbolArchive → β}
    (hf : ∀ archive, f archive.unplaced = f archive) {a b : SymbolArchive}
    (h : a.unplaced = b.unplaced) : f a = f b := by
  rw [← hf, h, hf]

/-- The path for messages decides nothing about what is read. -/
theorem toOption_read (opened : OpenArchive) (files : Files) (name : String)
    (blamed blamed' : Path) :
    (opened.read files name blamed).toOption = (opened.read files name blamed').toOption := by
  rw [OpenArchive.read, OpenArchive.read]
  cases opened.archive.entry? name with
  | none => rfl
  | some entry =>
    dsimp only
    cases entry.packed.read ((files.contentOf? opened.file).getD (.ofBytes [])).data with
    | ok data => rfl
    | error fault => cases fault <;> rfl

theorem toOption_fileBytes (archive : SymbolArchive) (files : Files) (path : String) :
    (archive.fileBytes files path).toOption
      = (archive.content.read files path ⟨""⟩).toOption.join := by
  rw [fileBytes, toOption_read archive.content files path ⟨""⟩ (archive.path.join ⟨path⟩)]
  cases archive.content.read files path (archive.path.join ⟨path⟩) with
  | error error => rfl
  | ok found => cases found <;> rfl

/-- Homes that are spelled differently lead to the same archive. -/
theorem openHome_of_same (files : Files) {home home' : Path} (h : home.same home' = true) :
    (openHome files home).toOption.map unplaced = (openHome files home').toOption.map unplaced := by
  have hresolve : files.resolve? (home.join symbolArchivePath)
      = files.resolve? (home'.join symbolArchivePath) :=
    files.resolve?_join_of_same h (by decide) (by decide) (by decide)
  have hopen : files.openFile? (home.join symbolArchivePath)
      = files.openFile? (home'.join symbolArchivePath) := by
    rw [Files.openFile?, Files.openFile?, hresolve]
  rw [openHome, openHome, openFile, openFile, Files.openArchive, Files.openArchive, hopen]
  cases files.openFile? (home'.join symbolArchivePath) with
  | none => rfl
  | some file =>
    dsimp only
    cases (files.contentOf? file).bind fun content => Archive.ofBytes? content.data with
    | none => rfl
    | some archive => rfl

end SymbolArchive

/-! ## Sessions -/

namespace Session

/-- The archive that a session gives for a home. -/
def archiveFor (files : Files) (session : Session) (home : Path) : Option SymbolArchive :=
  (session.symbolArchive files home).1.toOption.map SymbolArchive.unplaced

/-- The sessions give the same archives. -/
def SameArchives (files : Files) (a b : Session) : Prop :=
  ∀ home, a.archiveFor files home = b.archiveFor files home

variable {files : Files}

theorem SameArchives.refl (session : Session) : session.SameArchives files session := fun _ => rfl

theorem SameArchives.trans {a b c : Session} (hab : a.SameArchives files b)
    (hbc : b.SameArchives files c) : a.SameArchives files c :=
  fun home => (hab home).trans (hbc home)

theorem archiveFor_eq (session : Session) (home : Path) :
    session.archiveFor files home
      = match session.archives.find? (·.1.same home) with
        | some (_, archive) => some archive.unplaced
        | none => (SymbolArchive.openHome files home).toOption.map SymbolArchive.unplaced := by
  rw [archiveFor, symbolArchive]
  cases session.archives.find? (·.1.same home) with
  | some found => rfl
  | none =>
    dsimp only
    cases SymbolArchive.openHome files home <;> rfl

/-- The modules that a session knows, and what it has decoded, do not matter. -/
theorem sameArchives_of_archives {a b : Session} (h : a.archives = b.archives) :
    a.SameArchives files b := by
  intro home
  rw [archiveFor_eq, archiveFor_eq, h]

/-- Opening an archive is not noticed by those who ask for it, or for another one. -/
theorem sameArchives_symbolArchive (files : Files) (session : Session) (home : Path) :
    (session.symbolArchive files home).2.SameArchives files session := by
  intro other
  rw [symbolArchive]
  split
  · rfl
  · rename_i habsent
    split
    · rename_i archive hopen
      rw [archiveFor_eq, archiveFor_eq]
      dsimp only
      rw [List.find?_append]
      cases session.archives.find? (·.1.same other) with
      | some found => rfl
      | none =>
        by_cases hsame : home.same other
        · rw [List.find?_cons_of_pos (by exact hsame), ← SymbolArchive.openHome_of_same files hsame,
            hopen]
          rfl
        · rw [List.find?_cons_of_neg (by exact hsame)]
          rfl
    · rfl

end Session

/-! ## Platform classes of a release -/

/-- Sources of classes that differ at most in the paths that their messages show. -/
inductive ReleaseSource.Alike : ReleaseSource → ReleaseSource → Prop
  | unavailable (error error' : PlatformError) : Alike (.unavailable error) (.unavailable error')
  | runtimeImage : Alike .runtimeImage .runtimeImage
  | symbols {a b : SymbolArchive} (h : a.unplaced = b.unplaced) (code : Char)
      (place : Option String) : Alike (.symbols a code place) (.symbols b code place)

theorem ReleaseSource.Alike.refl (source : ReleaseSource) : source.Alike source := by
  cases source with
  | unavailable error => exact .unavailable error error
  | runtimeImage => exact .runtimeImage
  | symbols archive code place => exact .symbols rfl code place

namespace ReleaseClasses

variable {files : Files}

theorem sourceIn_alike {a b : SymbolArchive} (h : a.unplaced = b.unplaced)
    (library : PlatformLibrary) (release : UInt16) (code : Char) :
    (sourceIn a library release code).Alike (sourceIn b library release code) := by
  have hfolder : ∀ path, a.hasFolder path = b.hasFolder path := fun path =>
    SymbolArchive.congr_unplaced (f := (·.hasFolder path)) (fun _ => rfl) h
  have hexists : ∀ path, a.exists? path = b.exists? path := fun path =>
    SymbolArchive.congr_unplaced (f := (·.exists? path)) (fun _ => rfl) h
  have hmodules : a.moduleFolder code = b.moduleFolder code :=
    SymbolArchive.congr_unplaced (f := (·.moduleFolder code)) (fun _ => rfl) h
  simp only [sourceIn, hfolder, hexists, hmodules]
  split
  · split
    · exact .runtimeImage
    · exact .symbols h _ _
  · exact .unavailable _ _

theorem decideSource_alike (library : PlatformLibrary) {s s' : Session}
    (h : s.SameArchives files s') (release : UInt16) :
    (decideSource library files s release).1.Alike (decideSource library files s' release).1 := by
  have hhome := h library.home
  rw [Session.archiveFor, Session.archiveFor] at hhome
  rw [decideSource, decideSource]
  cases releaseCode release with
  | none => exact .unavailable _ _
  | some code =>
    dsimp only
    cases hs : s.symbolArchive files library.home with
    | mk found after =>
      cases hs' : s'.symbolArchive files library.home with
      | mk found' after' =>
        rw [hs, hs'] at hhome
        cases found with
        | error error =>
          cases found' with
          | error error' => exact .unavailable _ _
          | ok archive' => cases hhome
        | ok archive =>
          cases found' with
          | error error' => cases hhome
          | ok archive' => exact sourceIn_alike (Option.some_inj.1 hhome) library release code

theorem decideSource_preserves (files : Files) (library : PlatformLibrary) (session : Session)
    (release : UInt16) :
    (decideSource library files session release).2.SameArchives files session := by
  rw [decideSource]
  cases releaseCode release with
  | none => exact .refl session
  | some code =>
    have hopened := Session.sameArchives_symbolArchive files session library.home
    dsimp only
    cases hs : session.symbolArchive files library.home with
    | mk found after =>
      rw [hs] at hopened
      cases found <;> exact hopened

/-- Noting the modules of a release leaves the library showing the same, and the session its
archives. -/
theorem loadModules_preserves (files : Files) (classes : ReleaseClasses)
    (library : PlatformLibrary) (session : Session) :
    (classes.loadModules library files session).1.SameShown files library ∧
      (classes.loadModules library files session).2.archives = session.archives := by
  have hlibrary := library.loadModules_preserves files session
  rw [loadModules]
  split
  · exact ⟨.refl library, rfl⟩
  · split
    · exact ⟨.refl library, rfl⟩
    · refine ⟨.refl library, ?_⟩
      dsimp only
      split <;> rfl
  · exact hlibrary

/-- What loading a type from the archive finds does not depend on where the archive stands. -/
theorem loadSymbols_congr {a b : SymbolArchive} (h : a.unplaced = b.unplaced)
    (classes : ReleaseClasses) {library library' : PlatformLibrary}
    (hlibrary : library.SameShown files library') (s s' : Session) (code : Char) (name : String)
    (module : Option String) :
    (classes.loadSymbols library files s a code name module).1.toOption
      = (classes.loadSymbols library' files s' b code name module).1.toOption := by
  have hpath : ∀ signature, a.fullPath? code signature module = b.fullPath? code signature module :=
    fun signature =>
      SymbolArchive.congr_unplaced (f := (·.fullPath? code signature module)) (fun _ => rfl) h
  have hmodule : ∀ signature, a.moduleOf? code signature = b.moduleOf? code signature :=
    fun signature =>
      SymbolArchive.congr_unplaced (f := (·.moduleOf? code signature)) (fun _ => rfl) h
  have hcontent : a.content = b.content :=
    SymbolArchive.congr_unplaced (f := (·.content)) (fun _ => rfl) h
  rw [loadSymbols, loadSymbols, hpath]
  dsimp only
  split
  · rfl
  · rename_i path _
    have hbytes : (a.fileBytes files path).toOption = (b.fileBytes files path).toOption := by
      rw [SymbolArchive.toOption_fileBytes, SymbolArchive.toOption_fileBytes, hcontent]
    cases ha : a.fileBytes files path with
    | error error =>
      cases hb : b.fileBytes files path with
      | error error' => rfl
      | ok bytes => simp [ha, hb, Except.toOption] at hbytes
    | ok bytes =>
      cases hb : b.fileBytes files path with
      | error error' => simp [ha, hb, Except.toOption] at hbytes
      | ok bytes' =>
        obtain rfl : bytes = bytes' := by simpa [ha, hb, Except.toOption] using hbytes
        dsimp only [Session.decode]
        cases parseBinaryType bytes with
        | error cause => rfl
        | ok type =>
          have hanswer : answerModule a code = answerModule b code := by
            funext signature named
            cases named with
            | some named => rfl
            | none => exact hmodule signature
          simp only [hanswer, PlatformLibrary.answer, hlibrary.rules]

theorem sameCaches_loadSymbols (archive : SymbolArchive) (classes : ReleaseClasses)
    (library : PlatformLibrary) (session : Session) (code : Char) (name : String)
    (module : Option String) :
    (classes.loadSymbols library files session archive code name module).2.SameCaches session := by
  rw [loadSymbols]
  dsimp only [Session.decode]
  split
  · exact .refl session
  · split
    · exact .refl session
    · rename_i bytes _
      cases parseBinaryType bytes <;> exact ⟨rfl, rfl⟩

/-- **What is found in the classes of a release depends on where they come from and on what the
library shows**, and not on the session. -/
theorem loadType_congr {classes classes' : ReleaseClasses}
    (hrelease : classes.release = classes'.release) (hsource : classes.source.Alike classes'.source)
    {library library' : PlatformLibrary} (hlibrary : library.SameShown files library')
    (s s' : Session) (name : String) (module : Option String) (accepts : String → Bool) :
    (classes.loadType library files s name module accepts).1.toOption
      = (classes'.loadType library' files s' name module accepts).1.toOption := by
  obtain ⟨release, source⟩ := classes
  obtain ⟨release', source'⟩ := classes'
  obtain rfl : release = release' := hrelease
  have hload := PlatformLibrary.loadType_congr hlibrary s s' name module accepts
  cases hsource with
  | unavailable error error' => rfl
  | runtimeImage => exact congrArg Except.toOption hload
  | @symbols a b h code place =>
    have hroots : a.releaseRoots code = b.releaseRoots code :=
      SymbolArchive.congr_unplaced (f := (·.releaseRoots code)) (fun _ => rfl) h
    rw [loadType, loadType]
    dsimp only
    rw [hroots]
    split
    · exact congrArg Except.toOption hload
    · exact loadSymbols_congr h ⟨release, .symbols a code place⟩ hlibrary s s' code name module

theorem loadType_preserves (files : Files) (classes : ReleaseClasses)
    (library : PlatformLibrary) (session : Session) (name : String) (module : Option String)
    (accepts : String → Bool) :
    (classes.loadType library files session name module accepts).2.1.SameShown files library ∧
      (classes.loadType library files session name module accepts).2.2.SameCaches session := by
  have hlibrary := library.loadType_preserves files session name module accepts
  rw [loadType]
  split
  · exact ⟨.refl library, .refl session⟩
  · exact hlibrary
  · split
    · exact hlibrary
    · exact ⟨.refl library, sameCaches_loadSymbols _ classes library session _ name module⟩

end ReleaseClasses

/-! ## The platform library of a release -/

namespace ReleaseLibrary

variable {files : Files}

/-- A lookup at a release is one in the runtime image. -/
theorem find_versioned (entry : ReleaseLibrary) (session : Session) (query : Query)
    (constraint : ModuleConstraint) (number : UInt16) :
    (entry.find files session query constraint (.java number)).1
      = (entry.library.find files session query constraint).1 := rfl

/-- Setting the classes of the release up leaves the library showing the same, and the session
giving the same archives. -/
theorem releaseClasses_preserves (files : Files) (entry : ReleaseLibrary) (session : Session) :
    (entry.releaseClasses files session).2.1.library.SameShown files entry.library ∧
      (entry.releaseClasses files session).2.2.SameArchives files session := by
  rw [releaseClasses]
  cases entry.classes with
  | some classes => exact ⟨.refl _, .refl session⟩
  | none =>
    have hdecide := ReleaseClasses.decideSource_preserves files entry.library session
      entry.number
    have hload := ReleaseClasses.loadModules_preserves files
      ⟨entry.number, (ReleaseClasses.decideSource entry.library files session entry.number).1⟩
      entry.library (ReleaseClasses.decideSource entry.library files session entry.number).2
    exact ⟨hload.1, (Session.sameArchives_of_archives hload.2).trans hdecide⟩

/-- The classes of the release come from the same source, whichever of two related sessions they are
set up in. -/
theorem releaseClasses_congr (entry : ReleaseLibrary) {s s' : Session}
    (h : s.SameArchives files s') :
    (entry.releaseClasses files s).1.release = (entry.releaseClasses files s').1.release ∧
      (entry.releaseClasses files s).1.source.Alike (entry.releaseClasses files s').1.source := by
  rw [releaseClasses, releaseClasses]
  cases entry.classes with
  | some classes => exact ⟨rfl, .refl _⟩
  | none => exact ⟨rfl, ReleaseClasses.decideSource_alike entry.library h entry.number⟩

/-- Loading the type that a query asks for from the classes of the release. -/
def loadFor (entry : ReleaseLibrary) (files : Files) (session : Session) (query : Query)
    (constraint : ModuleConstraint) :
    Except LoadError (Option Answer) × PlatformLibrary × Session :=
  let (classes, entry, session) := entry.releaseClasses files session
  classes.loadType entry.library files session query.qualifiedBinaryFileName constraint.name?
    fun _ => true

theorem find_unversioned (entry : ReleaseLibrary) (session : Session) (query : Query)
    (constraint : ModuleConstraint) :
    entry.find files session query constraint .unversioned
      = ((entry.loadFor files session query constraint).1.toOption.join,
        { (entry.releaseClasses files session).2.1 with
          library := (entry.loadFor files session query constraint).2.1 },
        (entry.loadFor files session query constraint).2.2) := by
  rw [find, if_neg (by decide)]
  simp only [loadFor]
  cases (entry.releaseClasses files session).1.loadType
      (entry.releaseClasses files session).2.1.library files
      (entry.releaseClasses files session).2.2
      query.qualifiedBinaryFileName constraint.name? fun _ => true with
  | mk found after => cases found <;> rfl

/-- **A lookup leaves what is shared as it was.** -/
theorem find_preserves (files : Files) (entry : ReleaseLibrary) (session : Session)
    (query : Query) (constraint : ModuleConstraint) (release : Release) :
    (entry.find files session query constraint release).2.1.library.SameShown files entry.library ∧
      (entry.find files session query constraint release).2.2.SameArchives files session := by
  cases release with
  | java number =>
    have hload := entry.library.loadType_preserves files session
      query.qualifiedBinaryFileName constraint.name? fun _ => true
    rw [← PlatformLibrary.find_snd] at hload
    exact ⟨hload.1, Session.sameArchives_of_archives hload.2.archives⟩
  | unversioned =>
    have hclasses := entry.releaseClasses_preserves files session
    have hload := ReleaseClasses.loadType_preserves files
      (entry.releaseClasses files session).1 (entry.releaseClasses files session).2.1.library
      (entry.releaseClasses files session).2.2 query.qualifiedBinaryFileName constraint.name?
      fun _ => true
    rw [find_unversioned]
    exact ⟨hload.1.trans hclasses.1,
      (Session.sameArchives_of_archives hload.2.archives).trans hclasses.2⟩

/-- **An entry answers alike in sessions that give the same archives.** -/
theorem find_congr (entry : ReleaseLibrary) {s s' : Session} (h : s.SameArchives files s')
    (query : Query) (constraint : ModuleConstraint) (release : Release) :
    (entry.find files s query constraint release).1
      = (entry.find files s' query constraint release).1 := by
  cases release with
  | java number =>
    rw [find_versioned, find_versioned, PlatformLibrary.find_fst, PlatformLibrary.find_fst,
      PlatformLibrary.loadType_congr (.refl entry.library) s s']
  | unversioned =>
    obtain ⟨hrelease, hsource⟩ := entry.releaseClasses_congr h
    have hlibrary := (entry.releaseClasses_preserves files s).1.trans
      (entry.releaseClasses_preserves files s').1.symm
    rw [find_unversioned, find_unversioned]
    exact congrArg Option.join (ReleaseClasses.loadType_congr hrelease hsource hlibrary _ _ _ _ _)

end ReleaseLibrary

end MultiRelease
