import MultiRelease.Location
import MultiRelease.Proofs.Platform.Shared

/-!
# The own answers of locations

A location remembers what it saw, and it works in a session, but neither shows in its answers as
long as the files stay as they are.  What a location answers to a lookup at a release is its *own
answer* (`Location.ownAnswer`), given if the location is bound to that release or to an older one.
The release of the lookup does not matter beyond that.

* `Location.find_eq_ownAnswer` says so for the lookups at a release, and for those without one if
  the location is no platform library of a release.  Such an entry answers a lookup without a
  release from the classes of its own release, which is why it is an exception.
* `Location.shown_find`: being asked does not change what a location shows, which is the release
  that it is bound to, whether it is such an entry, and its own answers (`Location.Shown`).
* `Location.release_ownAnswer`: the own answer is marked with the release that the location is bound
  to.
* `Location.find_congr` and `Location.sameArchives_find`: of the session only the archives matter,
  and a lookup leaves the session giving the same ones.

The statements are proved for class folders, source roots and platform libraries one after the
other, and put together by cases.  For folders they rest on one fact about what is remembered: a
look at one package does not change what is seen of any package (`Sightings.look_look`).  For class
files it is that they are decoded alike in all sessions (`readAnswer_congr`).  The platform
libraries have a file of their own.
-/

set_option autoImplicit false

namespace MultiRelease

/-! ## Sightings -/

/-- A look at one package does not change what is seen of any package. -/
theorem Sightings.look_look {α : Type} (sightings : Sightings α) (package other : String)
    (probe : String → Option α) :
    ((sightings.look package probe).2.look other probe).1 = (sightings.look other probe).1 := by
  cases hseen : sightings.seen.find? (·.1 = package) with
  | some found => simp only [look, hseen]
  | none =>
    simp only [look, hseen, List.find?_append]
    cases sightings.seen.find? (·.1 = other) with
    | some found => rfl
    | none =>
      by_cases hother : package = other
      · simp [hother]
      · simp [hother]

/-! ## Class files -/

variable {files : Files}

/-- What is read from a class file is the type in it, if there is one. -/
theorem readAnswer_fst (session : Session) (path : Path) (query : Query)
    (moduleName : Option String) (release : Release) :
    (readAnswer files session path query moduleName release).1
      = ((files.read? path).bind fun content => (parseBinaryType content.bytes).toOption).map
          fun type => { kind := .binary type, moduleName, release } := by
  rw [readAnswer]
  cases files.read? path with
  | none => rfl
  | some content =>
    dsimp only [Session.decode, Option.bind_some]
    cases parseBinaryType content.bytes <;> rfl

/-- The session does not matter for what is read from a class file. -/
theorem readAnswer_congr (s s' : Session) (path : Path) (query : Query)
    (moduleName : Option String) (release : Release) :
    (readAnswer files s path query moduleName release).1
      = (readAnswer files s' path query moduleName release).1 := by
  rw [readAnswer_fst, readAnswer_fst]

theorem sameCaches_readAnswer (session : Session) (path : Path) (query : Query)
    (moduleName : Option String) (release : Release) :
    (readAnswer files session path query moduleName release).2.SameCaches session := by
  rw [readAnswer]
  cases files.read? path with
  | none => exact .refl session
  | some content =>
    dsimp only [Session.decode]
    cases parseBinaryType content.bytes <;> exact ⟨rfl, rfl⟩

/-- What is answered with a class file is the type in it. -/
theorem readAnswer_eq_some_iff {session : Session} {path : Path} {query : Query}
    {moduleName : Option String} {release : Release} {answer : Answer} :
    (readAnswer files session path query moduleName release).1 = some answer ↔
      ∃ content type, files.read? path = some content ∧
        parseBinaryType content.bytes = .ok type ∧
        answer = { kind := .binary type, moduleName, release } := by
  rw [readAnswer]
  cases hread : files.read? path with
  | none => simp
  | some content =>
    cases hparse : parseBinaryType content.bytes with
    | error cause => simp [Session.decode, hparse]
    | ok type => simp [Session.decode, hparse, eq_comm]

theorem release_readAnswer {session : Session} {path : Path} {query : Query}
    {moduleName : Option String} {release : Release} {answer : Answer}
    (h : (readAnswer files session path query moduleName release).1 = some answer) :
    answer.release = release := by
  obtain ⟨_, _, -, -, rfl⟩ := readAnswer_eq_some_iff.1 h
  rfl

/-! ## Class folders -/

namespace ClassFolder

/-- What a folder answers if the release of the lookup is one that it applies to. -/
def ownAnswer (folder : ClassFolder) (files : Files) (query : Query)
    (constraint : ModuleConstraint) : Option Answer :=
  if constraint.accepts folder.moduleName &&
      (folder.list files query.packageName).1.any (·.contains query.binaryFileName) then
    (readAnswer files {} (folder.root.child query.qualifiedBinaryFileName) query folder.moduleName
      folder.release).1.map (folder.restrict query)
  else none

theorem find_fst (folder : ClassFolder) (session : Session) (query : Query)
    (constraint : ModuleConstraint) (release : Release) :
    (folder.find files session query constraint release).1
      = if folder.release.appliesTo release then folder.ownAnswer files query constraint
        else none := by
  rw [find, ownAnswer]
  by_cases hrelease : folder.release.appliesTo release
  · by_cases hmodule : constraint.accepts folder.moduleName
    · simp only [hrelease, hmodule, Bool.and_self, Bool.true_and, if_true]
      by_cases hlisted :
          (folder.list files query.packageName).1.any (·.contains query.binaryFileName)
      · rw [if_pos hlisted, if_pos hlisted]
        exact congrArg (Option.map _) (readAnswer_congr session {} _ query _ _)
      · rw [if_neg hlisted, if_neg hlisted]
    · simp [hmodule]
  · simp [hrelease]

theorem list_list (folder : ClassFolder) (package other : String) :
    ((folder.list files package).2.list files other).1 = (folder.list files other).1 :=
  folder.sightings.look_look package other _

/-- A lookup that concerns the folder looks at a package, and it changes nothing else. -/
theorem find_folder (files : Files) (folder : ClassFolder) (session : Session)
    (query : Query) (constraint : ModuleConstraint) (release : Release) :
    (folder.find files session query constraint release).2.1
      = if folder.release.appliesTo release && constraint.accepts folder.moduleName then
          (folder.list files query.packageName).2
        else folder := by
  rw [find]
  split
  · dsimp only
    split <;> rfl
  · rfl

/-- Being asked for a type changes nothing, or a package is looked at. -/
theorem find_location (files : Files) (folder : ClassFolder) (session : Session)
    (query : Query) (constraint : ModuleConstraint) (release : Release) :
    (folder.find files session query constraint release).2.1 = folder ∨
      (folder.find files session query constraint release).2.1
        = (folder.list files query.packageName).2 := by
  rw [find_folder]
  split
  · exact .inr rfl
  · exact .inl rfl

theorem sameCaches_find (folder : ClassFolder) (session : Session) (query : Query)
    (constraint : ModuleConstraint) (release : Release) :
    (folder.find files session query constraint release).2.2.SameCaches session := by
  rw [find]
  split
  · dsimp only
    split
    · exact sameCaches_readAnswer session _ query _ _
    · exact .refl session
  · exact .refl session

theorem ownAnswer_find (folder : ClassFolder) (session : Session) (query : Query)
    (constraint : ModuleConstraint) (release : Release) :
    (folder.find files session query constraint release).2.1.ownAnswer files
      = folder.ownAnswer files := by
  rcases folder.find_location files session query constraint release with h | h
  · rw [h]
  · rw [h]
    funext query' constraint'
    rw [ownAnswer, list_list]
    rfl

theorem release_ownAnswer {folder : ClassFolder} {query : Query} {constraint : ModuleConstraint}
    {answer : Answer} (h : folder.ownAnswer files query constraint = some answer) :
    answer.release = folder.release := by
  rw [ownAnswer] at h
  split at h
  · obtain ⟨found, hfound, rfl⟩ := Option.map_eq_some_iff.1 h
    have hrelease := release_readAnswer hfound
    exact hrelease
  · cases h

end ClassFolder

/-! ## Source roots -/

namespace SourceRoot

/-- What a root answers from what it shows for the package. -/
def answerFrom (root : SourceRoot) (files : Files) (query : Query) (listing : PackageListing) :
    Option Answer :=
  if listing.fromSource then
    if !query.binaryOnly && listing.entries.contains query.sourceFileName then
      some (root.sourceAnswer query)
    else none
  else if listing.entries.contains query.binaryFileName then
    (readAnswer files {} (root.binaryFolder.child query.qualifiedBinaryFileName) query
      root.moduleName root.release).1
  else none

/-- What a root shows of its sources it answers by name, and what it shows of its classes by what
the class file holds. -/
theorem answerFrom_eq_some_iff {root : SourceRoot} {query : Query} {listing : PackageListing}
    {answer : Answer} : root.answerFrom files query listing = some answer ↔
      (listing.fromSource = true ∧ query.binaryOnly = false ∧
        query.sourceFileName ∈ listing.entries ∧ answer = root.sourceAnswer query) ∨
      (listing.fromSource = false ∧ query.binaryFileName ∈ listing.entries ∧
        ∃ content type, files.read? (root.binaryFolder.child query.qualifiedBinaryFileName)
            = some content ∧ parseBinaryType content.bytes = .ok type ∧
          answer = { kind := .binary type, moduleName := root.moduleName,
                     release := root.release }) := by
  rw [answerFrom]
  by_cases hsource : listing.fromSource = true
  · have hanswer : root.sourceAnswer query = answer ↔ answer = root.sourceAnswer query := eq_comm
    simp [hsource, and_assoc, hanswer]
  · simp [hsource, readAnswer_eq_some_iff]

/-- What a root answers if the release of the lookup is one that it applies to. -/
def ownAnswer (root : SourceRoot) (files : Files) (query : Query)
    (constraint : ModuleConstraint) : Option Answer :=
  if constraint.accepts root.moduleName then
    (root.packageListing files query.packageName).1.bind (root.answerFrom files query)
  else none

theorem find_fst (root : SourceRoot) (session : Session) (query : Query)
    (constraint : ModuleConstraint) (release : Release) :
    (root.find files session query constraint release).1
      = if root.release.appliesTo release then root.ownAnswer files query constraint else none := by
  rw [find, ownAnswer]
  by_cases hrelease : root.release.appliesTo release
  · by_cases hmodule : constraint.accepts root.moduleName
    · simp only [hrelease, hmodule, Bool.and_self, if_true]
      have hroot : (root.packageListing files query.packageName).2
          = { root with sightings := (root.packageListing files query.packageName).2.sightings } :=
        rfl
      cases hlisting : root.packageListing files query.packageName with
      | mk listing after =>
        rw [hlisting] at hroot
        cases listing with
        | none => rfl
        | some listing =>
          dsimp only [Option.bind_some] at hroot ⊢
          rw [hroot, answerFrom]
          split
          · split <;> rfl
          · split
            · exact readAnswer_congr session {} _ query _ _
            · rfl
    · simp [hmodule]
  · simp [hrelease]

theorem packageListing_packageListing (root : SourceRoot) (package other : String) :
    ((root.packageListing files package).2.packageListing files other).1
      = (root.packageListing files other).1 :=
  root.sightings.look_look package other _

/-- A lookup that concerns the root looks at a package, and it changes nothing else. -/
theorem find_root (files : Files) (root : SourceRoot) (session : Session)
    (query : Query) (constraint : ModuleConstraint) (release : Release) :
    (root.find files session query constraint release).2.1
      = if root.release.appliesTo release && constraint.accepts root.moduleName then
          (root.packageListing files query.packageName).2
        else root := by
  rw [find]
  split
  · split
    · rename_i h
      rw [h]
    · rename_i h
      rw [h]
      split
      · split <;> rfl
      · split <;> rfl
  · rfl

/-- Being asked for a type changes nothing, or a package is looked at. -/
theorem find_location (files : Files) (root : SourceRoot) (session : Session)
    (query : Query) (constraint : ModuleConstraint) (release : Release) :
    (root.find files session query constraint release).2.1 = root ∨
      (root.find files session query constraint release).2.1
        = (root.packageListing files query.packageName).2 := by
  rw [find_root]
  split
  · exact .inr rfl
  · exact .inl rfl

theorem sameCaches_find (root : SourceRoot) (session : Session) (query : Query)
    (constraint : ModuleConstraint) (release : Release) :
    (root.find files session query constraint release).2.2.SameCaches session := by
  rw [find]
  split
  · split
    · exact .refl session
    · split
      · split <;> exact .refl session
      · split
        · exact sameCaches_readAnswer session _ query _ _
        · exact .refl session
  · exact .refl session

theorem ownAnswer_find (root : SourceRoot) (session : Session) (query : Query)
    (constraint : ModuleConstraint) (release : Release) :
    (root.find files session query constraint release).2.1.ownAnswer files
      = root.ownAnswer files := by
  rcases root.find_location files session query constraint release with h | h
  · rw [h]
  · rw [h]
    funext query' constraint'
    rw [ownAnswer, packageListing_packageListing]
    rfl

theorem release_ownAnswer {root : SourceRoot} {query : Query} {constraint : ModuleConstraint}
    {answer : Answer} (h : root.ownAnswer files query constraint = some answer) :
    answer.release = root.release := by
  rw [ownAnswer] at h
  split at h
  · obtain ⟨listing, -, hanswer⟩ := Option.bind_eq_some_iff.1 h
    rcases answerFrom_eq_some_iff.1 hanswer with ⟨-, -, -, rfl⟩ | ⟨-, -, _, _, -, -, rfl⟩
    · rfl
    · rfl
  · cases h

end SourceRoot

/-! ## All locations -/

namespace Location

/-- Whether the location is the platform library of a release. -/
def isReleasePlatform : Location → Bool
  | releasePlatform _ => true
  | _ => false

/-- What a location answers if the release of the lookup is one that it applies to.  For the
platform library of a release, which tells lookups at a release from others, this is what it answers
to the former. -/
def ownAnswer (files : Files) (query : Query) (constraint : ModuleConstraint) :
    Location → Option Answer
  | classFolder folder => folder.ownAnswer files query constraint
  | sourceRoot root => root.ownAnswer files query constraint
  | platform library => (library.find files {} query constraint).1
  | releasePlatform entry => (entry.library.find files {} query constraint).1

theorem find_platform_congr {a b : PlatformLibrary} (h : a.SameShown files b) (s s' : Session)
    (query : Query) (constraint : ModuleConstraint) :
    (a.find files s query constraint).1 = (b.find files s' query constraint).1 := by
  rw [PlatformLibrary.find_fst, PlatformLibrary.find_fst, PlatformLibrary.loadType_congr h s s']

/-- **The release of a lookup decides whether a location answers, but not what.** -/
theorem find_eq_ownAnswer (location : Location) (session : Session) (query : Query)
    (constraint : ModuleConstraint) (release : Release)
    (h : release.isVersioned = true ∨ location.isReleasePlatform = false) :
    (location.find files query constraint release session).1
      = if location.release.appliesTo release then location.ownAnswer files query constraint
        else none := by
  cases location with
  | classFolder folder => exact folder.find_fst session query constraint release
  | sourceRoot root => exact root.find_fst session query constraint release
  | platform library => exact find_platform_congr (.refl library) session {} query constraint
  | releasePlatform entry =>
    cases release with
    | java number => exact find_platform_congr (.refl entry.library) session {} query constraint
    | unversioned => simp [isReleasePlatform, Release.isVersioned] at h

/-- What a location shows. -/
structure Shown where
  release : Release
  /-- Whether a lookup without a release is answered differently. -/
  isReleasePlatform : Bool
  answer : Query → ModuleConstraint → Option Answer

/-- What a location shows as long as the files stay as they are. -/
def shown (files : Files) (location : Location) : Shown where
  release := location.release
  isReleasePlatform := location.isReleasePlatform
  answer query constraint := location.ownAnswer files query constraint

/-- **Being asked changes nothing about what a location shows.** -/
theorem shown_find (location : Location) (session : Session) (query : Query)
    (constraint : ModuleConstraint) (release : Release) :
    (location.find files query constraint release session).2.1.shown files
      = location.shown files := by
  cases location with
  | classFolder folder =>
    have hrelease : (folder.find files session query constraint release).2.1.release
        = folder.release := by
      rcases folder.find_location files session query constraint release with h | h
      · rw [h]
      · rw [h]
        rfl
    show Shown.mk _ false _ = Shown.mk _ false _
    exact congr (congrArg (Shown.mk · false) hrelease)
      (folder.ownAnswer_find session query constraint release)
  | sourceRoot root =>
    have hrelease : (root.find files session query constraint release).2.1.release
        = root.release := by
      rcases root.find_location files session query constraint release with h | h
      · rw [h]
      · rw [h]
        rfl
    show Shown.mk _ false _ = Shown.mk _ false _
    exact congr (congrArg (Shown.mk · false) hrelease)
      (root.ownAnswer_find session query constraint release)
  | platform library =>
    have hlibrary := (library.loadType_preserves files session
      query.qualifiedBinaryFileName constraint.name? fun _ => true).1
    rw [← PlatformLibrary.find_snd] at hlibrary
    exact congrArg (Shown.mk .unversioned false) (funext fun query' => funext fun constraint' =>
      find_platform_congr hlibrary {} {} query' constraint')
  | releasePlatform entry =>
    have hlibrary := (entry.find_preserves files session query constraint release).1
    exact congrArg (Shown.mk .unversioned true) (funext fun query' => funext fun constraint' =>
      find_platform_congr hlibrary {} {} query' constraint')

/-- **An answer is marked with the release that its location is bound to.** -/
theorem release_ownAnswer {location : Location} {query : Query} {constraint : ModuleConstraint}
    {answer : Answer} (h : location.ownAnswer files query constraint = some answer) :
    answer.release = location.release := by
  have hplatform : ∀ library : PlatformLibrary,
      (library.find files {} query constraint).1 = some answer →
        answer.release = .unversioned := by
    intro library hfind
    rw [PlatformLibrary.find_fst, Option.join_eq_some_iff] at hfind
    cases hload : (library.loadType files {} query.qualifiedBinaryFileName constraint.name?
        fun _ => true).1 with
    | error error => simp [hload, Except.toOption] at hfind
    | ok found =>
      rw [hload] at hfind
      exact PlatformLibrary.release_loadType (hload.trans (congrArg _ (Option.some_inj.1 hfind)))
  cases location with
  | classFolder folder => exact ClassFolder.release_ownAnswer h
  | sourceRoot root => exact SourceRoot.release_ownAnswer h
  | platform library => exact hplatform library h
  | releasePlatform entry => exact hplatform entry.library h

/-! ## Sessions -/

/-- A lookup leaves the session giving the same archives. -/
theorem sameArchives_find (location : Location) (session : Session) (query : Query)
    (constraint : ModuleConstraint) (release : Release) :
    (location.find files query constraint release session).2.2.SameArchives files session := by
  cases location with
  | classFolder folder =>
    exact Session.sameArchives_of_archives
      (folder.sameCaches_find session query constraint release).archives
  | sourceRoot root =>
    exact Session.sameArchives_of_archives
      (root.sameCaches_find session query constraint release).archives
  | platform library =>
    have hload := (library.loadType_preserves files session
      query.qualifiedBinaryFileName constraint.name? fun _ => true).2
    rw [← PlatformLibrary.find_snd] at hload
    exact Session.sameArchives_of_archives hload.archives
  | releasePlatform entry => exact (entry.find_preserves files session query constraint release).2

/-- **A location answers alike in sessions that give the same archives.** -/
theorem find_congr (location : Location) {s s' : Session} (h : s.SameArchives files s')
    (query : Query) (constraint : ModuleConstraint) (release : Release) :
    (location.find files query constraint release s).1
      = (location.find files query constraint release s').1 := by
  cases location with
  | classFolder folder =>
    exact (folder.find_fst s query constraint release).trans
      (folder.find_fst s' query constraint release).symm
  | sourceRoot root =>
    exact (root.find_fst s query constraint release).trans
      (root.find_fst s' query constraint release).symm
  | platform library => exact find_platform_congr (.refl library) s s' query constraint
  | releasePlatform entry => exact entry.find_congr h query constraint release

end Location

end MultiRelease
