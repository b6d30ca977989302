import MultiRelease.Proofs.Location.OwnAnswer
import MultiRelease.Proofs.Platform.Settled
import MultiRelease.Proofs.Platform.Standing

/-!
# Locations without history

The locations of a build share a session.  They remember the packages that they looked at, they set
the classes of a release up when these are first needed, and the session keeps the modules and the
archives that it has seen.

None of this shows: whatever the locations were asked before, in whatever order, each of them
answers as if it had just been built and its session were new (`Location.run_eq`).  All kinds of
calls are meant: lookups, listings, the names of modules, and what else a build asks
(`Location.Call`).

What carries this through a run is that every location is *settled* in the session
(`Location.Settled`) and differs from the one that was built at most in what it remembers
(`Location.Same`), and that the session is faithful: what it has cached is what would be found now.
The invariant of all locations together is `Location.Stand`.

* It holds of locations as they were built and of a new session (`Location.stand_built`).
* One call preserves it, for the location that is asked (`Location.perform_leaves`) and for all
  others, which share the session and are not asked (`Location.Stand.perform`).  For them it matters
  that a session only grows.
* The outcome of a call depends on nothing else (`Location.perform_alike`).

By induction on the calls, the outcomes of a run are those of single calls
(`Location.run_of_stand`).

A location counts as built if its folders have not been looked at and its platform library has been
opened (`Location.Built`).  The path of a library must not have a bar in it, because a session files
modules under texts in which a bar separates the path from what follows; a path with a bar might be
taken for another one with a release.
-/

set_option autoImplicit false

namespace MultiRelease

variable {files : Files}

namespace Location

/-! ## Calls -/

/-- What a location may be asked. -/
inductive Call where
  | find (query : Query) (constraint : ModuleConstraint) (release : Release)
  | list (package : String)
  | moduleNames (limit : Option (List String))
  | hasModule
  | modulesPlace

/-- What it says. -/
inductive Outcome where
  | found (answer : Option Answer)
  | members (listing : Option (List String))
  | names (names : List String)
  | decision (answer : Bool)
  | place (place : Option String)

/-- Asks a location. -/
def perform (files : Files) (call : Call) (session : Session) (location : Location) :
    Outcome × Location × Session :=
  match call with
  | .find query constraint release =>
    let (found, location, session) := location.find files query constraint release session
    (.found found, location, session)
  | .list package =>
    let (listing, location) := location.list files package
    (.members listing, location, session)
  | .moduleNames limit =>
    let (names, location, session) := location.moduleNames files limit session
    (.names names, location, session)
  | .hasModule =>
    let (answer, location, session) := location.hasModule files session
    (.decision answer, location, session)
  | .modulesPlace =>
    let (place, location, session) := location.modulesPlace files session
    (.place place, location, session)

/-- Asks locations that share a session one after the other, each call naming one by its
position. -/
def run (files : Files) : List (Nat × Call) → List Location → Session → List (Option Outcome)
  | [], _, _ => []
  | (position, call) :: calls, locations, session =>
    match locations[position]? with
    | none => none :: run files calls locations session
    | some location =>
      let (outcome, location, session) := location.perform files call session
      some outcome :: run files calls (locations.set position location) session

/-- A location as it is built.  The path of a platform library has no bar. -/
inductive Built (files : Files) : Location → Prop
  | classFolder {folder : ClassFolder} (hfresh : folder.sightings.seen = []) :
    Built files (.classFolder folder)
  | sourceRoot {root : SourceRoot} (hfresh : root.sightings.seen = []) :
    Built files (.sourceRoot root)
  | platform {path : Path} {rules : Option AccessRules} {annotationPath : Option Path}
    {library : PlatformLibrary} (hplain : '|' ∉ path.text.toList)
    (hopen : PlatformLibrary.openArchive files path rules annotationPath = .ok library) :
    Built files (.platform library)
  | releasePlatform {path : Path} {rules : Option AccessRules} {annotationPath : Option Path}
    {compliance : String} {entry : ReleaseLibrary} (hplain : '|' ∉ path.text.toList)
    (hopen : ReleaseLibrary.openArchive files path rules annotationPath compliance = .ok entry) :
    Built files (.releasePlatform entry)

/-! ## What does not show -/

/-- Locations that differ at most in what they remember. -/
inductive Same (files : Files) : Location → Location → Prop
  | classFolder {a b : ClassFolder} (hfields : { a with sightings := b.sightings } = b)
    (hlist : ∀ package, (a.list files package).1 = (b.list files package).1) :
    Same files (.classFolder a) (.classFolder b)
  | sourceRoot {a b : SourceRoot} (hfields : { a with sightings := b.sightings } = b)
    (hlisting : ∀ package, (a.packageListing files package).1 = (b.packageListing files package).1) :
    Same files (.sourceRoot a) (.sourceRoot b)
  | platform {a b : PlatformLibrary} (h : a.SameShown files b) :
    Same files (.platform a) (.platform b)
  | releasePlatform {a b : ReleaseLibrary} (h : a.Same files b) :
    Same files (.releasePlatform a) (.releasePlatform b)

/-- A location as it was built, or as it is after some use. -/
def Settled (files : Files) (session : Session) : Location → Prop
  | classFolder _ => True
  | sourceRoot _ => True
  | platform library => library.Opened files
  | releasePlatform entry => entry.Settled files session

theorem Same.refl (location : Location) : location.Same files location := by
  cases location with
  | classFolder folder => exact .classFolder rfl fun _ => rfl
  | sourceRoot root => exact .sourceRoot rfl fun _ => rfl
  | platform library => exact .platform (.refl library)
  | releasePlatform entry => exact .releasePlatform ⟨.refl _, rfl⟩

theorem Settled.of_grows {location : Location} {session later : Session}
    (h : location.Settled files session) (hgrows : session.Grows files later) :
    location.Settled files later := by
  cases location with
  | classFolder folder => trivial
  | sourceRoot root => trivial
  | platform library => exact h
  | releasePlatform entry => exact ReleaseLibrary.Settled.of_grows h hgrows

theorem Same.trans {a b c : Location} (hab : a.Same files b) (hbc : b.Same files c) :
    a.Same files c := by
  cases hab with
  | classFolder hfields hlist =>
    cases hbc with
    | classFolder hfields' hlist' =>
      exact .classFolder (by rw [← hfields', ← hfields]) fun package =>
        (hlist package).trans (hlist' package)
  | sourceRoot hfields hlisting =>
    cases hbc with
    | sourceRoot hfields' hlisting' =>
      exact .sourceRoot (by rw [← hfields', ← hfields]) fun package =>
        (hlisting package).trans (hlisting' package)
  | platform h => cases hbc with | platform h' => exact .platform (h.trans h')
  | releasePlatform h =>
    cases hbc with
    | releasePlatform h' =>
      exact .releasePlatform ⟨h.library.trans h'.library, h.number.trans h'.number⟩

/-- A location that was just built is settled in a new session. -/
theorem Built.settled {location : Location} (h : location.Built files) :
    location.Settled files {} := by
  cases h with
  | classFolder hfresh => trivial
  | sourceRoot hfresh => trivial
  | platform hplain hopen => exact PlatformLibrary.opened_of_openArchive hplain hopen
  | releasePlatform hplain hopen => exact ReleaseLibrary.settled_of_openArchive hplain hopen {}

/-- A folder that looked at a package. -/
theorem same_list (folder : ClassFolder) (package : String) :
    Same files (.classFolder (folder.list files package).2) (.classFolder folder) :=
  .classFolder rfl (folder.list_list package)

theorem same_packageListing (root : SourceRoot) (package : String) :
    Same files (.sourceRoot (root.packageListing files package).2) (.sourceRoot root) :=
  .sourceRoot rfl (root.packageListing_packageListing package)

/-! ## One call -/

/-- What a call leaves behind: a session that knows no less, and the location as it was, up to what
it remembers. -/
structure Leaves (files : Files) (location : Location) (session : Session)
    (after : Location × Session) : Prop where
  grows : session.Grows files after.2
  same : after.1.Same files location
  settled : after.1.Settled files after.2

theorem Leaves.refl {location : Location} {session : Session}
    (h : location.Settled files session) : Leaves files location session (location, session) :=
  ⟨.refl session, .refl location, h⟩

variable {location : Location} {session : Session}

/-- A lookup leaves the location as it was, up to what it remembers. -/
theorem find_leaves (h : location.Settled files session) (hsession : session.Faithful files)
    (query : Query) (constraint : ModuleConstraint) (release : Release) :
    Leaves files location session (location.find files query constraint release session).2 := by
  cases location with
  | classFolder folder =>
    refine ⟨(folder.sameCaches_find session query constraint release).grows, ?_, trivial⟩
    show Same files (.classFolder (folder.find files session query constraint release).2.1) _
    rcases folder.find_location files session query constraint release with hsame | hlooked
    · rw [hsame]
      exact .refl _
    · rw [hlooked]
      exact same_list folder query.packageName
  | sourceRoot root =>
    refine ⟨(root.sameCaches_find session query constraint release).grows, ?_, trivial⟩
    show Same files (.sourceRoot (root.find files session query constraint release).2.1) _
    rcases root.find_location files session query constraint release with hsame | hlooked
    · rw [hsame]
      exact .refl _
    · rw [hlooked]
      exact same_packageListing root query.packageName
  | platform library =>
    have hload := library.loadType_preserves files session query.qualifiedBinaryFileName
      constraint.name? fun _ => true
    rw [← PlatformLibrary.find_snd] at hload
    exact ⟨hload.2.grows, .platform hload.1, PlatformLibrary.Opened.congr h hload.1⟩
  | releasePlatform entry =>
    obtain ⟨hgrows, hsame, hsettled⟩ :=
      ReleaseLibrary.find_settled h hsession query constraint release
    exact ⟨hgrows, .releasePlatform hsame, hsettled⟩

theorem list_leaves (h : location.Settled files session) (package : String) :
    Leaves files location session ((location.list files package).2, session) := by
  cases location with
  | classFolder folder => exact ⟨.refl session, same_list folder package, trivial⟩
  | sourceRoot root => exact ⟨.refl session, same_packageListing root package, trivial⟩
  | platform library => exact .refl h
  | releasePlatform entry => exact .refl h

/-- Setting the classes of a release up. -/
theorem releaseClasses_leaves {entry : ReleaseLibrary} (h : entry.Settled files session)
    (hsession : session.Faithful files) :
    Leaves files (.releasePlatform entry) session
      (.releasePlatform (entry.releaseClasses files session).2.1,
        (entry.releaseClasses files session).2.2) := by
  obtain ⟨hgrows, hsame, hsettled, -⟩ := ReleaseLibrary.releaseClasses_settled h hsession
  exact ⟨hgrows, .releasePlatform hsame, hsettled⟩

theorem moduleNames_leaves (h : location.Settled files session)
    (hsession : session.Faithful files) (limit : Option (List String)) :
    Leaves files location session (location.moduleNames files limit session).2 := by
  cases location with
  | classFolder folder => exact .refl h
  | sourceRoot root => exact .refl h
  | platform library =>
    have hlibrary := (library.loadModules_preserves files session).1
    exact ⟨(PlatformLibrary.loadModules_grows h hsession).1, .platform hlibrary,
      PlatformLibrary.Opened.congr h hlibrary⟩
  | releasePlatform entry =>
    have hleaves := releaseClasses_leaves h hsession
    rw [moduleNames, ReleaseLibrary.moduleNames, ReleaseLibrary.modulesPlace]
    dsimp only
    split <;> exact hleaves

/-- **A call leaves every location settled that was**, up to what it remembers as it was. -/
theorem perform_leaves (h : location.Settled files session) (hsession : session.Faithful files)
    (call : Call) : Leaves files location session (location.perform files call session).2 := by
  cases call with
  | find query constraint release => exact find_leaves h hsession query constraint release
  | list package => exact list_leaves h package
  | moduleNames limit => exact moduleNames_leaves h hsession limit
  | hasModule =>
    cases location with
    | releasePlatform entry => exact releaseClasses_leaves h hsession
    | _ => exact .refl h
  | modulesPlace =>
    cases location with
    | releasePlatform entry => exact releaseClasses_leaves h hsession
    | _ => exact .refl h

variable {a b : Location} {s s' : Session}

/-- The locations of a run and its session as they stand: settled, and as they were built up to what
they remember. -/
structure Stand (files : Files) (built locations : List Location) (session : Session) : Prop where
  faithful : session.Faithful files
  length : locations.length = built.length
  each : ∀ {position : Nat} {location : Location}, locations[position]? = some location →
    ∃ origin, built[position]? = some origin ∧ location.Same files origin ∧
      location.Settled files session

/-- **A call leaves all locations standing as they did**, those that share the session included. -/
theorem Stand.perform {built locations : List Location} {session : Session}
    (h : Stand files built locations session) {position : Nat} {location : Location}
    (hlocation : locations[position]? = some location) (call : Call) :
    Stand files built (locations.set position (location.perform files call session).2.1)
      (location.perform files call session).2.2 := by
  obtain ⟨origin, horigin, hsame, hsettled⟩ := h.each hlocation
  have hleaves := perform_leaves hsettled h.faithful call
  refine ⟨hleaves.grows.faithful h.faithful, by rw [List.length_set, h.length], ?_⟩
  intro other later hlater
  rw [List.getElem?_set] at hlater
  split at hlater
  · rename_i heq
    split at hlater
    · obtain rfl := Option.some_inj.1 hlater
      exact ⟨origin, heq ▸ horigin, hleaves.same.trans hsame, hleaves.settled⟩
    · cases hlater
  · obtain ⟨origin', horigin', hsame', hsettled'⟩ := h.each hlater
    exact ⟨origin', horigin', hsame', hsettled'.of_grows hleaves.grows⟩

end Location

end MultiRelease
