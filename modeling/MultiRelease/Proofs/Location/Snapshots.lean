import MultiRelease.Proofs.Location.History

/-!
# Packages as they were first seen

Files come and go while a build runs.  A folder of classes or a source root looks at a package once,
be it to list the package or to look up a type in it, and from then on it keeps to what it saw, also
if that was nothing.  Only the class file of a type is read anew by every lookup.

A run (`Location.Scene.play`) is any succession of changes to the files and of calls to one
location, in whatever sessions.  `Location.firstSeen` picks out the files as they were when the
location first looked at a package, and `Location.shows_as_first_seen` says what the location lists
and finds in terms of these: names as they were then, and class files as they are now
(`Location.AnswersFrom`).

* A call does nothing to a folder but look at a package, or nothing at all
  (`Location.perform_location`).  Which package that is can be told from the call alone
  (`Location.Call.looksAt?`): a lookup that does not concern the location ends before it looks.
* A look adds what it sees of a package that was not looked at before, and changes nothing else
  (`Location.remembered?_list`, `Location.forgetful_list`).
* So a location remembers after a run what it remembered before, and of the other packages what
  there was at the first look.  This is the invariant `Location.PlayedFrom`, by induction on the
  events (`Location.playedFrom_play`).

What a location is, apart from its memory, stays the same (`Location.forgetful`), and what it sees
and answers depends on this part only.  The lemmas about `Location.forgetful` say so for each
question; they are what allows the induction to speak of the location as it was at the start.
-/

set_option autoImplicit false

namespace MultiRelease

namespace Sightings

variable {α : Type}

/-- What is remembered of a package, if it was looked at. -/
def seen? (sightings : Sightings α) (package : String) : Option (Option α) :=
  (sightings.seen.find? (·.1 = package)).map (·.2)

/-- A look shows what is remembered, and otherwise what there is. -/
theorem look_fst (sightings : Sightings α) (package : String) (probe : String → Option α) :
    (sightings.look package probe).1 = (sightings.seen? package).getD (probe package) := by
  rw [look, seen?]
  cases sightings.seen.find? (·.1 = package) <;> rfl

/-- A look adds what it sees of a package that was not looked at before. -/
theorem seen?_look (sightings : Sightings α) (package other : String)
    (probe : String → Option α) :
    (sightings.look package probe).2.seen? other
      = (sightings.seen? other).or (if package = other then some (probe package) else none) := by
  rw [look]
  cases hseen : sightings.seen.find? (·.1 = package) with
  | some found =>
    by_cases hother : package = other
    · subst hother
      simp [seen?, hseen]
    · simp [hother]
  | none =>
    simp only [seen?, List.find?_append, List.find?_singleton, Option.map_or]
    by_cases hother : package = other <;> simp [hother]

end Sightings

variable {files : Files}

namespace Location

/-! ## What a location shows -/

/-- Folders of classes and source roots. -/
inductive IsFolder : Location → Prop
  | classFolder (folder : ClassFolder) : IsFolder (.classFolder folder)
  | sourceRoot (root : SourceRoot) : IsFolder (.sourceRoot root)

/-- What a location sees of a package if it looks now.  What a folder of classes holds does not
come from sources. -/
def probe (files : Files) (package : String) : Location → Option PackageListing
  | classFolder folder => (folder.probe files package).map (⟨·, false⟩)
  | sourceRoot root => root.probe files package
  | _ => none

/-- What a location remembers of a package, if it looked at it. -/
def remembered? (package : String) : Location → Option (Option PackageListing)
  | classFolder folder => (folder.sightings.seen? package).map (·.map (⟨·, false⟩))
  | sourceRoot root => root.sightings.seen? package
  | _ => none

/-- The location without its memory. -/
def forgetful : Location → Location
  | classFolder folder => classFolder { folder with sightings := {} }
  | sourceRoot root => sourceRoot { root with sightings := {} }
  | location => location

/-- What a location shows of a package: what it remembers, or else what it sees now. -/
def packageShown (files : Files) (package : String) (location : Location) : Option PackageListing :=
  (location.remembered? package).getD (location.probe files package)

/-- What a location answers to a lookup if the listing is what it shows of the package.  The class
file is read when the lookup is made. -/
inductive AnswersFrom (files : Files) (query : Query) (listing : PackageListing) :
    Location → Answer → Prop
  | classFile {folder : ClassFolder} {content : Content} {type : BinaryType}
    (hlisted : query.binaryFileName ∈ listing.entries)
    (hread : files.read? (folder.root.child query.qualifiedBinaryFileName) = some content)
    (hparse : parseBinaryType content.bytes = .ok type) :
    AnswersFrom files query listing (.classFolder folder)
      (folder.restrict query { kind := .binary type, moduleName := folder.moduleName,
                               release := folder.release })
  | output {root : SourceRoot} {content : Content} {type : BinaryType}
    (hbinary : listing.fromSource = false) (hlisted : query.binaryFileName ∈ listing.entries)
    (hread : files.read? (root.binaryFolder.child query.qualifiedBinaryFileName) = some content)
    (hparse : parseBinaryType content.bytes = .ok type) :
    AnswersFrom files query listing (.sourceRoot root)
      { kind := .binary type, moduleName := root.moduleName, release := root.release }
  | source {root : SourceRoot} (hsource : listing.fromSource = true)
    (hallowed : query.binaryOnly = false) (hlisted : query.sourceFileName ∈ listing.entries) :
    AnswersFrom files query listing (.sourceRoot root) (root.sourceAnswer query)

variable {location other : Location}

theorem list_fst (hfolder : location.IsFolder) (package : String) :
    (location.list files package).1 = (location.packageShown files package).map (·.entries) := by
  rcases hfolder with folder | root
  · show (folder.sightings.look package (folder.probe files)).1 = _
    rw [Sightings.look_fst, packageShown, remembered?, probe]
    cases folder.sightings.seen? package <;> simp [Function.comp_def]
  · exact congrArg (Option.map (·.entries)) (root.sightings.look_fst package _)

theorem answersFrom_classFolder_iff {folder : ClassFolder} {query : Query}
    {listing : PackageListing} {answer : Answer} :
    (classFolder folder).AnswersFrom files query listing answer ↔
      query.binaryFileName ∈ listing.entries ∧
        ((readAnswer files {} (folder.root.child query.qualifiedBinaryFileName) query
          folder.moduleName folder.release).1.map (folder.restrict query)) = some answer := by
  rw [Option.map_eq_some_iff]
  constructor
  · rintro ⟨hlisted, hread, hparse⟩
    exact ⟨hlisted, _, readAnswer_eq_some_iff.2 ⟨_, _, hread, hparse, rfl⟩, rfl⟩
  · rintro ⟨hlisted, found, hfound, rfl⟩
    obtain ⟨content, type, hread, hparse, rfl⟩ := readAnswer_eq_some_iff.1 hfound
    exact .classFile hlisted hread hparse

theorem answersFrom_sourceRoot_iff {root : SourceRoot} {query : Query}
    {listing : PackageListing} {answer : Answer} :
    (sourceRoot root).AnswersFrom files query listing answer ↔
      root.answerFrom files query listing = some answer := by
  rw [SourceRoot.answerFrom_eq_some_iff]
  constructor
  · intro h
    cases h with
    | output hbinary hlisted hread hparse =>
      exact .inr ⟨hbinary, hlisted, _, _, hread, hparse, rfl⟩
    | source hsource hallowed hlisted => exact .inl ⟨hsource, hallowed, hlisted, rfl⟩
  · rintro (⟨hsource, hallowed, hlisted, rfl⟩ | ⟨hbinary, hlisted, _, _, hread, hparse, rfl⟩)
    · exact .source hsource hallowed hlisted
    · exact .output hbinary hlisted hread hparse

theorem packageListing_fst (root : SourceRoot) (package : String) :
    (root.packageListing files package).1 = (sourceRoot root).packageShown files package :=
  root.sightings.look_fst package _

/-- **A lookup answers from what the location shows of the package.** -/
theorem find_eq_some_iff (hfolder : location.IsFolder) {session : Session} {query : Query}
    {constraint : ModuleConstraint} {release : Release} {answer : Answer} :
    (location.find files query constraint release session).1 = some answer ↔
      (location.release.appliesTo release && constraint.accepts location.moduleName) = true ∧
        ∃ listing, location.packageShown files query.packageName = some listing ∧
          location.AnswersFrom files query listing answer := by
  have hlist : (location.list files query.packageName).1 = _ := list_fst hfolder _
  rw [Bool.and_eq_true, and_assoc]
  rcases hfolder with folder | root
  · show (folder.find files session query constraint release).1 = _ ↔ _
    rw [ClassFolder.find_fst, ClassFolder.ownAnswer, Option.ite_none_right_eq_some,
      Option.ite_none_right_eq_some, Bool.and_eq_true, and_assoc,
      show (folder.list files query.packageName).1 = _ from hlist]
    simp only [answersFrom_classFolder_iff]
    refine and_congr_right fun _ => and_congr_right fun _ => ?_
    cases packageShown files query.packageName (classFolder folder) <;> simp
  · show (root.find files session query constraint release).1 = _ ↔ _
    rw [SourceRoot.find_fst, SourceRoot.ownAnswer, Option.ite_none_right_eq_some,
      Option.ite_none_right_eq_some, Option.bind_eq_some_iff]
    simp only [answersFrom_sourceRoot_iff, ← packageListing_fst]
    rfl

/-! ## One call -/

/-- The package that a location looks at when it is asked.  A lookup that does not concern the
location ends before that. -/
def Call.looksAt? (location : Location) : Call → Option String
  | .list package => some package
  | .find query constraint release =>
    if location.release.appliesTo release && constraint.accepts location.moduleName then
      some query.packageName
    else none
  | _ => none

/-- A lookup that concerns a folder looks at the package of its type, and any other leaves the
folder as it is. -/
theorem find_looks (hfolder : location.IsFolder) (session : Session) (query : Query)
    (constraint : ModuleConstraint) (release : Release) :
    (location.find files query constraint release session).2.1
      = if location.release.appliesTo release && constraint.accepts location.moduleName then
          (location.list files query.packageName).2
        else location := by
  rcases hfolder with folder | root
  · exact (congrArg classFolder (folder.find_folder files session query constraint release)).trans
      (apply_ite classFolder _ _ _)
  · exact (congrArg sourceRoot (root.find_root files session query constraint release)).trans
      (apply_ite sourceRoot _ _ _)

/-- **A call does nothing to a folder but look at a package.** -/
theorem perform_location (hfolder : location.IsFolder) (call : Call) (session : Session) :
    (location.perform files call session).2.1
      = (call.looksAt? location).elim location fun package => (location.list files package).2 := by
  cases call with
  | find query constraint release =>
    refine (find_looks hfolder session query constraint release).trans ?_
    rw [Call.looksAt?]
    split <;> rfl
  | list package => rfl
  | moduleNames | hasModule | modulesPlace => rcases hfolder with folder | root <;> rfl

theorem IsFolder.list (hfolder : location.IsFolder) (package : String) :
    (location.list files package).2.IsFolder := by
  rcases hfolder with folder | root
  · exact .classFolder _
  · exact .sourceRoot _

/-- A look at a package changes nothing but the memory. -/
theorem forgetful_list (location : Location) (package : String) :
    (location.list files package).2.forgetful = location.forgetful := by
  cases location <;> rfl

/-- What a location remembers after a look at a package. -/
theorem remembered?_list (hfolder : location.IsFolder) (package other : String) :
    (location.list files package).2.remembered? other
      = (location.remembered? other).or
          (if package = other then some (location.probe files package) else none) := by
  rcases hfolder with folder | root
  · have hseen := folder.sightings.seen?_look package other (folder.probe files)
    show ((folder.sightings.look package (folder.probe files)).2.seen? other).map _ = _
    rw [hseen, Option.map_or, apply_ite (Option.map _)]
    rfl
  · exact root.sightings.seen?_look package other _

/-! ## Runs -/

/-- What happens while a build runs: the files change, or the location is asked, in whatever
session. -/
inductive Event where
  | change (edit : Files → Files)
  | ask (call : Call) (session : Session)

/-- A location and the files around it. -/
structure Scene where
  files : Files
  location : Location

/-- The scene after an event. -/
def Scene.after (scene : Scene) : Event → Scene
  | .change edit => { scene with files := edit scene.files }
  | .ask call session =>
    { scene with location := (scene.location.perform scene.files call session).2.1 }

/-- The scene after a run of events. -/
def Scene.play (scene : Scene) (events : List Event) : Scene := events.foldl Scene.after scene

/-- The files as they were when the location first looked at a package in a run.  If it never did,
these are the files after the run. -/
def firstSeen (location : Location) (package : String) (files : Files) : List Event → Files
  | [] => files
  | .change edit :: events => location.firstSeen package (edit files) events
  | .ask call _ :: events =>
    if call.looksAt? location = some package then files
    else location.firstSeen package files events

/-! What a location is does not depend on what it remembers. -/

@[simp]
theorem release_forgetful (location : Location) :
    location.forgetful.release = location.release := by
  cases location <;> rfl

@[simp]
theorem moduleName_forgetful (location : Location) :
    location.forgetful.moduleName = location.moduleName := by
  cases location <;> rfl

@[simp]
theorem probe_forgetful (location : Location) (package : String) :
    location.forgetful.probe files package = location.probe files package := by
  cases location <;> rfl

@[simp]
theorem looksAt?_forgetful (location : Location) (call : Call) :
    call.looksAt? location.forgetful = call.looksAt? location := by
  cases call <;> simp [Call.looksAt?]

@[simp]
theorem firstSeen_forgetful (location : Location) (package : String) (files : Files)
    (events : List Event) :
    location.forgetful.firstSeen package files events
      = location.firstSeen package files events := by
  induction events generalizing files with
  | nil => rfl
  | cons event events ih => cases event <;> simp [firstSeen, ih]

@[simp]
theorem answersFrom_forgetful {query : Query} {listing : PackageListing} {answer : Answer} :
    location.forgetful.AnswersFrom files query listing answer ↔
      location.AnswersFrom files query listing answer := by
  cases location with
  | classFolder folder =>
    rw [forgetful, answersFrom_classFolder_iff, answersFrom_classFolder_iff]
    rfl
  | sourceRoot root =>
    rw [forgetful, answersFrom_sourceRoot_iff, answersFrom_sourceRoot_iff]
    rfl
  | platform library => rfl
  | releasePlatform entry => rfl

theorem probe_congr (h : location.forgetful = other.forgetful) (files : Files)
    (package : String) : location.probe files package = other.probe files package := by
  rw [← probe_forgetful, h, probe_forgetful]

theorem firstSeen_congr (h : location.forgetful = other.forgetful) (package : String)
    (files : Files) (events : List Event) :
    location.firstSeen package files events = other.firstSeen package files events := by
  rw [← firstSeen_forgetful, h, firstSeen_forgetful]

theorem answersFrom_congr (h : location.forgetful = other.forgetful) {query : Query}
    {listing : PackageListing} {answer : Answer} :
    location.AnswersFrom files query listing answer ↔
      other.AnswersFrom files query listing answer := by
  rw [← answersFrom_forgetful, h, answersFrom_forgetful]

/-- What a call leaves of what is remembered. -/
theorem remembered?_perform (hfolder : location.IsFolder) (call : Call) (session : Session)
    (package : String) :
    (location.perform files call session).2.1.remembered? package
      = (location.remembered? package).or
          (if call.looksAt? location = some package then some (location.probe files package)
            else none) := by
  rw [perform_location hfolder]
  cases call.looksAt? location with
  | none => simp
  | some looked =>
    refine (remembered?_list hfolder looked package).trans ?_
    by_cases hlooked : looked = package <;> simp [hlooked]

theorem forgetful_perform (hfolder : location.IsFolder) (call : Call) (session : Session) :
    (location.perform files call session).2.1.forgetful = location.forgetful := by
  rw [perform_location hfolder]
  cases call.looksAt? location with
  | none => rfl
  | some package => exact forgetful_list location package

theorem IsFolder.perform (hfolder : location.IsFolder) (call : Call) (session : Session) :
    (location.perform files call session).2.1.IsFolder := by
  rw [perform_location hfolder]
  cases call.looksAt? location with
  | none => exact hfolder
  | some package => exact hfolder.list package

/-- What holds of a location after a run.  It shows what it remembered before the run, and of the
other packages what there was at the first look. -/
structure PlayedFrom (scene : Scene) (events : List Event) (later : Scene) : Prop where
  isFolder : later.location.IsFolder
  forgetful : later.location.forgetful = scene.location.forgetful
  packageShown (package : String) : later.location.packageShown later.files package
    = (scene.location.remembered? package).getD
        (scene.location.probe (scene.location.firstSeen package scene.files events) package)

/-- By induction on the events: the first one is a change, which the location does not notice, or a
call, after which it remembers one package more. -/
theorem playedFrom_play (events : List Event) (scene : Scene)
    (hfolder : scene.location.IsFolder) : PlayedFrom scene events (scene.play events) := by
  -- the first event decides what is remembered when the others happen
  induction events generalizing scene with
  | nil => exact ⟨hfolder, rfl, fun _ => rfl⟩
  | cons event events ih =>
    cases event with
    | change edit =>
      obtain ⟨hlater, hsame, hshown⟩ := ih (scene.after (.change edit)) hfolder
      exact ⟨hlater, hsame, hshown⟩
    | ask call session =>
      have hnext : (scene.location.perform scene.files call session).2.1.forgetful
          = scene.location.forgetful := forgetful_perform hfolder call session
      have hprobe := probe_congr hnext
      have hfirst := firstSeen_congr hnext
      obtain ⟨hlater, hsame, hshown⟩ :=
        ih (scene.after (.ask call session)) (hfolder.perform call session)
      refine ⟨hlater, hsame.trans hnext, fun package => (hshown package).trans ?_⟩
      dsimp only [Scene.after]
      rw [remembered?_perform hfolder, hprobe, hfirst, firstSeen]
      cases scene.location.remembered? package <;> split <;> rfl

/-- **Listings are snapshots.**  Whatever happened to the files, a folder lists of a package what
there was at the first look, and it finds the types that it then saw: compiled ones if their class
files can be read now, and sources by name. -/
theorem shows_as_first_seen (hfolder : location.IsFolder)
    (hfresh : ∀ package, location.remembered? package = none) (files : Files)
    (events : List Event) {later : Scene} (hplay : Scene.play ⟨files, location⟩ events = later) :
    (∀ package, (later.location.list later.files package).1
      = (location.probe (location.firstSeen package files events) package).map (·.entries)) ∧
    ∀ session query constraint release answer,
      (later.location.find later.files query constraint release session).1 = some answer ↔
        (location.release.appliesTo release && constraint.accepts location.moduleName) = true ∧
          ∃ listing, location.probe (location.firstSeen query.packageName files events)
              query.packageName = some listing ∧
            location.AnswersFrom later.files query listing answer := by
  obtain ⟨hlater, hsame, hshown⟩ := hplay ▸ playedFrom_play events _ hfolder
  simp only [hfresh, Option.getD_none] at hshown
  refine ⟨fun package => ?_, fun session query constraint release answer => ?_⟩
  · rw [list_fst hlater, hshown]
  · rw [find_eq_some_iff hlater, hshown, ← release_forgetful, ← moduleName_forgetful, hsame,
      release_forgetful, moduleName_forgetful]
    simp only [answersFrom_congr hsame]

/-- The class file is written after the first look, which finds nothing. -/
def lateClassFile : List Event :=
  [.ask (.find { typeName := "T", packageName := "" } .any .unversioned) {},
    .change (·.write ⟨"out/T.class"⟩ (.file (.ofBytes []) false)), .ask (.list "") {}]

/-- A root in a place where there are no files yet. -/
def emptyScene : Scene := ⟨{ entries := [] }, .sourceRoot (.ofFolders ⟨"src"⟩ ⟨"out"⟩ none)⟩

theorem shows_as_first_seen_sample :
    emptyScene.location.IsFolder ∧ (∀ package, emptyScene.location.remembered? package = none) ∧
      ((emptyScene.play lateClassFile).location.list (emptyScene.play lateClassFile).files "").1
        = none := by
  have hfolder : emptyScene.location.IsFolder := .sourceRoot _
  have hfresh : ∀ package, emptyScene.location.remembered? package = none := fun _ => rfl
  have hfirst : emptyScene.location.firstSeen "" emptyScene.files lateClassFile
      = emptyScene.files := if_pos (by decide)
  have hwf : emptyScene.files.WellFormed := Files.wellFormed_of_forall (by decide) (by decide)
  have hlf : emptyScene.files.LinkFree := Files.linkFree_of_forall (by decide)
  have hsource : emptyScene.files.list? ((⟨"src"⟩ : Path).child "") = none :=
    Files.list?_child_empty hwf hlf (by decide)
  have hbinary : emptyScene.files.list? ((⟨"out"⟩ : Path).child "") = none :=
    Files.list?_child_empty hwf hlf (by decide)
  have hprobe : emptyScene.location.probe emptyScene.files "" = none := by
    show SourceRoot.probe (.ofFolders ⟨"src"⟩ ⟨"out"⟩ none) emptyScene.files "" = none
    simp [SourceRoot.probe, SourceRoot.ofFolders, Release.overlay_none,
      SourceRoot.binaryFolderOf, Files.members?, hsource, hbinary]
  refine ⟨hfolder, hfresh, ?_⟩
  rw [(shows_as_first_seen hfolder hfresh emptyScene.files lateClassFile rfl).1 "", hfirst, hprobe]
  rfl

end Location

end MultiRelease
