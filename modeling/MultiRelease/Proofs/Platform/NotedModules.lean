import MultiRelease.Proofs.Platform.Shared

/-!
# What a session notes of modules

A session keeps the modules of each place of modules, and whoever asks first decides what is kept.
This does not matter, since the place determines its modules (`ModulesAt.unique`): those of the
runtime image are noted under the path of the platform library, and those that the symbol archive
records for a release under the same path with the folder of the release behind a bar.  The paths
themselves must have no bar for this, or else a path with a folder behind it could be the path of
another library.

* A session is *faithful* (`Session.Faithful`) if it gives the archives that it would open now, and
  if what it notes under a place are the modules of the place.
* A session *knows* a place (`Session.Knows`) if it has noted the modules of the place, or if there
  are none.  Faithful sessions that know a place list the same modules for it
  (`Session.Knows.namesAt_congr`).
* Sessions *grow* (`Session.Grows`): a later state is faithful if an earlier one is, and it knows
  what was known.  This is reflexive and transitive, so that it can be shown step by step.
* Looking for the modules of a platform library or of a release lets a session grow, and it knows
  their place from then on (`PlatformLibrary.loadModules_grows`,
  `ReleaseClasses.loadModules_grows`).  The classes of a release are set up as they would be in a
  new session (`ReleaseClasses.setUp_ofRelease`).

A library changes as well when it is used, since its image opens archives.  What is said of it here
is therefore said of all libraries that show the same (`PlatformLibrary.SameShown`), and where the
classes of a release come from is the same up to where archives were opened (`ReleaseSource.Alike`).
-/

set_option autoImplicit false

namespace MultiRelease

variable {files : Files}

/-! ## The modules of a runtime image -/

namespace RuntimeImage

theorem moduleInfosOf_congr :
    ∀ (modules : List String) {a b : RuntimeImage}, a.shown files = b.shown files →
      (moduleInfosOf files a modules).1 = (moduleInfosOf files b modules).1
  | [], _, _, _ => rfl
  | module :: modules, a, b, h => by
    have hread := readClass_congr h module (moduleInfoName ++ ".class")
    have ih := moduleInfosOf_congr modules
      (((shown_readClass files a module (moduleInfoName ++ ".class")).trans h).trans
        (shown_readClass files b module (moduleInfoName ++ ".class")).symm)
    rw [moduleInfosOf, moduleInfosOf]
    cases ha : readClass files a module (moduleInfoName ++ ".class") with
    | mk found image =>
      cases hb : readClass files b module (moduleInfoName ++ ".class") with
      | mk found' image' =>
        rw [ha, hb] at hread ih
        obtain rfl : found = found' := hread
        cases found with
        | error error => rfl
        | ok found =>
          dsimp only at ih ⊢
          cases hinfos : moduleInfosOf files image modules with
          | mk infos used =>
            cases hinfos' : moduleInfosOf files image' modules with
            | mk infos' used' =>
              rw [hinfos, hinfos'] at ih
              obtain rfl : infos = infos' := ih
              cases infos <;> rfl

/-- Images that show the same declare the same modules. -/
theorem moduleInfos_congr {a b : RuntimeImage} (h : a.shown files = b.shown files) :
    (moduleInfos files a).1 = (moduleInfos files b).1 := by
  have hmodules : a.modules = b.modules := (Prod.mk.inj h).1
  rw [moduleInfos, moduleInfos, hmodules]
  exact moduleInfosOf_congr b.modules h

/-- The modules that an image describes; none if one of them cannot be read. -/
def describedModules (files : Files) (image : RuntimeImage) : ModuleMap :=
  match (image.moduleInfos files).1 with
  | .ok infos => PlatformLibrary.decodedModules infos
  | .error _ => {}

/-- The modules that the image of the JDK with the given home describes. -/
def modulesOfHome (files : Files) (home : Path) : ModuleMap :=
  match openHome files home with
  | .ok image => image.describedModules files
  | .error _ => {}

end RuntimeImage

/-! ## Places of modules -/

/-- The path is that of a platform library in the JDK with the given home. -/
structure IsLibraryPath (path home : Path) : Prop where
  plain : '|' ∉ path.text.toList
  home : path.parent?.bind Path.parent? = some home

/-- The modules that belong to a place of modules. -/
inductive ModulesAt (files : Files) : String → ModuleMap → Prop
  | image {path home : Path} (hpath : IsLibraryPath path home) :
    ModulesAt files path.text (RuntimeImage.modulesOfHome files home)
  | recorded {path home : Path} (hpath : IsLibraryPath path home) {archive : SymbolArchive}
    (hopen : SymbolArchive.openHome files home = .ok archive) (code : Char) :
    ModulesAt files (path.text ++ "|" ++ archive.moduleFolder code)
      (ReleaseClasses.modulesOf files archive code)

theorem eq_of_append_bar {bar : Char} :
    ∀ {front front' back back' : List Char}, bar ∉ front → bar ∉ front' →
      front ++ bar :: back = front' ++ bar :: back' → front = front' ∧ back = back'
  | [], [], _, _, _, _, h => ⟨rfl, (List.cons.inj h).2⟩
  | [], c :: front', _, _, _, hfront', h =>
    absurd (List.mem_cons.2 (.inl (List.cons.inj h).1)) hfront'
  | c :: front, [], _, _, hfront, _, h =>
    absurd (List.mem_cons.2 (.inl (List.cons.inj h).1.symm)) hfront
  | c :: front, d :: front', _, _, hfront, hfront', h => by
    obtain ⟨rfl, hrest⟩ := List.cons.inj h
    obtain ⟨rfl, rfl⟩ := eq_of_append_bar (mt (List.mem_cons_of_mem c) hfront)
      (mt (List.mem_cons_of_mem c) hfront') hrest
    exact ⟨rfl, rfl⟩

theorem SymbolArchive.moduleFolder_inj {archive : SymbolArchive} {code code' : Char}
    (h : archive.moduleFolder code = archive.moduleFolder code') : code = code' := by
  rw [moduleFolder, moduleFolder] at h
  have hlist := congrArg String.toList h
  split at hlist <;> simpa [String.toList_append] using hlist

/-- A library path belongs to one home. -/
theorem IsLibraryPath.home_unique {path home home' : Path} (h : IsLibraryPath path home)
    (h' : IsLibraryPath path home') : home = home' :=
  Option.some_inj.1 (h.home.symm.trans h'.home)

/-- A path with a bar and a folder behind it determines both, and it is no path of a library. -/
theorem IsLibraryPath.eq_of_append {path path' home home' : Path} (h : IsLibraryPath path home)
    (h' : IsLibraryPath path' home') {folder folder' : String}
    (heq : path.text ++ "|" ++ folder = path'.text ++ "|" ++ folder') :
    path = path' ∧ folder = folder' := by
  have hlists := congrArg String.toList heq
  simp only [String.toList_append, List.append_assoc] at hlists
  obtain ⟨hpath, hfolder⟩ := eq_of_append_bar h.plain h'.plain hlists
  exact ⟨congrArg Path.mk (String.toList_inj.1 hpath), String.toList_inj.1 hfolder⟩

/-- No library path has a bar in it. -/
theorem IsLibraryPath.ne_append {path home : Path} (h : IsLibraryPath path home)
    (text folder : String) : path.text ≠ text ++ "|" ++ folder := by
  intro heq
  have hplain := h.plain
  rw [heq] at hplain
  simp at hplain

/-- **A place determines its modules.** -/
theorem ModulesAt.unique {place place' : String} {a b : ModuleMap} (ha : ModulesAt files place a)
    (hb : ModulesAt files place' b) (hplace : place = place') : a = b := by
  cases ha with
  | @image path _ hpath =>
    cases hb with
    | @image path' _ hpath' =>
      obtain rfl : path = path' := congrArg Path.mk hplace
      rw [hpath.home_unique hpath']
    | recorded hpath' hopen code => exact absurd hplace (hpath.ne_append _ _)
  | recorded hpath hopen code =>
    cases hb with
    | image hpath' => exact absurd hplace.symm (hpath'.ne_append _ _)
    | recorded hpath' hopen' code' =>
      obtain ⟨rfl, hfolder⟩ := hpath.eq_of_append hpath' hplace
      obtain rfl := hpath.home_unique hpath'
      obtain rfl := Except.ok.inj (hopen.symm.trans hopen')
      rw [SymbolArchive.moduleFolder_inj hfolder]

/-! ## Faithful sessions -/

namespace Session

/-- A session gives the archives that it would open now, and it notes what the places determine. -/
structure Faithful (files : Files) (session : Session) : Prop where
  archives : session.SameArchives files {}
  modules : ∀ place modules, session.modules.get? place = some modules →
    ModulesAt files place modules

/-- Nothing that is left to find out about a place is missing. -/
def Knows (files : Files) (session : Session) (place : String) : Prop :=
  ∃ modules, ModulesAt files place modules ∧
    (session.modules.get? place = some modules ∨ modules.isEmpty = true)

/-- A later state of a session: faithful if it was, and it keeps to what is noted. -/
structure Grows (files : Files) (session later : Session) : Prop where
  faithful : session.Faithful files → later.Faithful files
  keeps : ∀ place modules, session.modules.get? place = some modules →
    later.modules.get? place = some modules

theorem Grows.refl (session : Session) : session.Grows files session := ⟨id, fun _ _ => id⟩

theorem Grows.trans {a b c : Session} (hab : a.Grows files b) (hbc : b.Grows files c) :
    a.Grows files c :=
  ⟨hbc.faithful ∘ hab.faithful, fun place modules h =>
    hbc.keeps place modules (hab.keeps place modules h)⟩

theorem Grows.knows {session later : Session} (h : session.Grows files later) {place : String}
    (hknows : session.Knows files place) : later.Knows files place := by
  obtain ⟨modules, hat, hnoted⟩ := hknows
  exact ⟨modules, hat, hnoted.imp_left (h.keeps place modules)⟩

theorem grows_of_modules {session later : Session} (hmodules : later.modules = session.modules)
    (harchives : later.SameArchives files session) : session.Grows files later where
  faithful h := ⟨harchives.trans h.archives, hmodules ▸ h.modules⟩
  keeps _ _ h := hmodules ▸ h

theorem SameCaches.grows {session later : Session} (h : later.SameCaches session) :
    session.Grows files later :=
  grows_of_modules h.modules (sameArchives_of_archives h.archives)

/-- Noting the modules of a place that is not known. -/
theorem grows_noteModules {session : Session} {place : String} {modules : ModuleMap}
    (habsent : session.modules.contains place = false) (hat : ModulesAt files place modules) :
    session.Grows files (session.noteModules place modules) ∧
      (session.noteModules place modules).modules.get? place = some modules := by
  have hnoted : (session.noteModules place modules).modules.get? place = some modules :=
    NameMap.get?_insertIfAbsent_of_absent habsent modules
  have hother : ∀ other, other ≠ place →
      (session.noteModules place modules).modules.get? other = session.modules.get? other :=
    fun other hne => NameMap.get?_alter_of_ne hne session.modules.places _
  have harchives : (session.noteModules place modules).SameArchives files session :=
    sameArchives_of_archives rfl
  refine ⟨⟨fun h => ⟨harchives.trans h.archives, ?_⟩, ?_⟩, hnoted⟩
  · intro other modules' hget
    by_cases hne : other = place
    · subst hne
      obtain rfl : modules = modules' := Option.some_inj.1 (hnoted.symm.trans hget)
      exact hat
    · exact h.modules other modules' ((hother other hne).symm.trans hget)
  · intro other modules' hget
    have hne : other ≠ place := by
      rintro rfl
      have hcontains : session.modules.contains other = (session.modules.get? other).isSome :=
        NameMap.contains_eq_isSome _ other
      rw [habsent, hget] at hcontains
      cases hcontains
    rw [hother other hne, hget]

/-- What a faithful session notes of a place is all that there is to know. -/
theorem Faithful.knows_of_contains {session : Session} (h : session.Faithful files)
    {place : String} (hcontains : session.modules.contains place = true) :
    session.Knows files place := by
  rw [ModuleCache.contains, NameMap.contains_eq_isSome] at hcontains
  obtain ⟨modules, hget⟩ := Option.isSome_iff_exists.1 hcontains
  exact ⟨modules, h.modules _ _ hget, .inl hget⟩

/-- Noting the modules of a place if there are any. -/
theorem grows_noteModules_unless {session : Session} {place : String} {modules : ModuleMap}
    (habsent : session.modules.contains place = false) (hat : ModulesAt files place modules)
    {later : Session}
    (hlater : later = if modules.isEmpty then session else session.noteModules place modules) :
    session.Grows files later ∧ later.Knows files place := by
  split at hlater
  · rename_i hempty
    rw [hlater]
    exact ⟨.refl session, modules, hat, .inr hempty⟩
  · obtain ⟨hgrows, hnoted⟩ := grows_noteModules habsent hat
    rw [hlater]
    exact ⟨hgrows, modules, hat, .inl hnoted⟩

end Session

/-! ## Platform libraries -/

namespace PlatformLibrary

/-- A library as it was opened, or as it is after some use. -/
structure Opened (files : Files) (library : PlatformLibrary) : Prop where
  path : IsLibraryPath library.archivePath library.home
  image : library.image.map (RuntimeImage.shown files)
    = (RuntimeImage.openHome files library.home).toOption.map (RuntimeImage.shown files)

theorem opened_of_openArchive {path : Path} {rules : Option AccessRules}
    {annotationPath : Option Path} {library : PlatformLibrary} (hplain : '|' ∉ path.text.toList)
    (h : openArchive files path rules annotationPath = .ok library) : library.Opened files := by
  rw [openArchive] at h
  split at h
  · split at h
    · cases h
    · rename_i home hhome
      obtain rfl := Except.ok.inj h
      exact ⟨⟨hplain, hhome⟩, rfl⟩
  · cases h

/-- A library that was used is still one that was opened. -/
theorem Opened.congr {a b : PlatformLibrary} (h : a.Opened files) (hsame : b.SameShown files a) :
    b.Opened files where
  path := by
    rw [hsame.archivePath, hsame.home]
    exact h.path
  image := by
    rw [hsame.image, hsame.home]
    exact h.image

/-- What the image of a library describes are the modules of its place. -/
theorem Opened.modulesAt {library : PlatformLibrary} (h : library.Opened files) :
    ModulesAt files library.modulesPlace
      (library.image.elim {} (RuntimeImage.describedModules files)) := by
  have himage := h.image
  have hmodules : library.image.elim {} (RuntimeImage.describedModules files)
      = RuntimeImage.modulesOfHome files library.home := by
    rw [RuntimeImage.modulesOfHome]
    cases hopen : RuntimeImage.openHome files library.home with
    | error error =>
      rw [hopen] at himage
      rw [Option.map_eq_none_iff.1 himage]
      rfl
    | ok opened =>
      rw [hopen] at himage
      obtain ⟨image, hlibrary, hshown⟩ := Option.map_eq_some_iff.1 himage
      rw [hlibrary, Option.elim_some, RuntimeImage.describedModules,
        RuntimeImage.moduleInfos_congr hshown]
      rfl
  rw [hmodules]
  exact .image h.path

/-- A session that has looked for the modules of a library knows them. -/
theorem loadModules_grows {library : PlatformLibrary} (h : library.Opened files)
    {session : Session} (hsession : session.Faithful files) :
    session.Grows files (library.loadModules files session).2 ∧
      (library.loadModules files session).2.Knows files library.modulesPlace := by
  have hat := h.modulesAt
  rw [loadModules]
  split
  · rename_i hcontains
    exact ⟨.refl session, hsession.knows_of_contains hcontains⟩
  · rename_i habsent
    rw [Bool.not_eq_true] at habsent
    cases himage : library.image with
    | none =>
      rw [himage] at hat
      exact ⟨.refl session, _, hat, .inr rfl⟩
    | some image =>
      rw [himage, Option.elim_some, RuntimeImage.describedModules] at hat
      dsimp only
      cases hinfos : image.moduleInfos files with
      | mk infos used =>
        rw [hinfos] at hat
        cases infos with
        | error error => exact ⟨.refl session, _, hat, .inr rfl⟩
        | ok infos => exact Session.grows_noteModules_unless habsent hat rfl

end PlatformLibrary

/-! ## Platform classes of a release -/

theorem ReleaseSource.Alike.symm {a b : ReleaseSource} (h : a.Alike b) : b.Alike a := by
  cases h with
  | unavailable error error' => exact .unavailable error' error
  | runtimeImage => exact .runtimeImage
  | symbols h code place => exact .symbols h.symm code place

theorem ReleaseSource.Alike.trans {a b c : ReleaseSource} (hab : a.Alike b) (hbc : b.Alike c) :
    a.Alike c := by
  cases hab with
  | unavailable error error' => cases hbc with | unavailable _ error'' => exact .unavailable _ _
  | runtimeImage => exact hbc
  | symbols h code place => cases hbc with | symbols h' => exact .symbols (h.trans h') code place

namespace ReleaseClasses

variable {library : PlatformLibrary} {session : Session}

theorem descriptorAt?_eq (files : Files) (archive : SymbolArchive) (path : String) :
    descriptorAt? files archive path = (archive.fileBytes files path).toOption.bind fun bytes =>
      (parseModuleInfo bytes).toOption := by
  rw [descriptorAt?]
  cases archive.fileBytes files path <;> rfl

/-- The modules of a release do not depend on where the archive was opened. -/
theorem modulesOf_congr {a b : SymbolArchive} (h : a.unplaced = b.unplaced) (code : Char) :
    modulesOf files a code = modulesOf files b code := by
  have hcontent : a.content = b.content :=
    SymbolArchive.congr_unplaced (f := (·.content)) (fun _ => rfl) h
  have hroots : moduleRoots a code = moduleRoots b code :=
    SymbolArchive.congr_unplaced (f := fun archive => moduleRoots archive code) (fun _ => rfl) h
  have hwith : a.modulesWith = b.modulesWith :=
    SymbolArchive.congr_unplaced (f := (·.modulesWith)) (fun _ => rfl) h
  have hdescriptor : descriptorAt? files a = descriptorAt? files b := by
    funext path
    rw [descriptorAt?_eq, descriptorAt?_eq, SymbolArchive.toOption_fileBytes,
      SymbolArchive.toOption_fileBytes, hcontent]
  have hroot : modulesInRoot files a = modulesInRoot files b := by
    funext root
    rw [modulesInRoot, modulesInRoot, hwith, hdescriptor]
  rw [modulesOf, modulesOf, hroots, hroot]

theorem modules_decideSource (files : Files) (library : PlatformLibrary) (session : Session)
    (release : UInt16) :
    (decideSource library files session release).2.modules = session.modules := by
  have hopened : (session.symbolArchive files library.home).2.modules = session.modules := by
    rw [Session.symbolArchive]
    split
    · rfl
    · cases SymbolArchive.openHome files library.home <;> rfl
  rw [decideSource]
  cases releaseCode release with
  | none => rfl
  | some code =>
    dsimp only
    cases hs : session.symbolArchive files library.home with
    | mk found after =>
      rw [hs] at hopened
      cases found <;> exact hopened

/-- A source in the archive names the place of the modules that the archive records. -/
theorem modulesAt_of_decideSource (hpath : IsLibraryPath library.archivePath library.home)
    {release : UInt16} {archive : SymbolArchive} {code : Char} {place : String}
    (h : (decideSource library files {} release).1 = .symbols archive code (some place)) :
    ModulesAt files place (modulesOf files archive code) := by
  rw [decideSource] at h
  cases hcode : releaseCode release with
  | none =>
    rw [hcode] at h
    cases h
  | some code' =>
    rw [hcode] at h
    cases hopen : SymbolArchive.openHome files library.home with
    | error error =>
      have hgiven : ({} : Session).symbolArchive files library.home = (.error error, {}) := by
        simp [Session.symbolArchive, hopen]
      rw [hgiven] at h
      cases h
    | ok opened =>
      have hgiven : ({} : Session).symbolArchive files library.home
          = (.ok opened, { archives := [(library.home, opened)] }) := by
        simp [Session.symbolArchive, hopen]
      rw [hgiven] at h
      dsimp only [sourceIn] at h
      split at h
      · split at h
        · cases h
        · obtain ⟨rfl, rfl, hplace⟩ := ReleaseSource.symbols.inj h
          split at hplace
          · rw [← Option.some_inj.1 hplace]
            exact .recorded hpath hopen code'
          · cases hplace
      · cases h

/-- The classes come from where the JDK of the library has them. -/
def Decided (files : Files) (library : PlatformLibrary) (classes : ReleaseClasses) : Prop :=
  classes.source.Alike (decideSource library files {} classes.release).1

theorem decideSource_congr {a b : PlatformLibrary} (h : a.SameShown files b) (session : Session)
    (release : UInt16) :
    decideSource a files session release = decideSource b files session release := by
  simp only [decideSource, sourceIn, PlatformLibrary.modulesPlace, h.home, h.archivePath]

/-- The place of the modules of a release is the same wherever its classes were decided on. -/
theorem modulesPlace_congr {a b : ReleaseClasses} (h : a.source.Alike b.source)
    {library' : PlatformLibrary} (hlibrary : library.SameShown files library') :
    a.modulesPlace library = b.modulesPlace library' := by
  have hplace : library.modulesPlace = library'.modulesPlace :=
    congrArg Path.text hlibrary.archivePath
  obtain ⟨release, source⟩ := a
  obtain ⟨release', source'⟩ := b
  cases h with
  | unavailable => exact congrArg some hplace
  | runtimeImage => exact congrArg some hplace
  | symbols => rfl

/-- What the archive records for a release are the modules of the place that the source names. -/
theorem Decided.modulesAt (hlibrary : library.Opened files) {release : UInt16}
    {archive : SymbolArchive} {code : Char} {place : String}
    (h : Decided files library ⟨release, .symbols archive code (some place)⟩) :
    ModulesAt files place (modulesOf files archive code) := by
  rw [Decided] at h
  cases hfresh : (decideSource library files {} release).1 with
  | symbols opened code' place' =>
    rw [hfresh] at h
    cases h with
    | symbols hsame code place =>
      rw [modulesOf_congr hsame]
      exact modulesAt_of_decideSource hlibrary.path hfresh
  | _ =>
    rw [hfresh] at h
    cases h

/-- A session that has looked for the modules of a release knows them. -/
theorem loadModules_grows (hlibrary : library.Opened files) {classes : ReleaseClasses}
    (hdecided : classes.Decided files library) (hsession : session.Faithful files) :
    session.Grows files (classes.loadModules library files session).2 ∧
      ∀ place, classes.modulesPlace library = some place →
        (classes.loadModules library files session).2.Knows files place := by
  have hdefault := PlatformLibrary.loadModules_grows hlibrary hsession
  have hknows : ∀ place, some library.modulesPlace = some place →
      (library.loadModules files session).2.Knows files place := by
    rintro place hplace
    rw [← Option.some_inj.1 hplace]
    exact hdefault.2
  obtain ⟨release, source⟩ := classes
  cases source with
  | unavailable error => exact ⟨hdefault.1, hknows⟩
  | runtimeImage => exact ⟨hdefault.1, hknows⟩
  | symbols archive code found =>
    cases found with
    | none => exact ⟨.refl session, fun place hplace => nomatch hplace⟩
    | some place =>
      suffices hplace : session.Grows files _ ∧ Session.Knows files _ place from
        ⟨hplace.1, fun other hother => Option.some_inj.1 hother ▸ hplace.2⟩
      rw [loadModules]
      dsimp only
      split
      · rename_i hcontains
        exact ⟨.refl session, hsession.knows_of_contains hcontains⟩
      · rename_i habsent
        rw [Bool.not_eq_true] at habsent
        exact Session.grows_noteModules_unless habsent (hdecided.modulesAt hlibrary) rfl

/-- The classes of a release as they are set up for a library: they come from where its JDK has
them, and the session knows their modules. -/
structure SetUp (files : Files) (session : Session) (library : PlatformLibrary)
    (classes : ReleaseClasses) : Prop where
  decided : classes.Decided files library
  known : ∀ place, classes.modulesPlace library = some place → session.Knows files place

theorem SetUp.of_grows {classes : ReleaseClasses} (h : classes.SetUp files session library)
    {later : Session} (hgrows : session.Grows files later) : classes.SetUp files later library :=
  ⟨h.decided, fun place hplace => hgrows.knows (h.known place hplace)⟩

theorem SetUp.congr {classes : ReleaseClasses} (h : classes.SetUp files session library)
    {library' : PlatformLibrary} (hlibrary : library'.SameShown files library) :
    classes.SetUp files session library' where
  decided := by
    rw [Decided, decideSource_congr hlibrary]
    exact h.decided
  known place hplace := by
    refine h.known place ?_
    rw [← hplace]
    exact modulesPlace_congr (.refl _) hlibrary.symm

/-- **The classes of a release are set up as they would be in a new session.** -/
theorem setUp_ofRelease (hlibrary : library.Opened files) (hsession : session.Faithful files)
    (release : UInt16) :
    session.Grows files (ofRelease library files session release).2.2 ∧
      (ofRelease library files session release).2.1.SameShown files library ∧
      (ofRelease library files session release).1.SetUp files
        (ofRelease library files session release).2.2 library := by
  have hdecided : Decided files library
      ⟨release, (decideSource library files session release).1⟩ :=
    decideSource_alike library hsession.archives release
  have hopened : session.Grows files (decideSource library files session release).2 :=
    Session.grows_of_modules (modules_decideSource files library session release)
      (decideSource_preserves files library session release)
  obtain ⟨hgrows, hknows⟩ := loadModules_grows hlibrary hdecided (hopened.faithful hsession)
  exact ⟨hopened.trans hgrows, (loadModules_preserves files _ library _).1, hdecided, hknows⟩

end ReleaseClasses

end MultiRelease
