import MultiRelease.Proofs.ClassFile.FormatReading
import MultiRelease.Proofs.Platform.IndexedFiles
import MultiRelease.Proofs.Platform.NotedModules
import MultiRelease.Proofs.Platform.OwningModule

/-!
# The modules that a symbol archive lists for a release

When the classes of a release are set up, the modules that the symbol archive describes for it are
noted in the session.  What is noted is said here without the loops that collect it
(`ReleaseClasses.Lists`): of the folders with descriptions of the modules of the release, the first
one that describes a module counts, and a folder describes a module if it has a description that can
be read and decoded.  So a damaged description only leaves a gap that a later folder may fill.

* `ReleaseClasses.get?_modulesOf_eq_some_iff`: the collected modules are these.  Several folders are
  gone through in order, and only what is absent is put in, so for each module the first folder
  counts that gives a description (`ReleaseClasses.get?_modulesOf`).  One folder is gone through by
  its sub-folders in the index.  What can be read from a folder is in the index, so that the loops
  do not miss it (`ReleaseClasses.Describes.mem_files`).
* `ReleaseClasses.ofRelease_lists_modules`: what this means for the session.  The modules are noted
  under a place of their own; all other places keep what they have, and so does this place if
  something was noted there before (`ReleaseClasses.NotesListed`).

In the per-module layout the descriptions stand in all folders that apply to the release, and in the
older layout in one folder that has the code of the release in its name
(`ReleaseClasses.IsModuleRoot`).  That none of these starts with a slash
(`ReleaseClasses.IsModuleRoot.head?`) is what makes the names in the index and the names of the
entries the same.
-/

set_option autoImplicit false

namespace MultiRelease

open Text

namespace ReleaseClasses

variable {files : Files} {archive : SymbolArchive} {code : Char} {root module : String}
  {descriptor : ModuleDescriptor}

/-! ## Descriptions -/

/-- A folder with the descriptions of the modules of a release: in the per-module layout any folder
that applies to the release, in the legacy layout the one for the modules of the release. -/
def IsModuleRoot (archive : SymbolArchive) (code : Char) (root : String) : Prop :=
  if archive.perModule then archive.IsReleaseRoot code root else root = archive.moduleFolder code

/-- The folder has a description of the module that can be read and decoded. -/
def Describes (files : Files) (archive : SymbolArchive) (root module : String)
    (descriptor : ModuleDescriptor) : Prop :=
  ∃ bytes,
    archive.fileBytes files (SymbolArchive.modulePath root module moduleInfoSignature) = .ok bytes ∧
      parseModuleInfo bytes = .ok descriptor

/-- The archive lists the module for the release, with the description in the first folder that
describes it. -/
structure Lists (files : Files) (archive : SymbolArchive) (code : Char) (module : String)
    (descriptor : ModuleDescriptor) : Prop where
  plain : '/' ∉ module.toList
  first : ∃ root,
    IsLeast {root | IsModuleRoot archive code root ∧ ∃ any, Describes files archive root module any}
      root ∧ Describes files archive root module descriptor

theorem mem_moduleRoots : root ∈ moduleRoots archive code ↔ IsModuleRoot archive code root := by
  rw [moduleRoots, IsModuleRoot]
  split
  · exact SymbolArchive.mem_releaseRoots
  · exact List.mem_singleton

theorem pairwise_moduleRoots (h : archive.Complete) (code : Char) :
    (moduleRoots archive code).Pairwise (· ≤ ·) := by
  rw [moduleRoots]
  split
  · exact SymbolArchive.pairwise_releaseRoots h code
  · exact List.pairwise_singleton _ _

theorem IsModuleRoot.head? (hcode : code ≠ '/') (h : IsModuleRoot archive code root) :
    ∃ c, root.toList.head? = some c ∧ c ≠ '/' := by
  rw [IsModuleRoot] at h
  split at h
  · cases hroot : root.toList with
    | nil =>
      have happlies := h.applies
      rw [hroot] at happlies
      exact absurd happlies List.not_mem_nil
    | cons c rest =>
      refine ⟨c, rfl, ?_⟩
      rintro rfl
      exact h.top (hroot ▸ List.mem_cons_self)
  · rename_i hlayout
    rw [h, SymbolArchive.moduleFolder, if_neg hlayout]
    exact ⟨code, by simp, hcode⟩

theorem descriptorAt?_eq_some_iff :
    descriptorAt? files archive (SymbolArchive.modulePath root module moduleInfoSignature)
      = some descriptor ↔ Describes files archive root module descriptor := by
  rw [descriptorAt?, Describes]
  cases archive.fileBytes files (SymbolArchive.modulePath root module moduleInfoSignature) with
  | error error => simp
  | ok bytes =>
    dsimp only
    cases hparse : parseModuleInfo bytes with
    | error error => simp [hparse, Except.toOption]
    | ok found => simp [hparse, Except.toOption]

theorem Describes.unique {other : ModuleDescriptor}
    (h : Describes files archive root module descriptor)
    (hother : Describes files archive root module other) : descriptor = other :=
  Option.some_inj.1
    ((descriptorAt?_eq_some_iff.2 h).symm.trans (descriptorAt?_eq_some_iff.2 hother))

theorem Lists.unique {other : ModuleDescriptor} (h : Lists files archive code module descriptor)
    (hother : Lists files archive code module other) : descriptor = other := by
  obtain ⟨root, hroot, hdescribes⟩ := h.first
  obtain ⟨root', hroot', hdescribes'⟩ := hother.first
  obtain rfl : root = root' := String.le_antisymm (hroot.2 hroot'.1) (hroot'.2 hroot.1)
  exact hdescribes.unique hdescribes'

/-- Where a module is described, its description is in the index. -/
theorem Describes.mem_files {path : Path} {content : OpenArchive}
    (harchive : archive = .ofArchive path content) (hcode : code ≠ '/')
    (hroot : IsModuleRoot archive code root)
    (h : Describes files archive root module descriptor) :
    SymbolArchive.modulePath root module moduleInfoSignature ∈ archive.files := by
  obtain ⟨bytes, hbytes, -⟩ := h
  obtain ⟨c, hhead, hc⟩ := hroot.head? hcode
  have hpath : (SymbolArchive.modulePath root module moduleInfoSignature).toList.head?
      = some c := by
    simp [SymbolArchive.modulePath, toString, String.toList_append, hhead]
  refine SymbolArchive.mem_files_of_fileBytes harchive hbytes ?_ ?_ ?_
  · intro hnil
    rw [hnil] at hpath
    cases hpath
  · rw [hpath]
    exact fun heq => hc (Option.some_inj.1 heq)
  · have hlast : moduleInfoSignature.toList.getLast? = some 'g' := by decide
    simp only [SymbolArchive.modulePath, toString, String.toList_append, List.getLast?_append,
      hlast]
    simp

/-! ## Collecting -/

theorem mem_modulesInRoot {path : Path} {content : OpenArchive}
    (harchive : archive = .ofArchive path content) (hcode : code ≠ '/')
    (hroot : IsModuleRoot archive code root) :
    (module, descriptor) ∈ modulesInRoot files archive root ↔
      '/' ∉ module.toList ∧ Describes files archive root module descriptor := by
  have hcomplete : archive.Complete := harchive ▸ SymbolArchive.complete_ofArchive path content
  rw [modulesInRoot, List.mem_filterMap]
  simp only [Option.map_eq_some_iff, descriptorAt?_eq_some_iff,
    SymbolArchive.mem_modulesWith hcomplete]
  constructor
  · rintro ⟨module', ⟨hplain, -⟩, descriptor', hdescribes, heq⟩
    obtain ⟨rfl, rfl⟩ := Prod.mk.inj heq
    exact ⟨hplain, hdescribes⟩
  · rintro ⟨hplain, hdescribes⟩
    exact ⟨module, ⟨hplain, hdescribes.mem_files harchive hcode hroot⟩, descriptor, hdescribes, rfl⟩

/-- What is found for a module in one folder. -/
theorem find?_modulesInRoot {path : Path} {content : OpenArchive}
    (harchive : archive = .ofArchive path content) (hcode : code ≠ '/')
    (hroot : IsModuleRoot archive code root) :
    ((modulesInRoot files archive root).find? (·.1 = module)).map (·.2) = some descriptor ↔
      '/' ∉ module.toList ∧ Describes files archive root module descriptor := by
  have hmem : ∀ descriptor, (module, descriptor) ∈ modulesInRoot files archive root ↔
      '/' ∉ module.toList ∧ Describes files archive root module descriptor := fun _ =>
    mem_modulesInRoot harchive hcode hroot
  rw [NameMap.map_find?_eq_some_iff, hmem]
  exact fun first second hfirst hsecond =>
    ((hmem first).1 hfirst).2.unique ((hmem second).1 hsecond).2

/-- What is found for a module in several folders in order. -/
theorem get?_modulesOf (files : Files) (archive : SymbolArchive) (code : Char) (module : String) :
    (modulesOf files archive code).get? module = (moduleRoots archive code).findSome? fun root =>
      ((modulesInRoot files archive root).find? (·.1 = module)).map (·.2) := by
  rw [modulesOf, NameMap.get?_foldl_insertIfAbsent module _ NameMap.sorted_empty,
    List.find?_flatMap, List.map_findSome?]
  rfl

theorem sorted_modulesOf (files : Files) (archive : SymbolArchive) (code : Char) :
    (modulesOf files archive code).Sorted :=
  NameMap.sorted_empty.foldl_insertIfAbsent _

/-- **The collected modules are those that the archive lists.** -/
theorem get?_modulesOf_eq_some_iff {path : Path} {content : OpenArchive}
    (harchive : archive = .ofArchive path content) (hcode : code ≠ '/') :
    (modulesOf files archive code).get? module = some descriptor ↔
      Lists files archive code module descriptor := by
  have hcomplete : archive.Complete := harchive ▸ SymbolArchive.complete_ofArchive path content
  have hsound : ∀ found, (modulesOf files archive code).get? module = some found →
      Lists files archive code module found := by
    intro found hfound
    rw [get?_modulesOf] at hfound
    obtain ⟨before, root, after, hroots, hfind, hbefore⟩ := List.findSome?_eq_some_iff.1 hfound
    have hmem : ∀ other ∈ before ++ root :: after, IsModuleRoot archive code other :=
      fun other hother => mem_moduleRoots.1 (hroots ▸ hother)
    obtain ⟨hplain, hdescribes⟩ := (find?_modulesInRoot harchive hcode
      (hmem root (List.mem_append_right before List.mem_cons_self))).1 hfind
    have hleast : IsLeast {root | root ∈ moduleRoots archive code ∧
        ∃ any, Describes files archive root module any} root := by
      rw [hroots]
      refine isLeast_of_first (hroots ▸ pairwise_moduleRoots hcomplete code) ⟨found, hdescribes⟩ ?_
      rintro other hother ⟨any, hany⟩
      have hfound := (find?_modulesInRoot harchive hcode
        (hmem other (List.mem_append_left _ hother))).2 ⟨hplain, hany⟩
      rw [hbefore other hother] at hfound
      cases hfound
    simp only [mem_moduleRoots] at hleast
    exact ⟨hplain, root, hleast, hdescribes⟩
  refine ⟨hsound descriptor, fun hlists => ?_⟩
  cases hget : (modulesOf files archive code).get? module with
  | some found => rw [(hsound found hget).unique hlists]
  | none =>
    rw [get?_modulesOf, List.findSome?_eq_none_iff] at hget
    obtain ⟨root, hroot, hdescribes⟩ := hlists.first
    have hfound := (find?_modulesInRoot harchive hcode hroot.1.1).2 ⟨hlists.plain, hdescribes⟩
    rw [hget root (mem_moduleRoots.2 hroot.1.1)] at hfound
    cases hfound

/-! ## Noting -/

/-- What a session has noted after it looked for the modules of a release that is served from the
archive.  Only what was absent is added. -/
theorem get?_loadModules (library : PlatformLibrary) (session : Session) (release : UInt16)
    (place other : String) :
    ((loadModules ⟨release, .symbols archive code (some place)⟩ library files
        session).2.modules.get? other)
      = (session.modules.get? other).or
          (if other = place ∧ (modulesOf files archive code).isEmpty = false
            then some (modulesOf files archive code) else none) := by
  rw [loadModules]
  dsimp only
  split
  · rename_i hcontains
    rw [ModuleCache.contains, NameMap.contains_eq_isSome] at hcontains
    by_cases hother : other = place
    · obtain ⟨modules, hmodules⟩ := Option.isSome_iff_exists.1 hcontains
      rw [hother, ModuleCache.get?, hmodules]
      rfl
    · rw [if_neg fun h => hother h.1, Option.or_none]
  · rename_i habsent
    rw [Bool.not_eq_true] at habsent
    dsimp only
    cases hempty : (modulesOf files archive code).isEmpty with
    | true => simp
    | false =>
      rw [if_neg Bool.false_ne_true]
      by_cases hother : other = place
      · have hnone : session.modules.get? place = none :=
          (NameMap.get?_eq_none_iff session.modules.places place).2 habsent
        rw [hother, hnone, if_pos ⟨rfl, rfl⟩]
        exact NameMap.get?_insertIfAbsent_of_absent habsent _
      · rw [if_neg fun h => hother h.1, Option.or_none]
        exact NameMap.get?_alter_of_ne hother session.modules.places _

/-- A session that gives this archive for a JDK serves a release from it, with a listing of the
modules of the release. -/
structure ServedWithModules (session : Session) (files : Files) (home : Path) (release : UInt16)
    (archive : SymbolArchive) (code : Char) : Prop where
  coded : releaseCode release = some code
  given : (session.symbolArchive files home).1 = .ok archive
  opened : ∃ path content, archive = .ofArchive path content
  folder : String.singleton code ∈ archive.folders
  unmarked : String.singleton code ++ "/" ++ systemModulesMarker ∉ archive.files ++ archive.folders
  modules : archive.moduleFolder code ∈ archive.folders

/-- The place of the modules that an archive lists for a release. -/
def listingPlace (library : PlatformLibrary) (archive : SymbolArchive) (code : Char) : String :=
  library.modulesPlace ++ "|" ++ archive.moduleFolder code

/-- What is noted of modules before and after the modules that an archive lists for a release were
noted under a place. -/
structure NotesListed (files : Files) (archive : SymbolArchive) (code : Char) (place : String)
    (before after : ModuleCache) : Prop where
  kept : ∀ other modules, before.get? other = some modules → after.get? other = some modules
  others : ∀ other, other ≠ place → after.get? other = before.get? other
  nothing : before.get? place = none →
    (∀ module descriptor, ¬ Lists files archive code module descriptor) → after.get? place = none
  listed : before.get? place = none →
    (∃ module descriptor, Lists files archive code module descriptor) →
      ∃ modules, after.get? place = some modules ∧ modules.Sorted ∧
        ∀ module descriptor, (module, descriptor) ∈ modules.entries ↔
          Lists files archive code module descriptor

theorem sourceIn_eq_symbols {session : Session} {library : PlatformLibrary} {release : UInt16}
    (h : ServedWithModules session files library.home release archive code) :
    sourceIn archive library release code
      = .symbols archive code (some (listingPlace library archive code)) := by
  have hcode := ne_slash_of_releaseCode h.coded
  have hfolder : archive.hasFolder (String.singleton code) = true :=
    (SymbolArchive.hasFolder_iff (by simpa using hcode)).2 h.folder
  have hmarker : archive.exists? (String.singleton code ++ "/" ++ systemModulesMarker) = false := by
    rw [← Bool.not_eq_true, SymbolArchive.exists?_iff
      (by simp [String.toList_append, systemModulesMarker])]
    exact h.unmarked
  have hmodules : archive.hasFolder (archive.moduleFolder code) = true := by
    refine (SymbolArchive.hasFolder_iff ?_).2 h.modules
    rw [SymbolArchive.moduleFolder]
    split
    · simpa using hcode
    · simp [String.toList_append, legacyModulesSuffix]
  rw [sourceIn]
  dsimp only
  rw [if_pos hfolder, if_neg (by simp [hmarker]), if_pos hmodules, listingPlace]

/-- Looking for the modules notes what the archive lists. -/
theorem notesListed_loadModules (library : PlatformLibrary) (session : Session) (release : UInt16)
    (place : String) (hcode : code ≠ '/')
    (hopened : ∃ path content, archive = .ofArchive path content) :
    NotesListed files archive code place session.modules
      (loadModules ⟨release, .symbols archive code (some place)⟩ library files
        session).2.modules := by
  obtain ⟨path, content, harchive⟩ := hopened
  have hmem : ∀ module descriptor, (module, descriptor) ∈ (modulesOf files archive code).entries ↔
      Lists files archive code module descriptor := fun module descriptor =>
    (sorted_modulesOf files archive code).mem_entries_iff.trans
      (get?_modulesOf_eq_some_iff harchive hcode)
  have hempty : (modulesOf files archive code).isEmpty = true ↔
      ∀ module descriptor, ¬ Lists files archive code module descriptor := by
    rw [NameMap.isEmpty, List.isEmpty_iff, List.eq_nil_iff_forall_not_mem, Prod.forall]
    simp only [hmem]
  constructor
  case kept =>
    intro other modules hmodules
    rw [get?_loadModules, hmodules, Option.some_or]
  case others =>
    intro other hother
    rw [get?_loadModules, if_neg fun h => hother h.1, Option.or_none]
  case nothing =>
    intro habsent hnone
    rw [get?_loadModules, habsent, hempty.2 hnone]
    simp
  case listed =>
    rintro habsent ⟨module, descriptor, hlists⟩
    have hsome : (modulesOf files archive code).isEmpty = false :=
      Bool.not_eq_true _ ▸ fun htrue => hempty.1 htrue module descriptor hlists
    refine ⟨_, ?_, sorted_modulesOf files archive code, hmem⟩
    rw [get?_loadModules, habsent, if_pos ⟨rfl, hsome⟩, Option.none_or]

/-- **Setting up the classes of a release notes the modules that the archive lists for it**, under a
place of their own, and nothing else. -/
theorem ofRelease_lists_modules (library : PlatformLibrary) {session : Session} {release : UInt16}
    (h : ServedWithModules session files library.home release archive code) :
    (ofRelease library files session release).1.modulesPlace library
        = some (listingPlace library archive code) ∧
      NotesListed files archive code (listingPlace library archive code) session.modules
        (ofRelease library files session release).2.2.modules := by
  have hsource : (decideSource library files session release).1
      = .symbols archive code (some (listingPlace library archive code)) := by
    rw [decideSource, h.coded]
    have hgiven := h.given
    cases hs : session.symbolArchive files library.home with
    | mk found after =>
      rw [hs] at hgiven
      obtain rfl : found = .ok archive := hgiven
      exact sourceIn_eq_symbols h
  have hofRelease : ofRelease library files session release
      = (⟨release, .symbols archive code (some (listingPlace library archive code))⟩,
        loadModules ⟨release, .symbols archive code (some (listingPlace library archive code))⟩
          library files (decideSource library files session release).2) := by
    rw [← hsource]
    rfl
  rw [hofRelease, ← modules_decideSource files library session release]
  exact ⟨rfl, notesListed_loadModules library _ release _ (ne_slash_of_releaseCode h.coded)
    h.opened⟩

/-! ### A description that cannot be decoded -/

/-- The module of a release. -/
def describedModule : ModuleDescriptor := { name := "java.base" }

/-- Its description.  The checksum is given, since it would be too deep a term to evaluate where the
archive is read. -/
def describedEntry : NewEntry where
  name := "B/java.base/module-info.sig"
  data := ⟨(Stub.ofModule describedModule).encode.toArray⟩
  method := PackedData.stored
  statedChecksum := 3139251854

/-- Descriptions of the module in two folders of a release, of which the first is no class file. -/
def describedTwice : Content :=
  ⟨Archive.pack [SymbolArchive.oneByteEntry "9B/java.base/module-info.sig", describedEntry]⟩

/-- A JDK with these descriptions. -/
def describedJdk : Files where
  entries := [(["jdk"], .folder), (["jdk", "lib"], .folder),
    (["jdk", "lib", "ct.sym"], .file describedTwice false)]

theorem checksum_describedEntry :
    (Zip.checksum describedEntry.data).toNat = describedEntry.statedChecksum := by
  have hfront : ((Stub.ofModule describedModule).encode.take 44).foldl Zip.addByte (~~~0)
      = 1056113521 := by decide +kernel
  have hback : ((Stub.ofModule describedModule).encode.drop 44).foldl Zip.addByte 1056113521
      = ~~~3139251854 := by decide +kernel
  have hall : (Stub.ofModule describedModule).encode.foldl Zip.addByte (~~~0) = ~~~3139251854 := by
    rw [← List.take_append_drop 44 (Stub.ofModule describedModule).encode, List.foldl_append,
      hfront, hback]
  rw [Zip.checksum, describedEntry, List.foldl_toArray, hall]
  decide

/-- The archive of the JDK opens, and both descriptions can be read. -/
theorem openHome_describedJdk : ∃ opened archive,
    SymbolArchive.openHome describedJdk ⟨"jdk"⟩ = .ok archive ∧
      archive = .ofArchive ⟨"jdk/lib/ct.sym"⟩ opened ∧
      opened.archive.entries.map (·.name)
        = ["9B/java.base/module-info.sig", "B/java.base/module-info.sig"] ∧
      archive.fileBytes describedJdk "9B/java.base/module-info.sig" = .ok [0x78] ∧
      archive.fileBytes describedJdk "B/java.base/module-info.sig"
        = .ok describedEntry.data.data.toList := by
  have hpath : Path.join ⟨"jdk"⟩ symbolArchivePath = ⟨"jdk/lib/ct.sym"⟩ := by decide
  have hresolve : describedJdk.resolve? ⟨"/".intercalate ["jdk", "lib", "ct.sym"]⟩
      = some ["jdk", "lib", "ct.sym"] :=
    Files.resolve?_intercalate (Files.wellFormed_of_forall (by decide) (by decide))
      (Files.linkFree_of_forall (by decide)) (by decide) rfl
  rw [show "/".intercalate ["jdk", "lib", "ct.sym"] = "jdk/lib/ct.sym" by decide]
    at hresolve
  have hread : (Archive.ofBytes? describedTwice.data).any (fun archive =>
      decide (archive.entries.map (fun entry => (entry.name, entry.packed.statedChecksum,
          entry.packed.unpacked describedTwice.data))
        = [("9B/java.base/module-info.sig", (Zip.checksum ⟨#[0x78]⟩).toNat, .ok ⟨#[0x78]⟩),
          ("B/java.base/module-info.sig", describedEntry.statedChecksum,
            .ok describedEntry.data)])) = true := by
    decide +kernel
  obtain ⟨archive, harchive, hfound⟩ := (Option.any_eq_true _ _).1 hread
  rw [decide_eq_true_eq] at hfound
  obtain ⟨opened, hopen, rfl, hcontent⟩ := Files.exists_openArchive hresolve rfl harchive
  obtain ⟨first, others, hentries, hfirst, hothers⟩ := List.map_eq_cons_iff.1 hfound
  obtain ⟨second, others, rfl, hsecond, hnil⟩ := List.map_eq_cons_iff.1 hothers
  rw [List.map_eq_nil_iff.1 hnil] at hentries
  simp only [Prod.mk.injEq] at hfirst hsecond
  have hfirstFound : opened.archive.entry? "9B/java.base/module-info.sig" = some first := by
    simp [Archive.entry?, List.findRev?_eq_find?_reverse, hentries, hfirst.1, hsecond.1]
  have hsecondFound : opened.archive.entry? "B/java.base/module-info.sig" = some second := by
    simp [Archive.entry?, List.findRev?_eq_find?_reverse, hentries, hsecond.1]
  have hfirstRead := (OpenArchive.unpack_eq hcontent first).trans
    (PackedData.read_eq_ok hfirst.2.2 hfirst.2.1.symm)
  have hsecondRead := (OpenArchive.unpack_eq hcontent second).trans
    (PackedData.read_eq_ok hsecond.2.2 (checksum_describedEntry.trans hsecond.2.1.symm))
  have hfirstBytes : (SymbolArchive.ofArchive ⟨"jdk/lib/ct.sym"⟩ opened).fileBytes describedJdk
      "9B/java.base/module-info.sig" = .ok (ByteArray.mk #[0x78]).data.toList :=
    SymbolArchive.fileBytes_of_entry hfirstFound hfirstRead
  refine ⟨opened, _, by rw [SymbolArchive.openHome, SymbolArchive.openFile, hpath, hopen], rfl, ?_,
    hfirstBytes, SymbolArchive.fileBytes_of_entry hsecondFound hsecondRead⟩
  rw [hentries, List.map_cons, List.map_cons, List.map_nil, hfirst.1, hsecond.1]

/-- The archive of the JDK serves the release, and lists the module with its second description. -/
theorem served_describedJdk : ∃ archive,
    ServedWithModules {} describedJdk ⟨"jdk"⟩ 11 archive 'B' ∧
      Lists describedJdk archive 'B' "java.base" describedModule := by
  obtain ⟨opened, archive, hopen, harchive, hnames, hfirst, hsecond⟩ := openHome_describedJdk
  have hindexed : opened.archive.entries.map (fun entry => SymbolArchive.indexName entry.name)
      = [(["9B/java.base/module-info.sig"], ["9B", "9B/java.base"]),
        (["B/java.base/module-info.sig"], ["B", "B/java.base"])] := by
    have hmap := congrArg (List.map SymbolArchive.indexName) hnames
    rw [List.map_map] at hmap
    exact hmap.trans (by decide)
  have hfiles : archive.files
      = ["9B/java.base/module-info.sig", "B/java.base/module-info.sig"] := by
    rw [harchive, SymbolArchive.ofArchive, hindexed]
    simp [sortedTexts, sortedDistinct, List.mergeSort_of_pairwise, dropRepeated]
  have hfolders : archive.folders = ["9B", "9B/java.base", "B", "B/java.base"] := by
    rw [harchive, SymbolArchive.ofArchive, hindexed]
    simp [sortedTexts, sortedDistinct, List.mergeSort_of_pairwise, dropRepeated]
  have hlayout : archive.perModule = true := by
    rw [SymbolArchive.perModule, hfolders]
    decide
  have hgiven : (({} : Session).symbolArchive describedJdk ⟨"jdk"⟩).1 = .ok archive := by
    simp [Session.symbolArchive, hopen]
  have hroot : IsModuleRoot archive 'B' "B" := by
    rw [IsModuleRoot, if_pos hlayout]
    exact ⟨by simp [hfolders], by decide, by decide, by decide⟩
  have hdescribes : Describes describedJdk archive "B" "java.base" describedModule :=
    ⟨_, hsecond, by decide +kernel⟩
  refine ⟨archive, ⟨by decide, hgiven, ⟨_, _, harchive⟩, ?_, ?_, ?_⟩, by decide, "B",
    ⟨⟨hroot, _, hdescribes⟩, ?_⟩, hdescribes⟩
  · rw [hfolders]
    decide
  · rw [hfiles, hfolders]
    decide
  · rw [SymbolArchive.moduleFolder, if_pos hlayout, hfolders]
    decide
  · rintro other ⟨hother, any, bytes, hbytes, hparse⟩
    rw [IsModuleRoot, if_pos hlayout] at hother
    have hfolder := hother.folder
    have htop := hother.top
    simp only [hfolders, List.mem_cons, List.not_mem_nil, or_false] at hfolder
    rcases hfolder with rfl | rfl | rfl | rfl
    · have hpath : SymbolArchive.modulePath "9B" "java.base" moduleInfoSignature
          = "9B/java.base/module-info.sig" := by decide
      rw [hpath, hfirst] at hbytes
      obtain rfl := Except.ok.inj hbytes
      cases hparse
    · exact absurd htop (by decide)
    · exact String.le_refl "B"
    · exact absurd htop (by decide)

/-- The description that cannot be decoded is passed over, and the module is noted. -/
theorem ofRelease_lists_modules_sample : ∃ archive modules,
    ServedWithModules {} describedJdk sampleLibrary.home 11 archive 'B' ∧
      (ofRelease sampleLibrary describedJdk {} 11).1.modulesPlace sampleLibrary
        = some (listingPlace sampleLibrary archive 'B') ∧
      (ofRelease sampleLibrary describedJdk {} 11).2.2.modules.get?
        (listingPlace sampleLibrary archive 'B') = some modules ∧
      ("java.base", describedModule) ∈ modules.entries := by
  obtain ⟨archive, hserved, hlists⟩ := served_describedJdk
  obtain ⟨hplace, hnoted⟩ := ofRelease_lists_modules sampleLibrary hserved
  obtain ⟨modules, hmodules, -, hentries⟩ := hnoted.listed rfl ⟨_, _, hlists⟩
  exact ⟨archive, modules, hserved, hplace, hmodules, (hentries _ _).2 hlists⟩

end ReleaseClasses

end MultiRelease
