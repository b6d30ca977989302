import MultiRelease.Proofs.Files.Below
import MultiRelease.Proofs.Files.Enumeration
import MultiRelease.Proofs.Platform.ImageContents
import MultiRelease.Proofs.Platform.IndexedFiles
import MultiRelease.Proofs.Text.Cutting

/-!
# The two forms of a runtime image

The same modules may be stored as an exploded image, with a folder for each module
(`ImageContents.ExplodedAt`), or as a packaged one, with an archive for each module
(`ImageContents.PackagedAt`).  Both open, and both represent what is stored
(`ImageContents.ExplodedAt.exists_open`, `ImageContents.PackagedAt.exists_open`), although one lists
folders that it probes for files, and the other names archives that it opens when they are needed.

So they cannot be told apart by asking them, whatever is asked and in whatever order
(`RuntimeImage.answers_exploded_eq_packaged`).  That an image which represents some contents answers
from them is shown elsewhere, once for both forms.  What is left to show here is that a form
represents them, which comes down to two things.

* The modules are the same.  In an exploded image they are the names of the sub-folders.  In a
  packaged one they are the names of the archives without their ending, and each has one archive
  (`ImageContents.PackagedAt.get?_archives`); files with other endings do not count.
* Each class is found under its module and its path.  In an exploded image the path leads to the
  file from the folder of the module (`ImageContents.ExplodedAt.read?_child`).  In a packaged one
  the archive of the module opens (`ImageContents.PackagedAt.exists_archive`) and has an entry with
  the path below the folder of the classes.

Nothing is assumed about what else the archives hold.  In the folder of an exploded image nothing
else may stand, since every sub-folder counts as a module there.
-/

set_option autoImplicit false

namespace MultiRelease

open Text

namespace ImageContents

/-- The name of the archive of a module. -/
def archiveName (module : String) : String := module ++ "." ++ RuntimeImage.moduleArchiveExtension

/-- The folder that a path names has the modules as its sub-folders, and in them the classes under
their own paths. -/
structure ExplodedAt (contents : ImageContents) (files : Files) (root : Path) (home : Address) :
    Prop where
  wellFormed : files.WellFormed
  listedOnce : files.ListedOnce
  folder : files.folder? root = some home
  linkFree : files.LinkFreeBelow home
  modules : ∀ name entry, (home ++ [name], entry) ∈ files.entries ↔
    name ∈ contents.modules ∧ entry = .folder
  classes : ∀ module path bytes, path ≠ [] → (contents.bytes? module path = some bytes ↔
    ∃ content executable, (home ++ module :: path, .file content executable) ∈ files.entries ∧
      content.bytes = bytes)

/-- The archive has the classes of a module under the folder of the classes.  Whatever else it has
does not matter. -/
def HasClasses (contents : ImageContents) (archive : Archive) (data : ByteArray) (module : String) :
    Prop :=
  ∀ path, IsClassPath path →
    (archive.entry? (RuntimeImage.classesFolder ++ "/".intercalate path)).map (·.packed.read data)
      = (contents.bytes? module path).map fun bytes => .ok ⟨bytes.toArray⟩

/-- The folder that a path names has the archives of the modules, and nothing else. -/
structure PackagedAt (contents : ImageContents) (files : Files) (folder : Path) (home : Address) :
    Prop where
  wellFormed : files.WellFormed
  folder : files.folder? folder = some home
  members : ∀ name entry, (home ++ [name], entry) ∈ files.entries →
    ∃ module ∈ contents.modules, name = archiveName module
  archives : ∀ module ∈ contents.modules, ∃ content executable archive,
    (home ++ [archiveName module], .file content executable) ∈ files.entries ∧
      Archive.ofBytes? content.data = some archive ∧
        contents.HasClasses archive content.data module

variable {contents : ImageContents} {files : Files} {home : Address}

/-! ## Exploded images -/

namespace ExplodedAt

variable {root : Path}

theorem leads (h : contents.ExplodedAt files root home) : files.Leads home root [] :=
  Files.leads_of_folder? h.folder

theorem isFolder_child (h : contents.ExplodedAt files root home) {name : String}
    (hname : name ∈ contents.modules) : files.isFolder (root.child name) = true := by
  have hproper := contents.proper name hname
  have hentry := (h.leads.child hproper).entry?_below h.wellFormed h.linkFree
    (Files.entryAt?_of_folder? h.folder) (List.forall_mem_singleton.2 hproper)
    (root.hasSuffix_slash_child hproper)
  rw [Files.isFolder, hentry, List.nil_append,
    h.wellFormed.entryAt?_eq ((h.modules name .folder).2 ⟨hname, rfl⟩)]
  rfl

/-- Reading a class is looking at the place that its module and its path lead to. -/
theorem read?_child (h : contents.ExplodedAt files root home) {module : String}
    {path : List String} (hmodule : ProperName module) (hpath : IsClassPath path) :
    (files.read? ((root.child module).child ("/".intercalate path))).map Content.bytes
      = contents.bytes? module path := by
  obtain ⟨hne, hproper⟩ := hpath
  have hentry := ((h.leads.child hmodule).inside hproper).entry?_below h.wellFormed h.linkFree
    (Files.entryAt?_of_folder? h.folder) (List.forall_mem_cons.2 ⟨hmodule, hproper⟩)
    ((root.child module).hasSuffix_slash_inside hne hproper)
  refine Option.ext fun bytes => ?_
  rw [Files.read?, hentry, h.classes module path bytes hne]
  constructor
  · intro hread
    obtain ⟨content, hcontent, rfl⟩ := Option.map_eq_some_iff.1 hread
    split at hcontent
    · rename_i found executable hfound
      obtain rfl := Option.some_inj.1 hcontent
      exact ⟨_, executable, Files.mem_of_entryAt? (by simp) hfound, rfl⟩
    · cases hcontent
  · rintro ⟨content, executable, hmem, rfl⟩
    have hfound := h.wellFormed.entryAt?_eq hmem
    rw [List.nil_append, List.singleton_append, hfound]
    rfl

/-- **An exploded image opens and represents what is stored.** -/
theorem exists_open (h : contents.ExplodedAt files root home) :
    ∃ image, RuntimeImage.openExploded files root = .ok image ∧
      image.Represents files contents := by
  have hmem : ∀ name, name ∈ (files.childrenAt home).map (·.1) ↔ name ∈ contents.modules := by
    intro name
    simp only [List.mem_map, Prod.exists, exists_and_right, exists_eq_right, Files.mem_childrenAt,
      h.modules, exists_eq_right]
  have hlist : files.list? root = some (files.childrenAt home) := by
    rw [Files.list?_eq_folder?, h.folder, Option.map_some]
  have hfilter : ((files.childrenAt home).map (·.1)).filter
      (fun name => files.isFolder (root.child name)) = (files.childrenAt home).map (·.1) :=
    List.filter_eq_self.2 fun name hname => h.isFolder_child ((hmem name).1 hname)
  refine ⟨_, by rw [RuntimeImage.openExploded, hlist], ?_, fun module path hmodule hpath => ?_⟩
  · rw [RuntimeImage.modules, hfilter]
    have hnodup : ((files.childrenAt home).map (·.1)).Nodup :=
      List.pairwise_map.2 (h.listedOnce.pairwise_childrenAt home)
    refine eq_sortedTexts (pairwise_mergeSort_texts _)
      ((List.mergeSort_perm _ _).nodup_iff.2 hnodup) fun name => ?_
    rw [List.mem_mergeSort, hmem]
  · exact congrArg Except.ok (h.read?_child hmodule hpath)

end ExplodedAt

/-! ## Packaged images -/

/-- The module of an archive and its path, from what stands in a folder. -/
def archiveOf? (folder : Path) (member : String × FileEntry) : Option (String × Path) :=
  match splitExtension member.1 with
  | some (stem, ending) =>
    if ending = RuntimeImage.moduleArchiveExtension then some (stem, folder.child member.1)
    else none
  | none => none

theorem openPackaged_eq {files : Files} {folder : Path} {members : List (String × FileEntry)}
    (h : files.list? folder = some members) :
    RuntimeImage.openPackaged files folder
      = .ok (.packaged (.ofList (members.filterMap (archiveOf? folder))) {}) := by
  rw [RuntimeImage.openPackaged, h]
  rfl

theorem archiveOf?_archiveName {module : String} (h : module ≠ "") (folder : Path)
    (entry : FileEntry) :
    archiveOf? folder (archiveName module, entry)
      = some (module, folder.child (archiveName module)) := by
  have hplain : '.' ∉ RuntimeImage.moduleArchiveExtension.toList := by decide
  have hcut : cutLast '.' (archiveName module)
      = some (module, RuntimeImage.moduleArchiveExtension) := by
    rw [cutLast, archiveName, String.toList_append, String.toList_append, List.append_assoc,
      show ".".toList ++ RuntimeImage.moduleArchiveExtension.toList
        = '.' :: RuntimeImage.moduleArchiveExtension.toList from rfl, cutAtLast_append hplain]
    exact congrArg some (Prod.ext String.ofList_toList String.ofList_toList)
  rw [archiveOf?, splitExtension, hcut]
  dsimp only
  rw [if_neg h]
  exact if_pos rfl

namespace PackagedAt

variable {folder : Path}

/-- The archives that are found are those of the modules. -/
theorem mem_archives (h : contents.PackagedAt files folder home) {module : String} {path : Path} :
    (module, path) ∈ (files.childrenAt home).filterMap (archiveOf? folder) ↔
      module ∈ contents.modules ∧ path = folder.child (archiveName module) := by
  rw [List.mem_filterMap]
  constructor
  · rintro ⟨⟨name, entry⟩, hmem, hfound⟩
    obtain ⟨stem, hstem, rfl⟩ := h.members name entry (Files.mem_childrenAt.1 hmem)
    rw [archiveOf?_archiveName (contents.proper stem hstem).ne_empty] at hfound
    obtain ⟨rfl, rfl⟩ := Prod.mk.inj (Option.some_inj.1 hfound)
    exact ⟨hstem, rfl⟩
  · rintro ⟨hmodule, rfl⟩
    obtain ⟨content, executable, archive, hmem, -, -⟩ := h.archives module hmodule
    exact ⟨_, Files.mem_childrenAt.2 hmem,
      archiveOf?_archiveName (contents.proper module hmodule).ne_empty folder _⟩

/-- A module has one archive. -/
theorem get?_archives (h : contents.PackagedAt files folder home) {module : String} {path : Path} :
    (NameMap.ofList ((files.childrenAt home).filterMap (archiveOf? folder))).get? module
        = some path ↔
      module ∈ contents.modules ∧ path = folder.child (archiveName module) := by
  rw [NameMap.get?_ofList_eq_some_iff, h.mem_archives]
  exact fun first second hfirst hsecond =>
    (h.mem_archives.1 hfirst).2.trans (h.mem_archives.1 hsecond).2.symm

/-- The archive of a module opens, with its classes. -/
theorem exists_archive (h : contents.PackagedAt files folder home) {module : String}
    (hmodule : module ∈ contents.modules) :
    ∃ opened content, files.openArchive (folder.child (archiveName module)) = .ok opened ∧
      files.contentOf? opened.file = some content ∧
        contents.HasClasses opened.archive content.data module := by
  obtain ⟨content, executable, archive, hmem, harchive, hclasses⟩ := h.archives module hmodule
  have hentry := h.wellFormed.entryAt?_eq hmem
  have hproper := h.wellFormed.proper_below hmem (archiveName module) List.mem_cons_self
  have hresolve := Files.resolve?_child h.folder hproper hentry fun target => by simp
  obtain ⟨opened, hopen, rfl, hcontent⟩ := Files.exists_openArchive hresolve hentry harchive
  exact ⟨opened, content, hopen, hcontent, hclasses⟩

theorem read_of_hasClasses {opened : OpenArchive} {content : Content} {module : String}
    {path : List String} (hcontent : files.contentOf? opened.file = some content)
    (hclasses : contents.HasClasses opened.archive content.data module) (hpath : IsClassPath path)
    (blamed : Path) :
    opened.read files (RuntimeImage.classesFolder ++ "/".intercalate path) blamed
      = .ok (contents.bytes? module path) := by
  have hread := hclasses path hpath
  rw [OpenArchive.read]
  cases hentry : opened.archive.entry? (RuntimeImage.classesFolder ++ "/".intercalate path) with
  | none =>
    rw [hentry, Option.map_none, eq_comm, Option.map_eq_none_iff] at hread
    rw [hread]
  | some entry =>
    rw [hentry, Option.map_some, eq_comm, Option.map_eq_some_iff] at hread
    obtain ⟨bytes, hbytes, hdata⟩ := hread
    dsimp only
    rw [hcontent, Option.getD_some, ← hdata, hbytes]

/-- **A packaged image opens and represents what is stored.** -/
theorem exists_open (h : contents.PackagedAt files folder home) :
    ∃ image, RuntimeImage.openPackaged files folder = .ok image ∧
      image.Represents files contents := by
  have hlist : files.list? folder = some (files.childrenAt home) := by
    rw [Files.list?_eq_folder?, h.folder, Option.map_some]
  refine ⟨_, openPackaged_eq hlist, ?_, fun module path _ hpath => ?_⟩
  · have hsorted := NameMap.sorted_ofList ((files.childrenAt home).filterMap (archiveOf? folder))
    have hkeys := List.pairwise_map.2 (hsorted.imp fun hlt =>
      String.not_lt.1 fun hgt => String.lt_irrefl _ (String.lt_trans hlt hgt))
    refine eq_sortedTexts hkeys hsorted.nodup_keys fun module => NameMap.mem_keys_iff.trans ?_
    simp only [h.get?_archives, exists_and_left, exists_eq, and_true]
  · by_cases hmodule : module ∈ contents.modules
    · obtain ⟨opened, content, hopen, hcontent, hclasses⟩ := h.exists_archive hmodule
      rw [RuntimeImage.readClass_packaged _ _ (h.get?_archives.2 ⟨hmodule, rfl⟩),
        RuntimeImage.openedArchive_fst, hopen]
      exact read_of_hasClasses hcontent hclasses hpath _
    · have hnone : (NameMap.ofList ((files.childrenAt home).filterMap (archiveOf? folder))).get?
          module = none :=
        Option.eq_none_iff_forall_ne_some.2 fun path hpath => hmodule (h.get?_archives.1 hpath).1
      have hbytes : contents.bytes? module path = none :=
        Option.eq_none_iff_forall_ne_some.2 fun bytes hbytes =>
          hmodule (contents.placed module path bytes hbytes).1
      rw [RuntimeImage.readClass, hnone, hbytes]

end PackagedAt

end ImageContents

/-! ## Both forms -/

/-- **Exploded and packaged images of the same modules are interchangeable.**  Both open, and they
give the same answers, whatever was asked before. -/
theorem RuntimeImage.answers_exploded_eq_packaged {contents : ImageContents} {files other : Files}
    {root folder : Path} {home otherHome : Address}
    (hexploded : contents.ExplodedAt files root home)
    (hpackaged : contents.PackagedAt other folder otherHome) :
    ∃ exploded packaged, openExploded files root = .ok exploded ∧
      openPackaged other folder = .ok packaged ∧
        ∀ questions : List ImageQuestion, (∀ question ∈ questions, question.Proper) →
          exploded.answers files questions = packaged.answers other questions := by
  obtain ⟨exploded, hopen, hrepresents⟩ := hexploded.exists_open
  obtain ⟨packaged, hopen', hrepresents'⟩ := hpackaged.exists_open
  refine ⟨exploded, packaged, hopen, hopen', fun questions hproper => ?_⟩
  rw [hrepresents.answers hproper, hrepresents'.answers hproper]

/-! ### A module with a class, and one without -/

namespace ImageContents

/-- Two modules, of which one has a class. -/
def sample : ImageContents where
  modules := ["n", "m"]
  bytes? module path := if module = "n" ∧ path = ["p", "T.class"] then some [0x78] else none
  proper := by decide
  placed module path bytes h := by
    split at h
    · rename_i hplace
      rw [hplace.1, hplace.2]
      decide
    · cases h

/-- The modules as folders. -/
def sampleFolders : Files where
  entries := [(["x"], .folder), (["x", "n"], .folder), (["x", "m"], .folder),
    (["x", "n", "p"], .folder), (["x", "n", "p", "T.class"], .file (.ofBytes [0x78]) false)]

/-- The archive of the module that has a class. -/
def sampleArchive : Content :=
  ⟨Archive.pack [SymbolArchive.oneByteEntry "classes/p/T.class"]⟩

/-- The archive of the other module. -/
def emptyArchive : Content := ⟨Archive.pack []⟩

/-- The modules as archives. -/
def sampleArchives : Files where
  entries := [(["y"], .folder), (["y", "m.jmod"], .file emptyArchive false),
    (["y", "n.jmod"], .file sampleArchive false)]

theorem folder?_name {files : Files} (hwf : files.WellFormed) (hlf : files.LinkFree)
    (hworking : files.workingFolder = []) {name : String}
    (hentry : files.entryAt? [name] = some .folder) : files.folder? ⟨name⟩ = some [name] := by
  have hresolve : files.resolve? ⟨"/".intercalate [name]⟩ = some (files.workingFolder ++ [name]) :=
    Files.resolve?_intercalate hwf hlf (List.cons_ne_nil name []) (by rwa [hworking])
  rw [String.intercalate_singleton, hworking, List.nil_append] at hresolve
  rw [Files.folder?, hresolve, Option.filter_some, if_pos (Files.isFolder_iff.2 hentry)]

theorem explodedAt_sample : sample.ExplodedAt sampleFolders ⟨"x"⟩ ["x"] where
  wellFormed := Files.wellFormed_of_forall (by decide) (by decide)
  listedOnce := by
    rw [Files.ListedOnce]
    decide
  folder := folder?_name (Files.wellFormed_of_forall (by decide) (by decide))
    (Files.linkFree_of_forall (by decide)) rfl rfl
  linkFree names target := by simp [sampleFolders]
  modules name entry := by simp [sampleFolders, sample, or_and_right]
  classes module path bytes hne := by
    have hbytes := Content.bytes_ofBytes [0x78]
    simp [sampleFolders, sample, hbytes]

/-- Reading an entry, from a list of what all entries unpack to. -/
theorem read_entry_eq_find (archive : Archive) (data : ByteArray) (name : String) :
    (archive.entry? name).map (·.packed.read data)
      = ((archive.entries.map fun entry => (entry.name, entry.packed.read data)).reverse.find?
          (·.1 = name)).map (·.2) := by
  rw [Archive.entry?, List.findRev?_eq_find?_reverse, ← List.map_reverse, List.find?_map]
  simp [Function.comp_def]

theorem intercalate_eq_sample {path : List String} (h : IsClassPath path) :
    RuntimeImage.classesFolder ++ "/".intercalate path = "classes/p/T.class" ↔
      path = ["p", "T.class"] := by
  constructor
  · intro heq
    have htext : "/".intercalate path = "p/T.class" := by
      have hlists := congrArg String.toList heq
      rw [String.toList_append, show "classes/p/T.class".toList
        = RuntimeImage.classesFolder.toList ++ "p/T.class".toList by decide] at hlists
      exact String.toList_inj.1 (List.append_cancel_left hlists)
    have hsegments := segments_intercalate h.1 fun name hname => (h.2 name hname).no_slash
    rw [htext] at hsegments
    exact hsegments.symm.trans (by decide)
  · rintro rfl
    decide

/-- An archive with these entries has the classes of the module. -/
theorem hasClasses_sample {archive : Archive} {data : ByteArray} {module : String}
    {entries : List (String × Except EntryFault ByteArray)}
    (hentries : archive.entries.map (fun entry => (entry.name, entry.packed.read data)) = entries)
    (hfound : ∀ path, IsClassPath path →
      (entries.reverse.find? (·.1 = RuntimeImage.classesFolder ++ "/".intercalate path)).map (·.2)
        = (sample.bytes? module path).map fun bytes => .ok ⟨bytes.toArray⟩) :
    sample.HasClasses archive data module := fun path hpath => by
  rw [read_entry_eq_find, hentries, hfound path hpath]

theorem packagedAt_sample : sample.PackagedAt sampleArchives ⟨"y"⟩ ["y"] where
  wellFormed := Files.wellFormed_of_forall (by decide) (by decide)
  folder := folder?_name (Files.wellFormed_of_forall (by decide) (by decide))
    (Files.linkFree_of_forall (by decide)) rfl rfl
  members name entry hmem := by
    have hnames : archiveName "m" = "m.jmod" ∧ archiveName "n" = "n.jmod" := by decide
    simp only [sampleArchives, List.cons_append, List.nil_append, List.mem_cons, Prod.mk.injEq,
      List.cons.injEq, List.cons_ne_self, and_false, false_and, and_true, true_and,
      List.not_mem_nil, or_false, false_or] at hmem
    rcases hmem with ⟨rfl, -⟩ | ⟨rfl, -⟩
    · exact ⟨"m", by decide, hnames.1.symm⟩
    · exact ⟨"n", by decide, hnames.2.symm⟩
  archives module hmodule := by
    have hcases : module = "n" ∨ module = "m" := by simpa [sample] using hmodule
    rcases hcases with rfl | rfl
    · have hread : (Archive.ofBytes? sampleArchive.data).any (fun archive =>
          decide (archive.entries.map (fun entry =>
              (entry.name, entry.packed.read sampleArchive.data))
            = [("classes/p/T.class", .ok ⟨#[0x78]⟩)])) = true := by decide +kernel
      obtain ⟨archive, harchive, hentries⟩ := (Option.any_eq_true _ _).1 hread
      rw [decide_eq_true_eq] at hentries
      refine ⟨sampleArchive, false, archive, ?_, harchive,
        hasClasses_sample hentries fun path hpath => ?_⟩
      · rw [show archiveName "n" = "n.jmod" by decide]
        exact .tail _ (.tail _ (.head _))
      · by_cases hpath' : path = ["p", "T.class"]
        · rw [(intercalate_eq_sample hpath).2 hpath', hpath']
          rfl
        · have hne := mt (intercalate_eq_sample hpath).1 hpath'
          simp [sample, hpath', Ne.symm hne]
    · have hread : (Archive.ofBytes? emptyArchive.data).any (fun archive =>
          decide (archive.entries = [])) = true := by decide
      obtain ⟨archive, harchive, hentries⟩ := (Option.any_eq_true _ _).1 hread
      rw [decide_eq_true_eq] at hentries
      refine ⟨emptyArchive, false, archive, ?_, harchive,
        hasClasses_sample (congrArg _ hentries) fun path hpath => ?_⟩
      · rw [show archiveName "m" = "m.jmod" by decide]
        exact .tail _ (.head _)
      · simp [sample]

end ImageContents

/-- The class is found in both, after a search for the declarations that finds none. -/
theorem RuntimeImage.answers_exploded_eq_packaged_sample : ∃ exploded packaged,
    openExploded ImageContents.sampleFolders ⟨"x"⟩ = .ok exploded ∧
      openPackaged ImageContents.sampleArchives ⟨"y"⟩ = .ok packaged ∧
        exploded.answers ImageContents.sampleFolders
            [.infos, .find ["p", "T.class"] none fun _ => true]
          = packaged.answers ImageContents.sampleArchives
            [.infos, .find ["p", "T.class"] none fun _ => true] := by
  obtain ⟨exploded, packaged, hopen, hopen', hsame⟩ := answers_exploded_eq_packaged
    ImageContents.explodedAt_sample ImageContents.packagedAt_sample
  refine ⟨exploded, packaged, hopen, hopen', hsame _ fun question hquestion => ?_⟩
  rcases List.mem_pair.1 hquestion with rfl | rfl
  · exact trivial
  · exact ⟨by decide, fun _ hnone => nomatch hnone⟩

end MultiRelease
