import MultiRelease.Proofs.Platform.OwningModule
import MultiRelease.Proofs.Platform.Standing

/-!
# Lookups in accepted modules

A lookup of a platform class that names no module says which modules it accepts.  The runtime image
obeys: it answers with the first accepted module that has the class, and what other modules hold
makes no difference (`RuntimeImage.findClass_eq_ok_some_iff`).  The search goes through the accepted
modules in order and ends at the first that has the class, if all before it can be read
(`RuntimeImage.firstClass_eq_ok_some_iff`, by induction on the modules that are left).  Searching
may open archives, but that does not change what is found (`RuntimeImage.firstClass_cons_fst`).

Not so the symbol archive, which searches all modules of a release alike.
`ReleaseClasses.loadType_accepted` states both, for the classes of a release wherever they come
from:

* if the classes come from the archive, the answer is put down to the module that the archive has
  the class in, accepted or not;
* otherwise the answer is the class of the first accepted module of the image that has it, so that
  no module hides it that is not accepted.

`ReleaseClasses.exists_answer_of_rejected_module` shows how the search in the archive goes wrong:
the class of a module that is not accepted hides that of one that is.  The JDK for this has two
modules with a class of one name, and the module that is not accepted stands in the folder that is
searched first (`twiceJdk`).
-/

set_option autoImplicit false

namespace MultiRelease

variable {files : Files} {name : String} {accepts : String → Bool}

/-! ## The runtime image -/

namespace RuntimeImage

variable {image : RuntimeImage} {found : ImageClass}

/-- The search in one module after the other.  That an image was used makes no difference. -/
theorem firstClass_cons_fst (image : RuntimeImage) (name module : String) (modules : List String) :
    (firstClass files image name (module :: modules)).1
      = match (readClass files image module name).1 with
        | .ok (some bytes) => .ok (some ⟨module, bytes⟩)
        | .ok none => (firstClass files image name modules).1
        | .error error => .error error := by
  have hused := (firstClass_congr name modules (shown_readClass files image module name)).1
  rw [firstClass]
  cases hread : readClass files image module name with
  | mk result used =>
    rw [hread] at hused
    cases result with
    | error error => rfl
    | ok bytes =>
      cases bytes with
      | none => exact hused
      | some bytes => rfl

/-- The search ends at the first module that has the class, if all before it can be read. -/
theorem firstClass_eq_ok_some_iff {modules : List String} :
    (firstClass files image name modules).1 = .ok (some found) ↔
      ∃ before after, modules = before ++ found.module :: after ∧
        (∀ other ∈ before, (readClass files image other name).1 = .ok none) ∧
        (readClass files image found.module name).1 = .ok (some found.bytes) := by
  induction modules with
  | nil => simp [firstClass]
  | cons module modules ih =>
    rw [firstClass_cons_fst]
    constructor
    · intro h
      split at h
      · rename_i bytes hread
        obtain rfl := Option.some_inj.1 (Except.ok.inj h)
        exact ⟨[], modules, rfl, fun _ hnone => absurd hnone List.not_mem_nil, hread⟩
      · rename_i hread
        obtain ⟨before, after, rfl, hbefore, hfound⟩ := ih.1 h
        exact ⟨module :: before, after, rfl, List.forall_mem_cons.2 ⟨hread, hbefore⟩, hfound⟩
      · cases h
    · rintro ⟨before, after, hmodules, hbefore, hfound⟩
      rcases List.cons_eq_append_iff.1 hmodules with ⟨rfl, heq⟩ | ⟨before, rfl, rfl⟩
      · obtain ⟨rfl, rfl⟩ := List.cons.inj heq
        rw [hfound]
      · obtain ⟨hread, hbefore⟩ := List.forall_mem_cons.1 hbefore
        rw [hread]
        exact ih.2 ⟨before, after, rfl, hbefore, hfound⟩

/-- What is found is the class of an accepted module, and no accepted module before that one has the
class.  What other modules hold does not matter. -/
structure IsFirstAccepted (files : Files) (image : RuntimeImage) (name : String)
    (accepts : String → Bool) (found : ImageClass) : Prop where
  accepted : accepts found.module = true
  holds : (image.readClass files found.module name).1 = .ok (some found.bytes)
  first : ∃ before after, image.modules = before ++ found.module :: after ∧
    ∀ other ∈ before, accepts other = true → (image.readClass files other name).1 = .ok none

/-- **A runtime image gives the class of the first accepted module that has it.** -/
theorem findClass_eq_ok_some_iff :
    (image.findClass files name none accepts).1 = .ok (some found) ↔
      image.IsFirstAccepted files name accepts found := by
  rw [findClass, firstClass_eq_ok_some_iff]
  constructor
  · rintro ⟨before, after, hmodules, hbefore, hfound⟩
    obtain ⟨front, back, hparts, hfront, hback⟩ := List.filter_eq_append_iff.1 hmodules
    obtain ⟨passed, behind, rfl, hpassed, haccepted, -⟩ := List.filter_eq_cons_iff.1 hback
    refine ⟨haccepted, hfound, front ++ passed, behind, by simp [hparts], ?_⟩
    intro other hother hacceptsOther
    rcases List.mem_append.1 hother with hother | hother
    · exact hbefore other (hfront ▸ List.mem_filter.2 ⟨hother, hacceptsOther⟩)
    · exact absurd hacceptsOther (hpassed other hother)
  · rintro ⟨haccepted, hfound, before, after, hmodules, hbefore⟩
    refine ⟨before.filter accepts, after.filter accepts, ?_, ?_, hfound⟩
    · rw [hmodules, List.filter_append, List.filter_cons_of_pos haccepted]
    · intro other hother
      obtain ⟨hmember, hacceptsOther⟩ := List.mem_filter.1 hother
      exact hbefore other hmember hacceptsOther

end RuntimeImage

theorem PlatformLibrary.loadType_eq_ok_some_iff {library : PlatformLibrary} {session : Session}
    {module : Option String} {answer : Answer} :
    (library.loadType files session name module accepts).1 = .ok (some answer) ↔
      ∃ image found type, library.image = some image ∧
        (image.findClass files name module accepts).1 = .ok (some found) ∧
        parseBinaryType found.bytes = .ok type ∧
        answer = library.answer type (some found.module) .unversioned := by
  refine ⟨exists_of_loadType, ?_⟩
  rintro ⟨image, found, type, himage, hfound, hparse, rfl⟩
  cases hsearch : image.findClass files name module accepts with
  | mk result used =>
    rw [hsearch] at hfound
    obtain rfl : result = .ok (some found) := hfound
    simp only [loadType, himage, hsearch, Session.decode, hparse]
    rfl

/-! ## The classes of a release -/

namespace ReleaseClasses

variable {classes : ReleaseClasses} {library : PlatformLibrary} {session : Session}

/-- The classes are read from the symbol archive, under the code of their release. -/
def ReadsArchive (classes : ReleaseClasses) (archive : SymbolArchive) (code : Char) : Prop :=
  (∃ place, classes.source = .symbols archive code place) ∧ archive.releaseRoots code ≠ []

/-- The classes are those of the runtime image. -/
def ReadsImage (classes : ReleaseClasses) : Prop :=
  classes.source = .runtimeImage ∨
    ∃ archive code place, classes.source = .symbols archive code place ∧
      archive.releaseRoots code = []

theorem loadType_of_readsImage (h : classes.ReadsImage) (module : Option String) :
    classes.loadType library files session name module accepts
      = library.loadType files session name module accepts := by
  rcases h with hsource | ⟨archive, code, place, hsource, hroots⟩
  · simp only [loadType, hsource]
  · simp only [loadType, hsource, hroots, if_true]

/-- What is found in the archive is put down to the module that the archive has it in. -/
theorem moduleName_of_readsArchive {archive : SymbolArchive} {code : Char}
    (h : classes.ReadsArchive archive code) {answer : Answer}
    (hload : (classes.loadType library files session name none accepts).1 = .ok (some answer)) :
    answer.moduleName = archive.moduleOf? code (signatureFileName name) := by
  obtain ⟨release, source⟩ := classes
  obtain ⟨⟨place, rfl⟩, hroots⟩ := h
  rw [loadType_symbols hroots, loadSymbols_fst] at hload
  split at hload
  · cases hload
  · split at hload
    · cases hload
    · split at hload
      · cases hload
      · rw [← Option.some_inj.1 (Except.ok.inj hload)]
        rfl

/-- **A lookup in accepted modules** is answered from an accepted module, or from the symbol
archive, and then from whichever module the archive has the class in.  From the runtime image it is
answered with the class of the first accepted module that has it: no other module hides that. -/
theorem loadType_accepted (files : Files) (classes : ReleaseClasses) (library : PlatformLibrary)
    (session : Session) (name : String) (accepts : String → Bool) :
    (∀ answer module,
      (classes.loadType library files session name none accepts).1 = .ok (some answer) →
      answer.moduleName = some module →
      accepts module = true ∨ ∃ archive code, classes.ReadsArchive archive code ∧
        archive.moduleOf? code (signatureFileName name) = some module) ∧
    (classes.ReadsImage → ∀ answer,
      (classes.loadType library files session name none accepts).1 = .ok (some answer) ↔
        ∃ image found type, library.image = some image ∧
          image.IsFirstAccepted files name accepts found ∧
          parseBinaryType found.bytes = .ok type ∧
          answer = library.answer type (some found.module) .unversioned) := by
  have himage : classes.ReadsImage → ∀ answer,
      (classes.loadType library files session name none accepts).1 = .ok (some answer) ↔
        ∃ image found type, library.image = some image ∧
          image.IsFirstAccepted files name accepts found ∧
          parseBinaryType found.bytes = .ok type ∧
          answer = library.answer type (some found.module) .unversioned := by
    intro hreads answer
    rw [loadType_of_readsImage hreads, PlatformLibrary.loadType_eq_ok_some_iff]
    simp only [RuntimeImage.findClass_eq_ok_some_iff]
  refine ⟨fun answer module hload hmodule => ?_, himage⟩
  have haccepted : classes.ReadsImage → accepts module = true := by
    intro hreads
    obtain ⟨_, found, _, -, hfirst, -, rfl⟩ := (himage hreads answer).1 hload
    obtain rfl : found.module = module := Option.some_inj.1 hmodule
    exact hfirst.accepted
  cases hsource : classes.source with
  | unavailable error => simp [loadType, hsource] at hload
  | runtimeImage => exact .inl (haccepted (.inl hsource))
  | symbols archive code place =>
    by_cases hroots : archive.releaseRoots code = []
    · exact .inl (haccepted (.inr ⟨archive, code, place, hsource, hroots⟩))
    · have hreads : classes.ReadsArchive archive code := ⟨⟨place, hsource⟩, hroots⟩
      exact .inr ⟨archive, code, hreads, moduleName_of_readsArchive hreads hload ▸ hmodule⟩

/-- The module of the running JDK is accepted by its name. -/
theorem loadType_accepted_sample :
    (loadType ⟨11, .runtimeImage⟩ sampleLibrary sampleJdk {} "T.class" none (· = "java.base")).1
      = .ok (some sampleAnswer) := by
  have hany := RuntimeImage.findClass_eq_ok_some_iff.1 (congrArg Prod.fst findClass_sampleJdk)
  refine ((loadType_accepted sampleJdk ⟨11, .runtimeImage⟩ sampleLibrary {} "T.class"
    (· = "java.base")).2 (.inl rfl) _).2 ⟨_, _, _, rfl, ⟨by decide, hany.holds, ?_⟩,
      parse_sampleClass, rfl⟩
  exact ⟨[], [], rfl, fun _ hnone => absurd hnone List.not_mem_nil⟩

end ReleaseClasses

/-! ## A class in two modules of a release -/

theorem SymbolArchive.fileBytes_eq_ok {archive : SymbolArchive} {path : String}
    {entry : ArchiveEntry} {content : Content} {data : ByteArray}
    (hentry : archive.content.archive.entry? path = some entry)
    (hcontent : files.contentOf? archive.content.file = some content)
    (hread : entry.packed.read content.data = .ok data) :
    archive.fileBytes files path = .ok data.data.toList := by
  simp [fileBytes, OpenArchive.read, hentry, hcontent, hread]

/-- The class in a module of the release. -/
def twiceEntry (path : String) : NewEntry where
  name := path
  data := ⟨sampleClass.encode.toArray⟩
  method := PackedData.stored

/-- The symbols of a release in which two modules have the class. -/
def twiceSymbols : Content := ⟨Archive.pack [twiceEntry "9B/z/T.sig", twiceEntry "B/a/T.sig"]⟩

/-- A JDK with these symbols. -/
def twiceJdk : Files where
  entries := [(["jdk"], .folder), (["jdk", "lib"], .folder),
    (["jdk", "lib", "ct.sym"], .file twiceSymbols false),
    (["jdk", "lib", "jrt-fs.jar"], .file (.ofBytes []) false)]

/-- The platform library of the JDK, which has no runtime image. -/
def twiceLibrary : PlatformLibrary where
  archivePath := ⟨"jdk/lib/jrt-fs.jar"⟩
  home := ⟨"jdk"⟩
  image := none

theorem wellFormed_twiceJdk : twiceJdk.WellFormed :=
  Files.wellFormed_of_forall (by decide) (by decide)

theorem linkFree_twiceJdk : twiceJdk.LinkFree := Files.linkFree_of_forall (by decide)

theorem isFolder_twiceJdk {name : String} (hname : ProperName name)
    (hmissing : twiceJdk.entryAt? ["jdk", name] = none) :
    twiceJdk.isFolder (Path.join ⟨"jdk"⟩ ⟨name⟩) = false := by
  have hleads : twiceJdk.Leads ["jdk"] ⟨"jdk"⟩ [] :=
    Files.leads_name wellFormed_twiceJdk linkFree_twiceJdk rfl
  have hnone := (hleads.child hname).entry?_eq_none linkFree_twiceJdk
    (List.forall_mem_singleton.2 hname) hmissing
  rw [Path.child] at hnone
  rw [Files.isFolder, hnone]
  rfl

theorem openArchive_twiceJdk :
    PlatformLibrary.openArchive twiceJdk ⟨"jdk/lib/jrt-fs.jar"⟩ none none
      = .ok twiceLibrary := by
  have hpath : "/".intercalate ["jdk", "lib", "jrt-fs.jar"] = "jdk/lib/jrt-fs.jar" := by
    decide
  have hfile : twiceJdk.isFile ⟨"/".intercalate ["jdk", "lib", "jrt-fs.jar"]⟩ = true :=
    Files.isFile_intercalate wellFormed_twiceJdk linkFree_twiceJdk (by decide) rfl
  have hhome : (Path.parent? ⟨"jdk/lib/jrt-fs.jar"⟩).bind Path.parent? = some ⟨"jdk"⟩ := by
    decide
  have hexploded : twiceJdk.isFolder (Path.join ⟨"jdk"⟩ RuntimeImage.explodedFolder) = false :=
    isFolder_twiceJdk (by decide) rfl
  have hpackaged : twiceJdk.isFolder (Path.join ⟨"jdk"⟩ RuntimeImage.packagedFolder) = false :=
    isFolder_twiceJdk (by decide) rfl
  rw [hpath] at hfile
  rw [PlatformLibrary.openArchive, if_pos hfile, hhome]
  simp [RuntimeImage.openHome, hexploded, hpackaged, Except.toOption, twiceLibrary]

theorem exists_twiceArchive : ∃ archive, Archive.ofBytes? twiceSymbols.data = some archive ∧
    archive.entries.map (·.name) = ["9B/z/T.sig", "B/a/T.sig"] ∧
    ∀ path ∈ ["9B/z/T.sig", "B/a/T.sig"], ∃ entry, archive.entry? path = some entry ∧
      entry.packed.read twiceSymbols.data = .ok ⟨sampleClass.encode.toArray⟩ := by
  have hread : (Archive.ofBytes? twiceSymbols.data).any (fun archive =>
      decide (archive.entries.map (·.name) = ["9B/z/T.sig", "B/a/T.sig"]) &&
        ["9B/z/T.sig", "B/a/T.sig"].all fun path => (archive.entry? path).any fun entry =>
          decide (entry.packed.read twiceSymbols.data = .ok ⟨sampleClass.encode.toArray⟩))
        = true := by decide +kernel
  obtain ⟨archive, harchive, hfound⟩ := (Option.any_eq_true _ _).1 hread
  rw [Bool.and_eq_true, decide_eq_true_eq, List.all_eq_true] at hfound
  refine ⟨archive, harchive, hfound.1, fun path hpath => ?_⟩
  obtain ⟨entry, hentry, hdata⟩ := (Option.any_eq_true _ _).1 (hfound.2 path hpath)
  exact ⟨entry, hentry, of_decide_eq_true hdata⟩

/-- The index of the symbols. -/
def twiceIndex (archive : Archive) : SymbolArchive where
  path := ⟨"jdk/lib/ct.sym"⟩
  content := ⟨⟨["jdk", "lib", "ct.sym"], 0⟩, archive⟩
  files := ["9B/z/T.sig", "B/a/T.sig"]
  folders := ["9B", "9B/z", "B", "B/a"]

theorem openHome_twiceJdk {archive : Archive}
    (harchive : Archive.ofBytes? twiceSymbols.data = some archive)
    (hnames : archive.entries.map (·.name) = ["9B/z/T.sig", "B/a/T.sig"]) :
    SymbolArchive.openHome twiceJdk ⟨"jdk"⟩ = .ok (twiceIndex archive) := by
  have hjoin : Path.join ⟨"jdk"⟩ symbolArchivePath = ⟨"jdk/lib/ct.sym"⟩ := by decide
  have hpath : "/".intercalate ["jdk", "lib", "ct.sym"] = "jdk/lib/ct.sym" := by decide
  have hresolve : twiceJdk.resolve? ⟨"/".intercalate ["jdk", "lib", "ct.sym"]⟩
      = some ["jdk", "lib", "ct.sym"] :=
    Files.resolve?_intercalate wellFormed_twiceJdk linkFree_twiceJdk (by decide) rfl
  have hopen : twiceJdk.openFile? ⟨"jdk/lib/ct.sym"⟩ = some ⟨["jdk", "lib", "ct.sym"], 0⟩ := by
    rw [Files.openFile?, ← hpath, hresolve]
    rfl
  rw [SymbolArchive.openHome, hjoin, SymbolArchive.openFile,
    openArchive_eq_ok hopen rfl harchive]
  exact congrArg _ (SymbolArchive.ofArchive_two _ hnames)

theorem ReleaseClasses.ofRelease_twiceJdk {archive : Archive}
    (hhome : SymbolArchive.openHome twiceJdk ⟨"jdk"⟩ = .ok (twiceIndex archive)) :
    ∃ place, (ofRelease twiceLibrary twiceJdk {} 11).1
      = ⟨11, .symbols (twiceIndex archive) 'B' place⟩ := by
  have hcode : releaseCode 11 = some 'B' := by decide
  have hfolder : (twiceIndex archive).hasFolder (String.singleton 'B') = true := by
    rw [SymbolArchive.hasFolder, twiceIndex]
    dsimp only
    decide
  have hmarker : (twiceIndex archive).exists?
      (String.singleton 'B' ++ "/" ++ systemModulesMarker) = false := by
    rw [SymbolArchive.exists?, SymbolArchive.hasFile, SymbolArchive.hasFolder, twiceIndex]
    dsimp only
    decide
  show ∃ place, (⟨11, (decideSource twiceLibrary twiceJdk {} 11).1⟩ : ReleaseClasses) = _
  rw [decideSource, hcode]
  simp only [Session.symbolArchive, twiceLibrary, List.find?_nil, hhome, sourceIn, hfolder, hmarker]
  exact ⟨_, rfl⟩

/-- In the archive, a lookup that names no module finds the class in module `z`, and a lookup in
module `a` the class there, whichever modules are accepted. -/
theorem ReleaseClasses.exists_loadType_twiceJdk {module : Option String}
    (hmodule : module = none ∨ module = some "a") (library : PlatformLibrary) (session : Session)
    (accepts : String → Bool) :
    ∃ answer, ((ofRelease twiceLibrary twiceJdk {} 11).1.loadType library twiceJdk session "T.class"
        module accepts).1 = .ok (some answer) ∧ answer.moduleName = some (module.getD "z") := by
  obtain ⟨archive, harchive, hnames, hentries⟩ := exists_twiceArchive
  have hname : signatureFileName "T.class" = "T.sig" := by decide
  have hbytes : ∀ path ∈ ["9B/z/T.sig", "B/a/T.sig"],
      (twiceIndex archive).fileBytes twiceJdk path = .ok sampleClass.encode := by
    intro path hpath
    obtain ⟨entry, hentry, hread⟩ := hentries path hpath
    exact SymbolArchive.fileBytes_eq_ok hentry rfl hread
  have hroots : (twiceIndex archive).releaseRoots 'B' ≠ [] := by
    show ["9B", "B"] ≠ []
    decide
  obtain ⟨place, hclasses⟩ := ofRelease_twiceJdk (openHome_twiceJdk harchive hnames)
  rw [hclasses, loadType_symbols hroots, loadSymbols_fst, hname]
  rcases hmodule with rfl | rfl
  · have hpath : (twiceIndex archive).fullPath? 'B' "T.sig" none = some "9B/z/T.sig" := by rfl
    have hmodule : (twiceIndex archive).moduleOf? 'B' "T.sig" = some "z" := by rfl
    simp only [hpath, hbytes _ List.mem_cons_self, parse_sampleClass]
    exact ⟨_, rfl, hmodule⟩
  · have hpath : (twiceIndex archive).fullPath? 'B' "T.sig" (some "a") = some "B/a/T.sig" := by rfl
    simp only [hpath, hbytes _ (List.mem_cons_of_mem _ List.mem_cons_self), parse_sampleClass]
    exact ⟨_, rfl, rfl⟩

/-- **The symbol archive answers from a module that is not accepted**, and the class of the accepted
module, which a lookup in this module finds, stays hidden. -/
theorem ReleaseClasses.exists_answer_of_rejected_module :
    ∃ answer hidden,
      ((ofRelease twiceLibrary twiceJdk {} 11).1.loadType twiceLibrary twiceJdk {} "T.class" none
          (· = "a")).1 = .ok (some answer) ∧ answer.moduleName = some "z" ∧
      ((ofRelease twiceLibrary twiceJdk {} 11).1.loadType twiceLibrary twiceJdk {} "T.class"
          (some "a") (· = "a")).1 = .ok (some hidden) := by
  obtain ⟨answer, hanswer, hmodule⟩ :=
    exists_loadType_twiceJdk (.inl rfl) twiceLibrary {} (· = "a")
  obtain ⟨hidden, hhidden, -⟩ := exists_loadType_twiceJdk (.inr rfl) twiceLibrary {} (· = "a")
  exact ⟨answer, hidden, hanswer, hmodule, hhidden⟩

end MultiRelease
