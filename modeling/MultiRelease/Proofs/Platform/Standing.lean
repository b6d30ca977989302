import MultiRelease.Proofs.ClassFile.StubRoundTrip
import MultiRelease.Proofs.Files.Tree
import MultiRelease.Proofs.Platform.Shared
import MultiRelease.Proofs.Platform.SignatureFiles
import MultiRelease.Zip.Packing

/-!
# The standing of a release in a JDK

A JDK either does not know a release, or it marks the release as identical to the one that runs, or
it records the classes of the release in its symbol archive.  Which of these is the case depends on
the home of the JDK alone (`HasStanding`), and a release has one standing in a JDK
(`HasStanding.unique`).

`ReleaseClasses.existsUnique_standing` says that the classes of a release are served according to
its standing, for good and in every lookup (`ReleaseClasses.ServedAs`):

* those of an unknown release are unavailable, always for the same reason;
* those of the running release are the classes of the runtime image;
* recorded ones are found exactly if the archive has a signature file for them, and whatever the
  runtime image holds.

A release may be unknown for several reasons: it has no code, the archive does not open, or it has
no folder for the release.  The reasons differ in the errors that are reported and are therefore
told apart (`Standing.unknown`).

The session matters only through the archive that it gives.  It may have opened the archive under
another spelling of the home, so the one that serves the release and the one that would be opened
now are equal only up to the path for messages (`Session.exists_of_symbolArchive`).  That is enough,
since nothing else depends on the path (`ReleaseClasses.ReadFrom`).

There is a fourth case in the code: if no folder of the archive applied to the release, its classes
would be taken from the image.  It cannot arise, because the folder that makes a release recorded
applies to it (`SymbolArchive.isReleaseRoot_singleton`, `ReleaseClasses.loadType_symbols`).
-/

set_option autoImplicit false

namespace MultiRelease

open Text

/-- What a JDK knows about a release. -/
inductive Standing where
  | unknown (error : PlatformError)
  | running
  | recorded (archive : SymbolArchive) (code : Char)

/-- The standing of a release in the JDK with the given home. -/
inductive HasStanding (files : Files) (home : Path) (release : UInt16) : Standing → Prop
  | uncoded (hcode : releaseCode release = none) :
    HasStanding files home release (.unknown (.releaseNotFound release))
  | unopened {code : Char} {error : PlatformError} (hcode : releaseCode release = some code)
    (hopen : SymbolArchive.openHome files home = .error error) :
    HasStanding files home release (.unknown error)
  | absent {code : Char} {archive : SymbolArchive} (hcode : releaseCode release = some code)
    (hopen : SymbolArchive.openHome files home = .ok archive)
    (hfolder : String.singleton code ∉ archive.folders) :
    HasStanding files home release (.unknown (.releaseNotFound release))
  | running {code : Char} {archive : SymbolArchive} (hcode : releaseCode release = some code)
    (hopen : SymbolArchive.openHome files home = .ok archive)
    (hfolder : String.singleton code ∈ archive.folders)
    (hmarker : String.singleton code ++ "/" ++ systemModulesMarker
      ∈ archive.files ++ archive.folders) :
    HasStanding files home release .running
  | recorded {code : Char} {archive : SymbolArchive} (hcode : releaseCode release = some code)
    (hopen : SymbolArchive.openHome files home = .ok archive)
    (hfolder : String.singleton code ∈ archive.folders)
    (hmarker : String.singleton code ++ "/" ++ systemModulesMarker
      ∉ archive.files ++ archive.folders) :
    HasStanding files home release (.recorded archive code)

namespace ReleaseClasses

/-- The name of the signature file that stands for a class file. -/
def signatureFileName (name : String) : String :=
  (withoutSuffix? classSuffix name).getD name ++ signatureSuffix

/-- The classes are read from the symbol archive.  No type is found exactly if there is no signature
file; the image of the library is neither needed nor changed. -/
structure ReadFrom (files : Files) (classes : ReleaseClasses) (archive : SymbolArchive)
    (code : Char) : Prop where
  missing : ∀ library session name module accepts,
    (classes.loadType library files session name module accepts).1 = .ok none ↔
      ¬ archive.Records code (signatureFileName name) module
  sameResult : ∀ library library' session session' name module accepts accepts',
    library.rules = library'.rules →
      (classes.loadType library files session name module accepts).1
        = (classes.loadType library' files session' name module accepts').1
  sameLibrary : ∀ library session name module accepts,
    (classes.loadType library files session name module accepts).2.1 = library

/-- The classes are served in every lookup as the standing of their release has it. -/
def ServedAs (files : Files) (classes : ReleaseClasses) : Standing → Prop
  | .unknown error => ∀ library session name module accepts,
    (classes.loadType library files session name module accepts).1 = .error (.unavailable error)
  | .running => ∀ library session name module accepts,
    classes.loadType library files session name module accepts
      = PlatformLibrary.loadType library files session name module accepts
  | .recorded archive code => classes.ReadFrom files archive code

end ReleaseClasses

/-! ## Standings -/

theorem ne_slash_of_releaseCode {release : UInt16} {code : Char}
    (h : releaseCode release = some code) : code ≠ '/' := by
  have hcodes : ∀ number < 36, Char.ofNat (48 + number) ≠ '/' ∧ Char.ofNat (55 + number) ≠ '/' := by
    decide
  rw [releaseCode] at h
  split at h
  · rename_i hdigit
    have hlt : release.toNat < 10 := UInt16.lt_iff_toNat_lt.1 hdigit
    rw [← Option.some_inj.1 h]
    exact (hcodes _ (by omega)).1
  · split at h
    · rename_i hletter
      rw [← Option.some_inj.1 h]
      exact (hcodes _ (UInt16.lt_iff_toNat_lt.1 hletter)).2
    · cases h

variable {files : Files} {home : Path} {release : UInt16}

/-- A release has one standing in a JDK. -/
theorem HasStanding.unique {a b : Standing} (ha : HasStanding files home release a)
    (hb : HasStanding files home release b) : a = b := by
  cases ha <;> cases hb <;> simp_all

namespace SymbolArchive

theorem hasFolder_iff {archive : SymbolArchive} {path : String}
    (h : path.toList.getLast? ≠ some '/') :
    archive.hasFolder path = true ↔ path ∈ archive.folders := by
  have htrim : withoutTrailingSlashes path.toList = path.toList := by
    rw [withoutTrailingSlashes, List.reverse_eq_iff]
    cases hreverse : path.toList.reverse with
    | nil => rfl
    | cons last front =>
      rw [List.getLast?_eq_head?_reverse, hreverse, List.head?_cons] at h
      exact List.dropWhile_cons_of_neg (by simpa using h)
  rw [hasFolder, htrim, String.ofList_toList, List.contains_eq_mem, decide_eq_true_eq]

theorem exists?_iff {archive : SymbolArchive} {path : String}
    (h : path.toList.getLast? ≠ some '/') :
    archive.exists? path = true ↔ path ∈ archive.files ++ archive.folders := by
  rw [exists?, Bool.or_eq_true, hasFolder_iff h, hasFile, List.contains_eq_mem, decide_eq_true_eq,
    List.mem_append]

/-- The folder with the code of a release as its name applies to the release. -/
theorem isReleaseRoot_singleton {archive : SymbolArchive} {code : Char} (hcode : code ≠ '/')
    (h : String.singleton code ∈ archive.folders) :
    archive.IsReleaseRoot code (String.singleton code) where
  folder := h
  top := by simpa using hcode.symm
  classes := by
    rw [hasSuffix, String.toList_singleton, ← Bool.not_eq_true, List.isSuffixOf_iff_suffix]
    have hlength : legacyModulesSuffix.toList.length = 8 := by decide
    intro hending
    simpa [hlength] using hending.length_le
  applies := by simp

end SymbolArchive

/-- A session gives the archive that it would open now, up to the path for messages. -/
theorem Session.exists_of_symbolArchive {session : Session} (h : session.SameArchives files {})
    {archive : SymbolArchive} (hgiven : (session.symbolArchive files home).1 = .ok archive) :
    ∃ opened, SymbolArchive.openHome files home = .ok opened ∧
      archive.unplaced = opened.unplaced := by
  have hsame := h home
  rw [archiveFor, hgiven, archiveFor_eq] at hsame
  cases hopen : SymbolArchive.openHome files home with
  | error error => simp [hopen, Except.toOption] at hsame
  | ok opened => exact ⟨opened, rfl, by simpa [hopen, Except.toOption] using hsame⟩

theorem Session.openHome_of_symbolArchive {session : Session} {error : PlatformError}
    (hgiven : (session.symbolArchive files home).1 = .error error) :
    SymbolArchive.openHome files home = .error error := by
  rw [symbolArchive] at hgiven
  split at hgiven
  · cases hgiven
  · cases hopen : SymbolArchive.openHome files home with
    | error error => simpa [hopen] using hgiven
    | ok archive => simp [hopen] at hgiven

/-! ## Recorded classes -/

namespace ReleaseClasses

variable {archive : SymbolArchive} {code : Char} {place : Option String}

/-- Loading a type from the archive: the path is searched for, the file is read, and what it holds
is decoded. -/
theorem loadSymbols_fst (classes : ReleaseClasses) (library : PlatformLibrary) (session : Session)
    (name : String) (module : Option String) :
    (classes.loadSymbols library files session archive code name module).1
      = match archive.fullPath? code (signatureFileName name) module with
        | none => .ok none
        | some path =>
          match archive.fileBytes files path with
          | .error error => .error (.archive error)
          | .ok bytes =>
            match parseBinaryType bytes with
            | .error cause => .error (.malformed path cause)
            | .ok type => .ok (some (library.answer type
                (answerModule archive code (signatureFileName name) module)
                (.java classes.release))) := by
  rw [loadSymbols, ← signatureFileName]
  dsimp only
  cases archive.fullPath? code (signatureFileName name) module with
  | none => rfl
  | some path =>
    dsimp only
    cases archive.fileBytes files path with
    | error error => rfl
    | ok bytes =>
      dsimp only [Session.decode]
      cases parseBinaryType bytes <;> rfl

theorem loadSymbols_eq_ok_none_iff (classes : ReleaseClasses) (library : PlatformLibrary)
    (session : Session) (name : String) (module : Option String) :
    (classes.loadSymbols library files session archive code name module).1 = .ok none ↔
      archive.fullPath? code (signatureFileName name) module = none := by
  rw [loadSymbols_fst]
  cases archive.fullPath? code (signatureFileName name) module with
  | none => simp
  | some path =>
    dsimp only
    split
    · simp
    · split <;> simp

/-- Of the library, only the access rules matter to what the archive gives. -/
theorem loadSymbols_congr_rules (classes : ReleaseClasses) {library library' : PlatformLibrary}
    (h : library.rules = library'.rules) (session session' : Session) (name : String)
    (module : Option String) :
    (classes.loadSymbols library files session archive code name module).1
      = (classes.loadSymbols library' files session' archive code name module).1 := by
  simp only [loadSymbols_fst, PlatformLibrary.answer, h]

/-- Where there is a folder for the release, its classes are not looked for anywhere else. -/
theorem loadType_symbols (h : archive.releaseRoots code ≠ []) (library : PlatformLibrary)
    (session : Session) (name : String) (module : Option String) (accepts : String → Bool) :
    loadType ⟨release, .symbols archive code place⟩ library files session name module accepts
      = ((loadSymbols ⟨release, .symbols archive code place⟩ library files session archive code name
            module).1,
        library,
        (loadSymbols ⟨release, .symbols archive code place⟩ library files session archive code name
            module).2) := by
  rw [loadType]
  dsimp only
  rw [if_neg h]

theorem readFrom_symbols {opened : SymbolArchive} (hcomplete : opened.Complete)
    (hcode : code ≠ '/') (hfolder : String.singleton code ∈ opened.folders)
    (hsame : archive.unplaced = opened.unplaced) :
    ReadFrom files ⟨release, .symbols archive code place⟩ opened code := by
  have hroots : archive.releaseRoots code ≠ [] := by
    rw [SymbolArchive.congr_unplaced (f := (·.releaseRoots code)) (fun _ => rfl) hsame]
    exact List.ne_nil_of_mem
      (SymbolArchive.mem_releaseRoots.2 (SymbolArchive.isReleaseRoot_singleton hcode hfolder))
  constructor
  case missing =>
    intro library session name module accepts
    rw [loadType_symbols hroots, loadSymbols_eq_ok_none_iff,
      SymbolArchive.congr_unplaced (f := (·.fullPath? code (signatureFileName name) module))
        (fun _ => rfl) hsame,
      SymbolArchive.fullPath?_eq_none_iff hcomplete]
  case sameResult =>
    intro library library' session session' name module accepts accepts' hrules
    rw [loadType_symbols hroots, loadType_symbols hroots]
    exact loadSymbols_congr_rules _ hrules session session' name module
  case sameLibrary =>
    intro library session name module accepts
    rw [loadType_symbols hroots]

/-! ## Serving -/

/-- What an archive says about a release is its standing, also if the session has opened the archive
under another path. -/
theorem exists_standing_of_opened {library : PlatformLibrary} {opened : SymbolArchive}
    (hcode : releaseCode release = some code)
    (hopen : SymbolArchive.openHome files library.home = .ok opened)
    (hsame : archive.unplaced = opened.unplaced) :
    ∃ standing, HasStanding files library.home release standing ∧
      ServedAs files ⟨release, sourceIn archive library release code⟩ standing := by
  have hplain : (String.singleton code).toList.getLast? ≠ some '/' := by
    simpa using ne_slash_of_releaseCode hcode
  have hmarker : (String.singleton code ++ "/" ++ systemModulesMarker).toList.getLast?
      ≠ some '/' := by
    simp [String.toList_append, systemModulesMarker]
  rw [sourceIn, SymbolArchive.congr_unplaced (f := (·.hasFolder _)) (fun _ => rfl) hsame,
    SymbolArchive.congr_unplaced (f := (·.exists? _)) (fun _ => rfl) hsame]
  dsimp only
  split
  · rename_i hhas
    have hfolder := (SymbolArchive.hasFolder_iff hplain).1 hhas
    split
    · rename_i hmarked
      exact ⟨_, .running hcode hopen hfolder ((SymbolArchive.exists?_iff hmarker).1 hmarked),
        fun _ _ _ _ _ => rfl⟩
    · rename_i hunmarked
      exact ⟨_, .recorded hcode hopen hfolder (mt (SymbolArchive.exists?_iff hmarker).2 hunmarked),
        readFrom_symbols (SymbolArchive.complete_of_openHome hopen)
          (ne_slash_of_releaseCode hcode) hfolder hsame⟩
  · rename_i hlacks
    exact ⟨_, .absent hcode hopen (mt (SymbolArchive.hasFolder_iff hplain).2 hlacks),
      fun _ _ _ _ _ => rfl⟩

theorem exists_standing (library : PlatformLibrary) {session : Session}
    (hsession : session.SameArchives files {}) (release : UInt16) :
    ∃ standing, HasStanding files library.home release standing ∧
      (ofRelease library files session release).1.ServedAs files standing := by
  show ∃ standing, _ ∧
    ServedAs files ⟨release, (decideSource library files session release).1⟩ standing
  rw [decideSource]
  cases hcode : releaseCode release with
  | none => exact ⟨_, .uncoded hcode, fun _ _ _ _ _ => rfl⟩
  | some code =>
    dsimp only
    cases hgiven : session.symbolArchive files library.home with
    | mk given after =>
      have hfst : (session.symbolArchive files library.home).1 = given := by rw [hgiven]
      cases given with
      | error error =>
        exact ⟨_, .unopened hcode (Session.openHome_of_symbolArchive hfst), fun _ _ _ _ _ => rfl⟩
      | ok archive =>
        obtain ⟨opened, hopen, hsame⟩ := Session.exists_of_symbolArchive hsession hfst
        exact exists_standing_of_opened hcode hopen hsame

/-- **The classes of a release are served as its one standing in the JDK has it**, in every lookup,
if the session gives the symbol archives that it would open now. -/
theorem existsUnique_standing (library : PlatformLibrary) {session : Session}
    (hsession : session.SameArchives files {}) (release : UInt16) :
    ∃! standing, HasStanding files library.home release standing ∧
      (ofRelease library files session release).1.ServedAs files standing := by
  obtain ⟨standing, hstanding, hserved⟩ := exists_standing library hsession release
  exact ⟨standing, ⟨hstanding, hserved⟩, fun _ hother => hother.1.unique hstanding⟩

end ReleaseClasses

/-! ## A class that a release does not have -/

/-- The class of a JDK. -/
def sampleClass : Stub := { name := "T" }

/-- The file of a release that has another class. -/
def sampleEntry : NewEntry where
  name := "B/java.base/U.sig"
  data := ⟨#[]⟩
  method := PackedData.stored
  statedChecksum := 0

/-- A JDK with an exploded image, in which a module has the class, and with the symbols of a release
that does not have it. -/
def sampleJdk : Files where
  entries := [(["jdk"], .folder), (["jdk", "lib"], .folder),
    (["jdk", "lib", "ct.sym"], .file ⟨Archive.pack [sampleEntry]⟩ false),
    (["jdk", "lib", "jrt-fs.jar"], .file (.ofBytes []) false),
    (["jdk", "modules"], .folder), (["jdk", "modules", "java.base"], .folder),
    (["jdk", "modules", "java.base", "T.class"], .file (.ofBytes sampleClass.encode) false)]

/-- The platform library of the JDK. -/
def sampleLibrary : PlatformLibrary where
  archivePath := ⟨"jdk/lib/jrt-fs.jar"⟩
  home := ⟨"jdk"⟩
  image := some (.exploded ⟨"jdk/modules"⟩ ["java.base"])

theorem wellFormed_sampleJdk : sampleJdk.WellFormed :=
  Files.wellFormed_of_forall (by decide) (by decide)

theorem linkFree_sampleJdk : sampleJdk.LinkFree := Files.linkFree_of_forall (by decide)

theorem entry?_sampleJdk (names : List String) (text : String) {entry : FileEntry}
    (htext : "/".intercalate names = text) (hnames : names ≠ [])
    (hentry : sampleJdk.entryAt? names = some entry) :
    sampleJdk.resolve? ⟨text⟩ = some names ∧ sampleJdk.entry? ⟨text⟩ = some entry := by
  have hwf := wellFormed_sampleJdk
  have hlf := linkFree_sampleJdk
  rw [← htext]
  exact ⟨Files.resolve?_intercalate hwf hlf hnames hentry,
    Files.entry?_intercalate hwf hlf hnames hentry⟩

theorem openHome_sampleImage : RuntimeImage.openHome sampleJdk ⟨"jdk"⟩
    = .ok (.exploded ⟨"jdk/modules"⟩ ["java.base"]) := by
  have hfolder : Path.join ⟨"jdk"⟩ RuntimeImage.explodedFolder = ⟨"jdk/modules"⟩ := by
    decide
  have hchild : Path.child ⟨"jdk/modules"⟩ "java.base" = ⟨"jdk/modules/java.base"⟩ := by
    decide
  obtain ⟨hresolve, hentry⟩ := entry?_sampleJdk ["jdk", "modules"] "jdk/modules"
    (by decide) (by decide) rfl
  have hlist : sampleJdk.list? ⟨"jdk/modules"⟩ = some [("java.base", .folder)] := by
    rw [Files.list?, hresolve]
    rfl
  have hmodule := (entry?_sampleJdk ["jdk", "modules", "java.base"]
    "jdk/modules/java.base" (by decide) (by decide) rfl).2
  rw [RuntimeImage.openHome, hfolder, Files.isFolder, hentry]
  simp [RuntimeImage.openExploded, hlist, hchild, Files.isFolder, hmodule, FileEntry.isFolder]

theorem openArchive_sampleJdk :
    PlatformLibrary.openArchive sampleJdk ⟨"jdk/lib/jrt-fs.jar"⟩ none none
      = .ok sampleLibrary := by
  have hentry := (entry?_sampleJdk ["jdk", "lib", "jrt-fs.jar"]
    "jdk/lib/jrt-fs.jar" (by decide) (by decide) rfl).2
  have hhome : (Path.parent? ⟨"jdk/lib/jrt-fs.jar"⟩).bind Path.parent? = some ⟨"jdk"⟩ := by
    decide
  rw [PlatformLibrary.openArchive, Files.isFile, hentry, hhome]
  simp [FileEntry.isFile, openHome_sampleImage, Except.toOption, sampleLibrary]

/-- A platform library, for release 11. -/
def PlatformLibrary.forEleven (library : PlatformLibrary) : ReleaseLibrary where
  library
  option := "11"
  number := 11

theorem PlatformLibrary.openArchive_forEleven {files : Files} {path : Path}
    {library : PlatformLibrary} (h : openArchive files path none none = .ok library) :
    ReleaseLibrary.openArchive files path none none "11" = .ok library.forEleven := by
  have hoption : releaseOption "11" = .ok "11" := by decide
  have hnumber : complianceRelease "11" = .ok 11 := by decide
  rw [ReleaseLibrary.openArchive, hoption]
  dsimp only
  rw [hnumber, h]
  rfl

theorem parse_sampleClass : parseBinaryType sampleClass.encode = .ok sampleClass.type := by
  decide +kernel

/-- What the library has to say about the class. -/
def sampleAnswer : Answer :=
  sampleLibrary.answer sampleClass.type (some "java.base") .unversioned

theorem findClass_sampleJdk :
    RuntimeImage.findClass sampleJdk (.exploded ⟨"jdk/modules"⟩ ["java.base"]) "T.class" none
        (fun _ => true)
      = (.ok (some ⟨"java.base", sampleClass.encode⟩), .exploded ⟨"jdk/modules"⟩ ["java.base"]) := by
  have hpath : Path.child (Path.child ⟨"jdk/modules"⟩ "java.base") "T.class"
      = ⟨"jdk/modules/java.base/T.class"⟩ := by decide
  have hentry := (entry?_sampleJdk ["jdk", "modules", "java.base", "T.class"]
    "jdk/modules/java.base/T.class" (by decide) (by decide) rfl).2
  have hread : sampleJdk.read? ⟨"jdk/modules/java.base/T.class"⟩
      = some (.ofBytes sampleClass.encode) := by
    rw [Files.read?, hentry]
  simp [RuntimeImage.findClass, RuntimeImage.modules, RuntimeImage.firstClass,
    RuntimeImage.readClass, hpath, hread, Content.bytes_ofBytes]

theorem loadType_sampleLibrary (session : Session) :
    (sampleLibrary.loadType sampleJdk session "T.class" none fun _ => true).1
      = .ok (some sampleAnswer) := by
  rw [PlatformLibrary.loadType, sampleLibrary]
  simp only [findClass_sampleJdk, Session.decode, parse_sampleClass]
  rfl

/-- The class is the compiled file of a type `T` in the default package. -/
theorem qualifiedBinaryFileName_sample :
    (Query.inPackage "T" []).qualifiedBinaryFileName = "T.class" := by
  decide

/-- A lookup in the library that asks for no module finds the class. -/
theorem find_sampleLibrary (session : Session) {constraint : ModuleConstraint}
    (h : constraint.name? = none) :
    (sampleLibrary.find sampleJdk session (.inPackage "T" []) constraint).1 = some sampleAnswer := by
  rw [PlatformLibrary.find_fst, qualifiedBinaryFileName_sample, h]
  exact congrArg (Option.join ∘ Except.toOption) (loadType_sampleLibrary _)

theorem openArchive_eq_ok {path : Path} {file : OpenFile} {content : Content} {archive : Archive}
    (hopen : files.openFile? path = some file) (hcontent : files.contentOf? file = some content)
    (harchive : Archive.ofBytes? content.data = some archive) :
    files.openArchive path = .ok ⟨file, archive⟩ := by
  simp [Files.openArchive, hopen, hcontent, harchive]

theorem openHome_sampleJdk : ∃ opened : OpenArchive,
    SymbolArchive.openHome sampleJdk ⟨"jdk"⟩ = .ok (.ofArchive ⟨"jdk/lib/ct.sym"⟩ opened) ∧
      opened.archive.entries.map (·.name) = ["B/java.base/U.sig"] := by
  have hpath : Path.join ⟨"jdk"⟩ symbolArchivePath = ⟨"jdk/lib/ct.sym"⟩ := by decide
  have hresolve := (entry?_sampleJdk ["jdk", "lib", "ct.sym"] "jdk/lib/ct.sym"
    (by decide) (by decide) rfl).1
  have hread : (Archive.ofBytes? (Content.mk (Archive.pack [sampleEntry])).data).map
      (fun archive => archive.entries.map (·.name)) = some ["B/java.base/U.sig"] := by
    decide +kernel
  obtain ⟨archive, harchive, hnames⟩ := Option.map_eq_some_iff.1 hread
  have hopen : sampleJdk.openFile? ⟨"jdk/lib/ct.sym"⟩ = some ⟨["jdk", "lib", "ct.sym"], 0⟩ := by
    rw [Files.openFile?, hresolve]
    rfl
  refine ⟨⟨⟨["jdk", "lib", "ct.sym"], 0⟩, archive⟩, ?_, hnames⟩
  rw [SymbolArchive.openHome, hpath, SymbolArchive.openFile, openArchive_eq_ok hopen rfl harchive]

theorem hasStanding_sampleJdk :
    ∃ archive, HasStanding sampleJdk ⟨"jdk"⟩ 11 (.recorded archive 'B') ∧
      ∀ module, ¬ archive.Records 'B' "T.sig" module := by
  obtain ⟨opened, hopen, hnames⟩ := openHome_sampleJdk
  have hindexed : opened.archive.entries.map (fun entry => SymbolArchive.indexName entry.name)
      = [(["B/java.base/U.sig"], ["B", "B/java.base"])] := by
    have hmap := congrArg (List.map SymbolArchive.indexName) hnames
    rw [List.map_map] at hmap
    exact hmap.trans (by decide)
  have hfiles : ∀ path, path ∈ (SymbolArchive.ofArchive ⟨"jdk/lib/ct.sym"⟩ opened).files ↔
      path = "B/java.base/U.sig" := fun path => by
    rw [SymbolArchive.ofArchive, hindexed]
    simp [mem_sortedTexts]
  have hfolders : ∀ path, path ∈ (SymbolArchive.ofArchive ⟨"jdk/lib/ct.sym"⟩ opened).folders ↔
      path = "B" ∨ path = "B/java.base" := fun path => by
    rw [SymbolArchive.ofArchive, hindexed]
    simp [mem_sortedTexts]
  refine ⟨_, .recorded (by decide) hopen ((hfolders _).2 (.inl (by decide))) ?_, ?_⟩
  · rw [List.mem_append, hfiles, hfolders]
    decide
  · rintro module ⟨root, -, hholds⟩
    have hother : ∀ front, front ++ "T.sig" ∉
        (SymbolArchive.ofArchive ⟨"jdk/lib/ct.sym"⟩ opened).files := fun front hmem => by
      have hending := String.toList_append ▸ congrArg String.toList ((hfiles _).1 hmem)
      exact absurd ⟨front.toList, hending⟩
        (by decide : ¬ "T.sig".toList <:+ "B/java.base/U.sig".toList)
    unfold SymbolArchive.Holds at hholds
    split at hholds
    · cases module with
      | some module => exact hother (root ++ "/" ++ module ++ "/") hholds
      | none =>
        obtain ⟨module, -, hmem⟩ := hholds
        exact hother (root ++ "/" ++ module ++ "/") hmem
    · exact hother (root ++ "/") hholds

/-- The class is not found where the classes of the release are served as its standing has it. -/
theorem loadType_of_servedAs {classes : ReleaseClasses} {standing : Standing}
    (hstanding : HasStanding sampleJdk ⟨"jdk"⟩ 11 standing)
    (hserved : classes.ServedAs sampleJdk standing) (library : PlatformLibrary)
    (session : Session) :
    (classes.loadType library sampleJdk session "T.class" none fun _ => true).1 = .ok none := by
  obtain ⟨archive, hrecorded, hmissing⟩ := hasStanding_sampleJdk
  obtain rfl := hstanding.unique hrecorded
  have hname : ReleaseClasses.signatureFileName "T.class" = "T.sig" := by decide
  exact (hserved.missing library session "T.class" none _).2 (hname ▸ hmissing none)

/-- A lookup in the library of release 11 does not find the class. -/
theorem find_unversioned_sampleLibrary : (sampleLibrary.forEleven.find sampleJdk {}
    (.inPackage "T" []) .any .unversioned).1 = none := by
  obtain ⟨standing, hstanding, hserved⟩ :=
    ReleaseClasses.exists_standing sampleLibrary (.refl {}) 11
  rw [ReleaseLibrary.find_unversioned, ReleaseLibrary.loadFor, qualifiedBinaryFileName_sample]
  exact congrArg (Option.join ∘ Except.toOption) (loadType_of_servedAs hstanding hserved _ _)

/-- The class of the running JDK is not found for a release that is recorded without it. -/
theorem existsUnique_standing_sample :
    PlatformLibrary.openArchive sampleJdk ⟨"jdk/lib/jrt-fs.jar"⟩ none none = .ok sampleLibrary ∧
      (sampleLibrary.loadType sampleJdk {} "T.class" none fun _ => true).1
        = .ok (some sampleAnswer) ∧
      ((ReleaseClasses.ofRelease sampleLibrary sampleJdk {} 11).1.loadType sampleLibrary sampleJdk
        {} "T.class" none fun _ => true).1 = .ok none := by
  refine ⟨openArchive_sampleJdk, loadType_sampleLibrary {}, ?_⟩
  have hsession : ({} : Session).SameArchives sampleJdk {} := .refl {}
  obtain ⟨standing, ⟨hstanding, hserved⟩, -⟩ :=
    ReleaseClasses.existsUnique_standing sampleLibrary hsession 11
  exact loadType_of_servedAs hstanding hserved sampleLibrary {}

end MultiRelease
