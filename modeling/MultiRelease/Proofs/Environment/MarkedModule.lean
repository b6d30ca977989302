import MultiRelease.Proofs.ClassFile.Storage
import MultiRelease.Proofs.Environment.AskedModule
import MultiRelease.Proofs.Location.ClassFiles

/-!
# The module that a type is marked with

An answer with a compiled type names a module in two places: the answer itself says which module it
was found in, and the type has a mark for the module that it was loaded from.  The decoder leaves
the mark open (`moduleName_of_parseBinaryType`), so it is up to whoever loads a type to set it.
That no step of the decoder sets it is shown by one rule for all its steps: what holds of all
results of the last step holds of the results (`Decoder.Yields.bind`).

The platform does, in each of its forms: the runtime image (`PlatformLibrary.isMarked_of_loadType`),
and the symbol archive in both layouts (`ReleaseClasses.isMarked_of_loadType`).  In the older layout
the module of a class may not be known, and then both places are empty.  Folders put the module that
they belong to down in the answer and leave the type as it was decoded
(`ClassFolder.isUnmarkedIn_of_ownAnswer`, `SourceRoot.isUnmarkedIn_of_ownAnswer`).

`Environment.mark_of_find` is what this means for a classpath: the two places agree exactly for
answers of the platform and of folders that belong to no module.  A folder that belongs to a module
and has a class is all that is needed for an answer in which they do not
(`Environment.exists_answer_without_mark`).
-/

set_option autoImplicit false

namespace MultiRelease

open ClassFile ClassFile.Decoder

/-! ## The decoder -/

namespace ClassFile.Decoder

variable {α β : Type}

/-- All results of a decoder have a property. -/
def Yields (decoder : Decoder α) (holds : α → Prop) : Prop :=
  ∀ input value rest, decoder input = .ok (value, rest) → holds value

theorem Yields.pure {holds : α → Prop} {value : α} (h : holds value) :
    Yields (pure value) holds := by
  intro input result rest hread
  obtain ⟨rfl, -⟩ := pure_eq_ok_iff.1 hread
  exact h

/-- What holds of all results of the last step holds of the results. -/
theorem Yields.bind {holds : β → Prop} {first : Decoder α} {next : α → Decoder β}
    (h : ∀ a, Yields (next a) holds) : Yields (first >>= next) holds := by
  intro input result rest hread
  obtain ⟨a, middle, -, hnext⟩ := bind_eq_ok_iff.1 hread
  exact h a middle result rest hnext

end ClassFile.Decoder

theorem ClassFile.decodeClass_yields : decodeClass.Yields fun type => type.moduleName = none := by
  have hbody : ∀ version pool,
      (decodeBody version pool).Yields fun type => type.moduleName = none := fun version pool =>
    .bind fun flags => .bind fun thisIndex => .bind fun superIndex =>
      .bind fun interfaces => .bind fun fields => .bind fun methods => .bind fun modules =>
      .bind fun name => .bind fun superName => .pure rfl
  rw [decodeClass_eq]
  exact .bind fun _ => .bind fun minor => .bind fun version => .bind fun pool => hbody version pool

variable {files : Files} {session : Session} {name : String} {accepts : String → Bool}
  {module : Option String} {answer : Answer} {type : BinaryType}

/-- **A decoded type is not marked with a module.** -/
theorem moduleName_of_parseBinaryType {bytes : List UInt8}
    (h : parseBinaryType bytes = .ok type) : type.moduleName = none := by
  obtain ⟨rest, hread⟩ := run_eq_ok_iff.1 h
  exact decodeClass_yields bytes type rest hread

/-! ## The platform -/

/-- The type in an answer, if there is one, is marked with the module of the answer. -/
def Answer.IsMarked (answer : Answer) : Prop :=
  ∀ type, answer.kind = .binary type → type.moduleName = answer.moduleName

/-- What the platform makes of a decoded type is marked. -/
theorem PlatformLibrary.isMarked_answer {bytes : List UInt8}
    (h : parseBinaryType bytes = .ok type) (library : PlatformLibrary) (release : Release) :
    (library.answer type module release).IsMarked := by
  intro marked hkind
  obtain rfl := AnswerKind.binary.inj hkind
  cases module with
  | none => exact moduleName_of_parseBinaryType h
  | some module => rfl

theorem PlatformLibrary.isMarked_of_loadType {library : PlatformLibrary}
    (h : (library.loadType files session name module accepts).1 = .ok (some answer)) :
    answer.IsMarked := by
  obtain ⟨image, found, type, -, -, hparse, rfl⟩ := exists_of_loadType h
  exact isMarked_answer hparse library .unversioned

theorem PlatformLibrary.isMarked_of_find {library : PlatformLibrary} {query : Query}
    {constraint : ModuleConstraint}
    (h : (library.find files session query constraint).1 = some answer) : answer.IsMarked := by
  rw [find] at h
  split at h
  · rename_i hload
    obtain rfl : _ = some answer := h
    exact isMarked_of_loadType (congrArg Prod.fst hload)
  · cases h

namespace ReleaseClasses

variable {classes : ReleaseClasses} {library : PlatformLibrary}

/-- In the legacy layout the module may be missing, from the answer and from the mark. -/
theorem isMarked_of_loadSymbols {archive : SymbolArchive} {code : Char}
    (h : (classes.loadSymbols library files session archive code name module).1
      = .ok (some answer)) : answer.IsMarked := by
  rw [loadSymbols_fst] at h
  split at h
  · cases h
  · split at h
    · cases h
    · split at h
      · cases h
      · rename_i hparse
        obtain rfl := Option.some_inj.1 (Except.ok.inj h)
        exact PlatformLibrary.isMarked_answer hparse library _

theorem isMarked_of_loadType
    (h : (classes.loadType library files session name module accepts).1 = .ok (some answer)) :
    answer.IsMarked := by
  rw [loadType] at h
  split at h
  · cases h
  · exact PlatformLibrary.isMarked_of_loadType h
  · split at h
    · exact PlatformLibrary.isMarked_of_loadType h
    · exact isMarked_of_loadSymbols h

end ReleaseClasses

theorem ReleaseLibrary.isMarked_of_find {entry : ReleaseLibrary} {query : Query}
    {constraint : ModuleConstraint} {release : Release}
    (h : (entry.find files session query constraint release).1 = some answer) :
    answer.IsMarked := by
  rw [find] at h
  split at h
  · exact PlatformLibrary.isMarked_of_find h
  · dsimp only at h
    split at h
    · rename_i hload
      obtain rfl : _ = some answer := h
      exact ReleaseClasses.isMarked_of_loadType (congrArg Prod.fst hload)
    · cases h

/-! ## Folders -/

/-- An answer in the module of a folder, whose type, if there is one, has no mark. -/
structure Answer.IsUnmarkedIn (moduleName : Option String) (answer : Answer) : Prop where
  module : answer.moduleName = moduleName
  type : ∀ type, answer.kind = .binary type → type.moduleName = none

theorem isUnmarkedIn_of_readAnswer {path : Path} {query : Query} {release : Release}
    (h : (readAnswer files session path query module release).1 = some answer) :
    answer.IsUnmarkedIn module := by
  obtain ⟨content, type, -, hparse, rfl⟩ := readAnswer_eq_some_iff.1 h
  refine ⟨rfl, fun found hkind => ?_⟩
  obtain rfl := AnswerKind.binary.inj hkind
  exact moduleName_of_parseBinaryType hparse

theorem ClassFolder.isUnmarkedIn_of_ownAnswer {folder : ClassFolder} {query : Query}
    {constraint : ModuleConstraint} (h : folder.ownAnswer files query constraint = some answer) :
    answer.IsUnmarkedIn folder.moduleName := by
  rw [ownAnswer] at h
  split at h
  · obtain ⟨found, hfound, rfl⟩ := Option.map_eq_some_iff.1 h
    obtain ⟨hmodule, htype⟩ := isUnmarkedIn_of_readAnswer hfound
    exact ⟨hmodule, htype⟩
  · cases h

theorem SourceRoot.isUnmarkedIn_of_ownAnswer {root : SourceRoot} {query : Query}
    {constraint : ModuleConstraint} (h : root.ownAnswer files query constraint = some answer) :
    answer.IsUnmarkedIn root.moduleName := by
  rw [ownAnswer] at h
  split at h
  · obtain ⟨listing, -, hanswer⟩ := Option.bind_eq_some_iff.1 h
    rw [answerFrom] at hanswer
    split at hanswer
    · split at hanswer
      · obtain rfl := Option.some_inj.1 hanswer
        exact ⟨rfl, fun type hkind => by cases hkind⟩
      · cases hanswer
    · split at hanswer
      · exact isUnmarkedIn_of_readAnswer hanswer
      · cases hanswer
  · cases h

/-! ## Locations and classpaths -/

/-- An answer of the platform has the mark, and one of a folder has none. -/
theorem Location.isMarked_or_isUnmarkedIn {location : Location} {query : Query}
    {constraint : ModuleConstraint} {release : Release}
    (h : (location.find files query constraint release session).1 = some answer) :
    (location.isPlatform = true ∧ answer.IsMarked) ∨
      (location.isPlatform = false ∧ answer.IsUnmarkedIn location.moduleName) := by
  cases location with
  | classFolder folder =>
    have hfind := (folder.find_fst session query constraint release).symm.trans h
    split at hfind
    · exact .inr ⟨rfl, ClassFolder.isUnmarkedIn_of_ownAnswer hfind⟩
    · cases hfind
  | sourceRoot root =>
    have hfind := (root.find_fst session query constraint release).symm.trans h
    split at hfind
    · exact .inr ⟨rfl, SourceRoot.isUnmarkedIn_of_ownAnswer hfind⟩
    · cases hfind
  | platform library => exact .inl ⟨rfl, PlatformLibrary.isMarked_of_find h⟩
  | releasePlatform entry => exact .inl ⟨rfl, ReleaseLibrary.isMarked_of_find h⟩

namespace Environment

/-- **Which answers carry one module.**  The type in an answer of the platform is marked with the
module of the answer.  The type in the answer of a folder has no mark, while the answer has the
module that the folder belongs to.  So the two agree unless a folder of a module answers. -/
theorem mark_of_find {environment : Environment} {sessions : Sessions} {query : Query}
    {constraint : ModuleConstraint} {release : Release}
    (h : (environment.find files sessions query constraint release).1 = some answer)
    (hkind : answer.kind = .binary type) :
    ∃ position entry,
      Answers environment files sessions query constraint release position entry answer ∧
      (entry.location.isPlatform = true → type.moduleName = answer.moduleName) ∧
      (entry.location.isPlatform = false →
        type.moduleName = none ∧ answer.moduleName = entry.location.moduleName) ∧
      (type.moduleName = answer.moduleName ↔
        entry.location.isPlatform = true ∨ entry.location.moduleName = none) := by
  obtain ⟨position, entry, hanswers, -⟩ := preferred_of_find_eq_some h
  refine ⟨position, entry, hanswers, ?_⟩
  rcases Location.isMarked_or_isUnmarkedIn hanswers.answers with
    ⟨hplatform, hmarked⟩ | ⟨hfolder, hunmarked⟩
  · have hmark := hmarked type hkind
    exact ⟨fun _ => hmark, fun hfolder => absurd (hplatform.symm.trans hfolder) (by decide),
      fun _ => .inl hplatform, fun _ => hmark⟩
  · have hmark := hunmarked.type type hkind
    have hmodule := hunmarked.module
    refine ⟨fun hplatform => absurd (hplatform.symm.trans hfolder) (by decide),
      fun _ => ⟨hmark, hmodule⟩, ?_⟩
    rw [hmark, hmodule, hfolder]
    simp [eq_comm]

/-! ### A folder that belongs to a module -/

/-- A folder of classes with one type. -/
def modularFolderFiles : Files where
  entries := [(["lib"], .folder),
    (["lib", "T.class"], .file (.ofBytes (Stub.encode { name := "T" })) false)]

/-- The folder belongs to a module. -/
def modularFolder : ClassFolder where
  root := ⟨"lib"⟩
  module := some { name := "app" }

/-- The answer with the type. -/
def modularFolderAnswer : Answer where
  kind := .binary (Stub.type { name := "T" })
  moduleName := some "app"
  release := .unversioned

theorem ownAnswer_modularFolder :
    modularFolder.ownAnswer modularFolderFiles (.inPackage "T" []) .any
      = some modularFolderAnswer := by
  have hwf : modularFolderFiles.WellFormed := Files.wellFormed_of_forall (by decide) (by decide)
  have hlf : modularFolderFiles.LinkFree := Files.linkFree_of_forall (by decide)
  have hleads : modularFolderFiles.Leads ["lib"] modularFolder.root [] :=
    Files.leads_name hwf hlf
      (rfl : modularFolderFiles.entryAt? (modularFolderFiles.workingFolder ++ ["lib"])
        = some .folder)
  have hread : modularFolderFiles.read? (modularFolder.root.child "T.class")
      = some (.ofBytes (Stub.encode { name := "T" })) := by
    have hplace : modularFolderFiles.read? (modularFolder.root.child ("/".intercalate ["T.class"]))
        = some (.ofBytes (Stub.encode { name := "T" })) :=
      (hleads.read?_inside_iff hwf hlf (List.cons_ne_nil "T.class" []) (by decide)).2
        ⟨false, by simp [modularFolderFiles]⟩
    rwa [String.intercalate_singleton] at hplace
  have hparse : parseBinaryType (Content.ofBytes (Stub.encode { name := "T" })).bytes
      = .ok (Stub.type { name := "T" }) := by
    decide +kernel
  have hlist : modularFolderFiles.list? (modularFolder.root.child "")
      = some (modularFolderFiles.childrenAt ["lib"]) :=
    ((hleads.inside (List.forall_mem_nil ProperName)).list?_iff hwf hlf (by simp)).2 ⟨rfl, rfl⟩
  obtain ⟨members, hmembers, hlisted⟩ := members?_of_mem hlist
    (Files.mem_childrenAt.2 (List.mem_cons_of_mem _ List.mem_cons_self))
    (by decide : isClassFileName "T.class" = true)
  have hlisting : (modularFolder.list modularFolderFiles "").1 = some members := by
    show (modularFolder.probe modularFolderFiles "") = _
    rw [ClassFolder.probe, hmembers, Option.map_some]
  have hanswer : (readAnswer modularFolderFiles {} (modularFolder.root.child "T.class")
      (.inPackage "T" []) modularFolder.moduleName modularFolder.release).1
        = some modularFolderAnswer :=
    readAnswer_eq_some_iff.2 ⟨_, _, hread, hparse, rfl⟩
  rw [ClassFolder.ownAnswer, show (Query.inPackage "T" []).packageName = "" from rfl, hlisting,
    Option.any_some, show (Query.inPackage "T" []).binaryFileName = "T.class" from rfl,
    List.contains_iff_mem.2 hlisted, qualifiedBinaryFileName_sample, hanswer]
  rfl

theorem find_modularFolder :
    ((Environment.mk [⟨.classFolder modularFolder, ""⟩]).find modularFolderFiles {}
      (.inPackage "T" []) .any .unversioned).1 = some modularFolderAnswer := by
  have horder : resolutionOrder ((Environment.mk [⟨.classFolder modularFolder, ""⟩]).locations.map
      Location.release) .unversioned = [0] := by
    decide +kernel
  have hanswer : (Environment.mk [⟨.classFolder modularFolder, ""⟩]).answerAt modularFolderFiles
      (.inPackage "T" []) .any .unversioned {} 0 = some modularFolderAnswer :=
    (modularFolder.find_fst _ _ .any .unversioned).trans ownAnswer_modularFolder
  rw [find_eq_findSome?, horder, List.findSome?_cons, hanswer]

/-- **The answer of a folder may name a module that its type is not marked with.** -/
theorem exists_answer_without_mark :
    ∃ answer type, ((Environment.mk [⟨.classFolder modularFolder, ""⟩]).find modularFolderFiles {}
        (.inPackage "T" []) .any .unversioned).1 = some answer ∧
      answer.kind = .binary type ∧ answer.moduleName = some "app" ∧ type.moduleName = none :=
  ⟨modularFolderAnswer, _, find_modularFolder, rfl, rfl, rfl⟩

/-- The folder belongs to a module, so its answer is not marked with it. -/
theorem mark_of_find_sample :
    ((Environment.mk [⟨.classFolder modularFolder, ""⟩]).find modularFolderFiles {}
        (.inPackage "T" []) .any .unversioned).1 = some modularFolderAnswer ∧
      modularFolderAnswer.kind = .binary (Stub.type { name := "T" }) ∧
      ∃ position entry,
        Answers (Environment.mk [⟨.classFolder modularFolder, ""⟩]) modularFolderFiles {}
          (.inPackage "T" []) .any .unversioned position entry modularFolderAnswer ∧
        entry.location.isPlatform = false := by
  refine ⟨find_modularFolder, rfl, ?_⟩
  obtain ⟨position, entry, hanswers, hplatform, -, -⟩ := mark_of_find find_modularFolder rfl
  refine ⟨position, entry, hanswers, Bool.eq_false_iff.2 fun hlocation => ?_⟩
  exact absurd (hplatform hlocation) (by decide)

end Environment

end MultiRelease
