import MultiRelease.Proofs.Environment.FirstAnswer
import MultiRelease.Proofs.Platform.Standing

/-!
# The module that a lookup asks for

A lookup may be constrained to a module or to the types outside of all named modules.  Folders
compare the constraint with the module that they belong to.  The platform only sees the name that is
asked for, if one is: its classes are looked up in the module of that name, and in all modules
otherwise.

* `Location.accepts_or_unnamed`: the module of an answer is one that the constraint accepts, or the
  answer comes from the platform and the lookup asked for no named module.
* `Environment.accepts_of_find` says the same of a classpath, and that in the latter case the
  platform answers as if any module had been asked for.
* `Environment.exists_unnamed_answered_in_module`: so a lookup outside of the named modules may be
  answered with a class of a named module.
-/

set_option autoImplicit false

namespace MultiRelease

variable {files : Files} {session : Session} {name : String} {accepts : String → Bool}
  {answer : Answer}

/-! ## The platform -/

/-- A class that is found in one module is put down to it. -/
theorem RuntimeImage.module_of_findClass {image : RuntimeImage} {module : String}
    {found : ImageClass}
    (h : (image.findClass files name (some module) accepts).1 = .ok (some found)) :
    found.module = module := by
  rw [findClass, firstClass] at h
  split at h
  · cases h
    rfl
  · cases h
  · cases h

theorem PlatformLibrary.moduleName_of_loadType {library : PlatformLibrary} {module : String}
    (h : (library.loadType files session name (some module) accepts).1 = .ok (some answer)) :
    answer.moduleName = some module := by
  obtain ⟨image, found, type, -, hfound, -, rfl⟩ := exists_of_loadType h
  exact congrArg some (RuntimeImage.module_of_findClass hfound)

theorem PlatformLibrary.moduleName_of_find {library : PlatformLibrary} {query : Query}
    {module : String} (h : (library.find files session query (.named module)).1 = some answer) :
    answer.moduleName = some module := by
  rw [find] at h
  split at h
  · rename_i hload
    obtain rfl : _ = some answer := h
    exact moduleName_of_loadType (congrArg Prod.fst hload)
  · cases h

namespace ReleaseClasses

variable {classes : ReleaseClasses} {library : PlatformLibrary} {module : String}

/-- What is found in the symbol archive is put down to the module that was asked for. -/
theorem moduleName_of_loadSymbols {archive : SymbolArchive} {code : Char}
    (h : (classes.loadSymbols library files session archive code name (some module)).1
      = .ok (some answer)) : answer.moduleName = some module := by
  rw [loadSymbols] at h
  dsimp only [Session.decode] at h
  split at h
  · cases h
  · split at h
    · cases h
    · rename_i bytes _
      cases hparse : parseBinaryType bytes with
      | error cause => simp [hparse] at h
      | ok type =>
        simp only [hparse, Except.ok.injEq, Option.some.injEq] at h
        rw [← h]
        rfl

theorem moduleName_of_loadType
    (h : (classes.loadType library files session name (some module) accepts).1
      = .ok (some answer)) : answer.moduleName = some module := by
  rw [loadType] at h
  split at h
  · cases h
  · exact PlatformLibrary.moduleName_of_loadType h
  · split at h
    · exact PlatformLibrary.moduleName_of_loadType h
    · exact moduleName_of_loadSymbols h

end ReleaseClasses

theorem ReleaseLibrary.moduleName_of_find {entry : ReleaseLibrary} {query : Query}
    {module : String} {release : Release}
    (h : (entry.find files session query (.named module) release).1 = some answer) :
    answer.moduleName = some module := by
  rw [find] at h
  split at h
  · exact PlatformLibrary.moduleName_of_find h
  · dsimp only at h
    split at h
    · rename_i hload
      obtain rfl : _ = some answer := h
      exact ReleaseClasses.moduleName_of_loadType (congrArg Prod.fst hload)
    · cases h

/-! ## Locations -/

/-- A folder accepts a lookup that it answers. -/
theorem ClassFolder.accepts_of_ownAnswer {folder : ClassFolder} {query : Query}
    {constraint : ModuleConstraint} (h : folder.ownAnswer files query constraint = some answer) :
    constraint.accepts answer.moduleName = true := by
  rw [ownAnswer] at h
  split at h
  · rename_i haccepts
    obtain ⟨found, hfound, rfl⟩ := Option.map_eq_some_iff.1 h
    obtain ⟨_, _, -, -, rfl⟩ := readAnswer_eq_some_iff.1 hfound
    exact (Bool.and_eq_true _ _ ▸ haccepts).1
  · cases h

theorem SourceRoot.accepts_of_ownAnswer {root : SourceRoot} {query : Query}
    {constraint : ModuleConstraint} (h : root.ownAnswer files query constraint = some answer) :
    constraint.accepts answer.moduleName = true := by
  rw [ownAnswer] at h
  split at h
  · rename_i haccepts
    obtain ⟨listing, -, hanswer⟩ := Option.bind_eq_some_iff.1 h
    rcases answerFrom_eq_some_iff.1 hanswer with ⟨-, -, -, rfl⟩ | ⟨-, -, _, _, -, -, rfl⟩
    · exact haccepts
    · exact haccepts
  · cases h

namespace Location

/-- Whether the location has its types from the platform. -/
def isPlatform : Location → Bool
  | platform _ => true
  | releasePlatform _ => true
  | _ => false

/-- The platform makes no difference between a lookup outside of all named modules and one in any
module. -/
theorem find_unnamed_of_isPlatform {location : Location} (h : location.isPlatform = true)
    (query : Query) (release : Release) :
    location.find files query .unnamed release session
      = location.find files query .any release session := by
  cases location with
  | classFolder folder => cases h
  | sourceRoot root => cases h
  | platform library => rfl
  | releasePlatform entry => rfl

/-- **What a location answers is accepted**, except that the platform takes no notice of a
constraint to the types outside of all named modules. -/
theorem accepts_or_unnamed {location : Location} {query : Query} {constraint : ModuleConstraint}
    {release : Release}
    (h : (location.find files query constraint release session).1 = some answer) :
    constraint.accepts answer.moduleName = true ∨
      constraint = .unnamed ∧ location.isPlatform = true := by
  have hplatform : location.isPlatform = true →
      (∀ module, constraint = .named module → answer.moduleName = some module) →
        constraint.accepts answer.moduleName = true ∨
          constraint = .unnamed ∧ location.isPlatform = true := by
    intro hlocation hnamed
    cases constraint with
    | any => exact .inl rfl
    | unnamed => exact .inr ⟨rfl, hlocation⟩
    | named module => exact .inl (decide_eq_true (hnamed module rfl))
  cases location with
  | classFolder folder =>
    have hfind := (folder.find_fst session query constraint release).symm.trans h
    split at hfind
    · exact .inl (ClassFolder.accepts_of_ownAnswer hfind)
    · cases hfind
  | sourceRoot root =>
    have hfind := (root.find_fst session query constraint release).symm.trans h
    split at hfind
    · exact .inl (SourceRoot.accepts_of_ownAnswer hfind)
    · cases hfind
  | platform library =>
    refine hplatform rfl ?_
    rintro module rfl
    exact PlatformLibrary.moduleName_of_find h
  | releasePlatform entry =>
    refine hplatform rfl ?_
    rintro module rfl
    exact ReleaseLibrary.moduleName_of_find h

end Location

/-! ## Classpaths -/

namespace Environment

/-- **An answer honours the module constraint of its lookup**, unless the lookup is constrained to
the types outside of all named modules and the platform answers.  Then the answer is what the
platform gives for a lookup in any module. -/
theorem accepts_of_find {environment : Environment} {sessions : Sessions} {query : Query}
    {constraint : ModuleConstraint} {release : Release}
    (h : (environment.find files sessions query constraint release).1 = some answer) :
    constraint.accepts answer.moduleName = true ∨
      constraint = .unnamed ∧ ∃ position entry,
        Answers environment files sessions query .unnamed release position entry answer ∧
          entry.location.isPlatform = true ∧
          entry.answer files sessions query .any release = some answer := by
  obtain ⟨position, entry, hanswers, -⟩ := preferred_of_find_eq_some h
  rcases Location.accepts_or_unnamed hanswers.answers with haccepts | ⟨rfl, hlocation⟩
  · exact .inl haccepts
  · refine .inr ⟨rfl, position, entry, hanswers, hlocation, ?_⟩
    rw [← hanswers.answers, ClasspathEntry.answer, ClasspathEntry.answer,
      Location.find_unnamed_of_isPlatform hlocation]

/-! ## A class of a named module outside of all -/

/-- The classpath that consists of the platform library. -/
def platformClasspath : Environment := ⟨[⟨.platform sampleLibrary, ""⟩]⟩

theorem find_platformClasspath : (platformClasspath.find sampleJdk {} (.inPackage "T" []) .unnamed
    .unversioned).1 = some sampleAnswer := by
  have horder : resolutionOrder (platformClasspath.locations.map Location.release) .unversioned
      = [0] := by decide +kernel
  have hanswer : platformClasspath.answerAt sampleJdk (.inPackage "T" []) .unnamed .unversioned {} 0
      = some sampleAnswer := find_sampleLibrary {} rfl
  rw [find_eq_findSome?, horder, List.findSome?_cons, hanswer]

/-- **The platform answers a lookup outside of all named modules with a class of a named
module.** -/
theorem exists_unnamed_answered_in_module :
    PlatformLibrary.openArchive sampleJdk ⟨"jdk/lib/jrt-fs.jar"⟩ none none = .ok sampleLibrary ∧
      (platformClasspath.find sampleJdk {} (.inPackage "T" []) .unnamed .unversioned).1
        = some sampleAnswer ∧
      sampleAnswer.moduleName = some "java.base" ∧
      ModuleConstraint.unnamed.accepts sampleAnswer.moduleName = false :=
  ⟨openArchive_sampleJdk, find_platformClasspath, rfl, rfl⟩

theorem accepts_of_find_sample :
    (platformClasspath.find sampleJdk {} (.inPackage "T" []) .unnamed .unversioned).1
        = some sampleAnswer ∧
      ∃ position entry,
        Answers platformClasspath sampleJdk {} (.inPackage "T" []) .unnamed .unversioned position
          entry sampleAnswer ∧
        entry.location.isPlatform = true ∧
        entry.answer sampleJdk {} (.inPackage "T" []) .any .unversioned = some sampleAnswer := by
  refine ⟨find_platformClasspath, ?_⟩
  rcases accepts_of_find find_platformClasspath with haccepts | ⟨-, hplatform⟩
  · cases haccepts
  · exact hplatform

end Environment

end MultiRelease
