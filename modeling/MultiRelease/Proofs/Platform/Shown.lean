import MultiRelease.Platform.Library
import MultiRelease.Proofs.NameMap

/-!
# What the platform library shows

A packaged runtime image opens the archives of its modules when they are needed, so looking a class
up changes it.  It does not change what the image *shows* (`RuntimeImage.shown`): an archive that
has been opened is the one that opening it now would give
(`RuntimeImage.openedArchive_openedArchive`).

What an image shows are its modules and the classes that are found in each of them.  It decides what
every search finds, and every search leaves it as it was: reading one class
(`RuntimeImage.readClass_congr`, `RuntimeImage.shown_readClass`), the search in one module after the
other (`RuntimeImage.firstClass_congr`, by induction on the modules), and reading the declarations
of all modules (`RuntimeImage.shown_moduleInfosOf`).

A platform library is described by what its image shows, by the rules that apply to its types and by
where its modules are noted (`PlatformLibrary.SameShown`).  This alone decides what is found
(`PlatformLibrary.loadType_congr`), and every lookup preserves it
(`PlatformLibrary.loadType_preserves`).  The session has no part in it: a lookup in the image
touches nothing of it but the count of what was decoded (`Session.SameCaches`).

Whatever is loaded from an image is bound to no release (`PlatformLibrary.release_loadType`).
-/

set_option autoImplicit false

namespace MultiRelease

/-! ## Runtime images -/

namespace RuntimeImage

/-- What an image shows: its modules, and the classes that are found in each module. -/
def shown (files : Files) (image : RuntimeImage) :
    List String × (String → String → Except PlatformError (Option (List UInt8))) :=
  (image.modules, fun module name => (readClass files image module name).1)

variable {files : Files}

/-- The archive of a module is the one that was opened before, if there is one. -/
theorem openedArchive_fst (opened : NameMap OpenArchive) (module : String) (path : Path) :
    (openedArchive files opened module path).1
      = ((opened.get? module).map .ok).getD (files.openArchive path) := by
  cases hopened : opened.get? module with
  | some archive => simp [openedArchive, hopened]
  | none => cases harchive : files.openArchive path <;> simp [openedArchive, hopened, harchive]

/-- Opening the archive of a module changes neither it nor any other archive. -/
theorem openedArchive_openedArchive (opened : NameMap OpenArchive) {module other : String}
    {path otherPath : Path} (h : other = module → otherPath = path) :
    (openedArchive files (openedArchive files opened module path).2 other otherPath).1
      = (openedArchive files opened other otherPath).1 := by
  cases hopened : opened.get? module with
  | some archive => simp [openedArchive, hopened]
  | none =>
    cases harchive : files.openArchive path with
    | error error => simp [openedArchive, hopened, harchive]
    | ok archive =>
      have hinsert : (openedArchive files opened module path).2 = opened.insert module archive := by
        simp [openedArchive, hopened, harchive]
      rw [hinsert, openedArchive_fst, openedArchive_fst]
      by_cases hother : other = module
      · subst hother
        rw [NameMap.get?_insert_self, hopened, h rfl, harchive]
        rfl
      · rw [NameMap.get?_insert_of_ne hother]

theorem readClass_packaged (archives : NameMap Path) (opened : NameMap OpenArchive)
    {module : String} {path : Path} (h : archives.get? module = some path) (name : String) :
    readClass files (.packaged archives opened) module name =
      ((openedArchive files opened module path).1.bind fun archive =>
          archive.read files (classesFolder ++ name) path,
        .packaged archives (openedArchive files opened module path).2) := by
  simp only [readClass, h]
  cases openedArchive files opened module path with
  | mk archive opened => cases archive <;> rfl

/-- Reading a class leaves the image showing the same. -/
theorem shown_readClass (files : Files) (image : RuntimeImage) (module name : String) :
    (readClass files image module name).2.shown files = image.shown files := by
  cases image with
  | exploded root modules => rfl
  | packaged archives opened =>
    cases hpath : archives.get? module with
    | none => simp [readClass, hpath]
    | some path =>
      rw [readClass_packaged archives opened hpath, shown, shown]
      refine Prod.ext rfl (funext fun other => funext fun name' => ?_)
      show (readClass files (.packaged archives _) other name').1
        = (readClass files (.packaged archives opened) other name').1
      cases hother : archives.get? other with
      | none => simp [readClass, hother]
      | some otherPath =>
        rw [readClass_packaged _ _ hother, readClass_packaged _ _ hother]
        dsimp only
        rw [openedArchive_openedArchive opened]
        rintro rfl
        exact Option.some_inj.1 (hother.symm.trans hpath)

theorem readClass_congr {a b : RuntimeImage} (h : a.shown files = b.shown files)
    (module name : String) :
    (readClass files a module name).1 = (readClass files b module name).1 :=
  congrFun (congrFun (Prod.mk.inj h).2 module) name

/-- Images that show the same give the same class, and neither shows anything else afterwards. -/
theorem firstClass_congr (name : String) :
    ∀ (modules : List String) {a b : RuntimeImage}, a.shown files = b.shown files →
      (firstClass files a name modules).1 = (firstClass files b name modules).1 ∧
        (firstClass files a name modules).2.shown files = a.shown files
  | [], _, _, _ => ⟨rfl, rfl⟩
  | module :: modules, a, b, h => by
    have hread := readClass_congr h module name
    have hshown : ∀ image : RuntimeImage, (readClass files image module name).2.shown files
      = image.shown files := fun image => shown_readClass files image module name
    have ih := firstClass_congr name modules (((hshown a).trans h).trans (hshown b).symm)
    rw [firstClass, firstClass]
    cases ha : readClass files a module name with
    | mk found image =>
      cases hb : readClass files b module name with
      | mk found' image' =>
        rw [ha, hb] at hread ih
        have hsame := hshown a
        rw [ha] at hsame
        obtain rfl : found = found' := hread
        cases found with
        | error error => exact ⟨rfl, hsame⟩
        | ok bytes =>
          cases bytes with
          | some bytes => exact ⟨rfl, hsame⟩
          | none => exact ⟨ih.1, ih.2.trans hsame⟩

theorem findClass_congr {a b : RuntimeImage} (h : a.shown files = b.shown files) (name : String)
    (module : Option String) (accepts : String → Bool) :
    (findClass files a name module accepts).1 = (findClass files b name module accepts).1 ∧
      (findClass files a name module accepts).2.shown files = a.shown files := by
  have hmodules : a.modules = b.modules := (Prod.mk.inj h).1
  cases module with
  | some module => exact firstClass_congr name [module] h
  | none =>
    rw [findClass, findClass, hmodules]
    exact firstClass_congr name _ h

/-- Reading the declarations of modules leaves the image showing the same. -/
theorem shown_moduleInfosOf (files : Files) :
    ∀ (modules : List String) (image : RuntimeImage),
      (moduleInfosOf files image modules).2.shown files = image.shown files
  | [], _ => rfl
  | module :: modules, image => by
    have hshown := shown_readClass files image module (moduleInfoName ++ ".class")
    rw [moduleInfosOf]
    cases hread : readClass files image module (moduleInfoName ++ ".class") with
    | mk found image' =>
      rw [hread] at hshown
      cases found with
      | error error => exact hshown
      | ok found =>
        have ih := shown_moduleInfosOf files modules image'
        dsimp only
        cases hothers : moduleInfosOf files image' modules with
        | mk infos image'' =>
          rw [hothers] at ih
          cases infos <;> exact ih.trans hshown

end RuntimeImage

/-! ## Platform libraries -/

/-- The sessions differ at most in what they have decoded. -/
structure Session.SameCaches (a b : Session) : Prop where
  modules : a.modules = b.modules
  archives : a.archives = b.archives

theorem Session.SameCaches.refl (session : Session) : session.SameCaches session := ⟨rfl, rfl⟩

namespace PlatformLibrary

/-- What decides the answers of a platform library, and where its modules are noted. -/
structure SameShown (files : Files) (a b : PlatformLibrary) : Prop where
  archivePath : a.archivePath = b.archivePath
  home : a.home = b.home
  rules : a.rules = b.rules
  image : a.image.map (RuntimeImage.shown files) = b.image.map (RuntimeImage.shown files)

variable {files : Files}

theorem SameShown.refl (library : PlatformLibrary) : library.SameShown files library :=
  ⟨rfl, rfl, rfl, rfl⟩

theorem SameShown.symm {a b : PlatformLibrary} (h : a.SameShown files b) : b.SameShown files a :=
  ⟨h.archivePath.symm, h.home.symm, h.rules.symm, h.image.symm⟩

theorem SameShown.trans {a b c : PlatformLibrary} (hab : a.SameShown files b)
    (hbc : b.SameShown files c) : a.SameShown files c :=
  ⟨hab.archivePath.trans hbc.archivePath, hab.home.trans hbc.home, hab.rules.trans hbc.rules,
    hab.image.trans hbc.image⟩

/-- A library whose image was used. -/
theorem sameShown_used {library : PlatformLibrary} {image used : RuntimeImage}
    (h : library.image = some image) (hused : used.shown files = image.shown files) :
    ({ library with image := some used } : PlatformLibrary).SameShown files library :=
  ⟨rfl, rfl, rfl, by rw [h]; exact congrArg some hused⟩

/-- Loading a type leaves the library showing the same, and the session its caches. -/
theorem loadType_preserves (files : Files) (library : PlatformLibrary) (session : Session)
    (name : String) (module : Option String) (accepts : String → Bool) :
    (library.loadType files session name module accepts).2.1.SameShown files library ∧
      (library.loadType files session name module accepts).2.2.SameCaches session := by
  cases himage : library.image with
  | none => simpa [loadType, himage] using And.intro (SameShown.refl library) (.refl session)
  | some image =>
    have hused := (RuntimeImage.findClass_congr (rfl : image.shown files = image.shown files) name
      module accepts).2
    have hsame := sameShown_used himage hused
    cases hfound : image.findClass files name module accepts with
    | mk found used =>
      rw [hfound] at hsame
      simp only [loadType, himage, hfound]
      cases found with
      | error error => exact ⟨hsame, .refl session⟩
      | ok found =>
        cases found with
        | none => exact ⟨hsame, .refl session⟩
        | some found =>
          dsimp only [Session.decode]
          cases parseBinaryType found.bytes <;> exact ⟨hsame, rfl, rfl⟩

/-- **What is loaded depends on what the library shows**, and not on the session. -/
theorem loadType_congr {a b : PlatformLibrary} (h : a.SameShown files b) (s s' : Session)
    (name : String) (module : Option String) (accepts : String → Bool) :
    (a.loadType files s name module accepts).1 = (b.loadType files s' name module accepts).1 := by
  have himage := h.image
  cases ha : a.image with
  | none =>
    rw [ha, Option.map_none, eq_comm, Option.map_eq_none_iff] at himage
    simp [loadType, ha, himage]
  | some image =>
    rw [ha, Option.map_some, eq_comm, Option.map_eq_some_iff] at himage
    obtain ⟨image', hb, hshown⟩ := himage
    have hfound := (RuntimeImage.findClass_congr hshown.symm name module accepts).1
    cases hfa : image.findClass files name module accepts with
    | mk found used =>
      cases hfb : image'.findClass files name module accepts with
      | mk found' used' =>
        rw [hfa, hfb] at hfound
        obtain rfl : found = found' := hfound
        simp only [loadType, ha, hb, hfa, hfb]
        cases found with
        | error error => rfl
        | ok found =>
          cases found with
          | none => rfl
          | some found =>
            dsimp only [Session.decode]
            cases parseBinaryType found.bytes with
            | error cause => rfl
            | ok type => simp only [answer, h.rules]

/-- A type that is loaded is a class of the image that can be decoded. -/
theorem exists_of_loadType {library : PlatformLibrary} {session : Session} {name : String}
    {module : Option String} {accepts : String → Bool} {answer : Answer}
    (h : (library.loadType files session name module accepts).1 = .ok (some answer)) :
    ∃ image found type, library.image = some image ∧
      (image.findClass files name module accepts).1 = .ok (some found) ∧
      parseBinaryType found.bytes = .ok type ∧
      answer = library.answer type (some found.module) .unversioned := by
  cases himage : library.image with
  | none => simp [loadType, himage] at h
  | some image =>
    cases hfound : image.findClass files name module accepts with
    | mk found used =>
      simp only [loadType, himage, hfound] at h
      cases found with
      | error error => cases h
      | ok found =>
        cases found with
        | none => cases h
        | some found =>
          dsimp only [Session.decode] at h
          cases hparse : parseBinaryType found.bytes with
          | error cause => simp [hparse] at h
          | ok type =>
            simp only [hparse, Except.ok.injEq, Option.some.injEq] at h
            exact ⟨image, found, type, rfl, congrArg Prod.fst hfound, hparse, h.symm⟩

/-- A type that is loaded is bound to no release. -/
theorem release_loadType {library : PlatformLibrary} {session : Session} {name : String}
    {module : Option String} {accepts : String → Bool} {answer : Answer}
    (h : (library.loadType files session name module accepts).1 = .ok (some answer)) :
    answer.release = .unversioned := by
  obtain ⟨_, _, _, -, -, -, rfl⟩ := exists_of_loadType h
  rfl

/-- Noting the modules of the image leaves the library showing the same, and the session its
archives. -/
theorem loadModules_preserves (files : Files) (library : PlatformLibrary) (session : Session) :
    (library.loadModules files session).1.SameShown files library ∧
      (library.loadModules files session).2.archives = session.archives := by
  rw [loadModules]
  split
  · exact ⟨.refl library, rfl⟩
  · cases himage : library.image with
    | none => exact ⟨.refl library, rfl⟩
    | some image =>
      have hsame := sameShown_used himage
        (RuntimeImage.shown_moduleInfosOf files image.modules image)
      rw [← RuntimeImage.moduleInfos] at hsame
      dsimp only
      cases hinfos : image.moduleInfos files with
      | mk infos used =>
        rw [hinfos] at hsame
        cases infos with
        | error error => exact ⟨hsame, rfl⟩
        | ok infos =>
          refine ⟨hsame, ?_⟩
          dsimp only
          split <;> rfl

/-! ## Look-ups -/

theorem find_fst (library : PlatformLibrary) (session : Session) (query : Query)
    (constraint : ModuleConstraint) :
    (library.find files session query constraint).1
      = (library.loadType files session query.qualifiedBinaryFileName constraint.name?
          fun _ => true).1.toOption.join := by
  rw [find]
  split <;> rename_i h <;> rw [h] <;> rfl

theorem find_snd (library : PlatformLibrary) (session : Session) (query : Query)
    (constraint : ModuleConstraint) :
    (library.find files session query constraint).2
      = (library.loadType files session query.qualifiedBinaryFileName constraint.name?
          fun _ => true).2 := by
  rw [find]
  split <;> rename_i h <;> rw [h]

end PlatformLibrary

end MultiRelease
