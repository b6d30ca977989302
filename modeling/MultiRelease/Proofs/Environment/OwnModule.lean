import MultiRelease.Config
import MultiRelease.Proofs.Environment.NewerRelease
import MultiRelease.Proofs.Except
import MultiRelease.Proofs.Validation.Substitution

/-!
# Lookups in a module

A lookup may be restricted to one module.  Each source root of a build decides on its own whether it
belongs to that module, and it belongs to the one that the sources in *its own* folder declare, if
they declare one (`SourceRootConfig.Declares`).  So the root of an overlay, which usually has no
declaration of its own, belongs to no module, whatever the baseline declares.

`Environment.answered_in_module_iff` compares a lookup at a release with the same lookup in a
module.  If a source root answers the former, then it answers the latter exactly if it declares the
module itself, and nothing newer answers in its place.  The proof has three parts.

* How a build makes its classpath.  The source roots come first, in the order of the configuration
  (`BuildConfig.rootsFirst_of_environment`), and each is bound to its release and belongs to the
  module that its sources declare (`BuildConfig.sourceRoot_eq_ok`).
* What can be told from what the locations show, and therefore is the same in all states that
  lookups lead to (`Environment.answeringPosition?_congr`).  This allows the two lookups to be made
  at different times.
* Two lookups in one state.  The locations that are asked before a source root are source roots as
  well, and these give the same answer in a module as out of it, or none
  (`SourceRoot.ownAnswer_named`).  So nothing can come before the root that answers otherwise
  (`Environment.RootsFirst.preferred_of_answers_named`).

In the usual layout this means that a lookup in the module of the baseline passes over the overlays
(`Environment.exists_overlay_passed_over`): the type is then found as it was in the baseline.
-/

set_option autoImplicit false

namespace MultiRelease

variable {files : Files}

/-! ## Source roots in a module -/

/-- A root answers in its own module as it does without one, and in another module not at all. -/
theorem SourceRoot.ownAnswer_named (root : SourceRoot) (query : Query) (name : String) :
    root.ownAnswer files query (.named name)
      = if root.moduleName = some name then root.ownAnswer files query .any else none := by
  have hany : ModuleConstraint.any.accepts root.moduleName = true := rfl
  by_cases hname : root.moduleName = some name
  · have hnamed : (ModuleConstraint.named name).accepts root.moduleName = true :=
      decide_eq_true hname
    rw [if_pos hname, ownAnswer, ownAnswer, if_pos hnamed, if_pos hany]
  · have hnamed : ¬ (ModuleConstraint.named name).accepts root.moduleName = true := fun h =>
      hname (of_decide_eq_true h)
    rw [if_neg hname, ownAnswer, if_neg hnamed]

/-- The sources in the folder of the root declare the module. -/
def SourceRootConfig.Declares (root : SourceRootConfig) (files : Files) (name : String) : Prop :=
  let path := root.sourceFolder.child (moduleInfoName ++ sourceSuffix)
  files.isFile path = true ∧
    ∃ descriptor, files.readDeclaration path (.ofRelease (.overlay root.release)) = .ok descriptor ∧
      descriptor.name = name

/-! ## The classpath of a build -/

theorem SourceRoot.withPatterns_eq_ok {root root' : SourceRoot}
    {inclusions exclusions : List String}
    (h : root.withPatterns inclusions exclusions = .ok root') :
    root' = { root with inclusions := root'.inclusions, exclusions := root'.exclusions } := by
  rw [withPatterns, Except.bind_eq_ok_iff] at h
  obtain ⟨inclusions, -, h⟩ := h
  obtain ⟨exclusions, -, h⟩ := Except.bind_eq_ok_iff.1 h
  rw [← Except.ok.inj h]

/-- The classpath starts with the source roots, and nothing behind them is bound to a release. -/
structure Environment.RootsFirst (environment : Environment) (roots : List SourceRoot) : Prop where
  front : ∀ (position : Nat) root, roots[position]? = some root →
    environment.locations[position]? = some (Location.sourceRoot root)
  behind : ∀ (position : Nat) location, roots.length ≤ position →
    environment.locations[position]? = some location → location.release = .unversioned

theorem Environment.RootsFirst.of_append {environment : Environment} {roots : List SourceRoot}
    {others : List Location}
    (h : environment.locations = roots.map Location.sourceRoot ++ others)
    (hothers : ∀ location ∈ others, location.release = .unversioned) :
    environment.RootsFirst roots where
  front position root hroot := by
    have hlt := (List.getElem?_eq_some_iff.1 hroot).1
    rw [h, List.getElem?_append_left (by rwa [List.length_map]), List.getElem?_map, hroot]
    rfl
  behind position location hle hlocation := by
    rw [h, List.getElem?_append_right (by rwa [List.length_map])] at hlocation
    exact hothers location (List.mem_of_getElem? hlocation)

namespace BuildConfig

variable {config : BuildConfig} {vars : Variables} {environment : Environment}

/-- What a build makes of a root is bound to its release and belongs to the module that its sources
declare. -/
theorem sourceRoot_eq_ok {root : SourceRootConfig} {location : SourceRoot}
    (h : config.sourceRoot files root = .ok location) :
    location.release = .overlay root.release ∧
      ∀ name, location.moduleName = some name ↔ root.Declares files name := by
  rw [sourceRoot] at h
  cases hpatterns : (SourceRoot.ofFolders root.sourceFolder config.output root.release).withPatterns
      root.inclusions root.exclusions with
  | error error => simp [hpatterns] at h
  | ok bare =>
    rw [hpatterns] at h
    obtain rfl := Except.ok.inj h
    rw [SourceRoot.withPatterns_eq_ok hpatterns]
    refine ⟨rfl, fun name => ?_⟩
    rw [SourceRoot.moduleName, Option.map_eq_some_iff, SourceRootConfig.Declares]
    dsimp only [SourceRoot.declaredModule?, SourceRoot.ofFolders]
    by_cases hfile : files.isFile (root.sourceFolder.child (moduleInfoName ++ sourceSuffix)) = true
    · rw [if_pos hfile]
      cases files.readDeclaration (root.sourceFolder.child (moduleInfoName ++ sourceSuffix))
          (.ofRelease (.overlay root.release)) with
      | error error => simp [Except.toOption]
      | ok descriptor => simp [Except.toOption, hfile]
    · simp [hfile]

/-- A platform library is bound to no release. -/
theorem release_of_platformLocation {jdk : Jdk} {location : Location}
    (h : config.platformLocation files jdk = .ok location) : location.release = .unversioned := by
  obtain ⟨rules, -, h⟩ := Except.bind_eq_ok_iff.1 h
  split at h
  · rw [← Except.ok.inj h]
    rfl
  · cases h
  · cases h

/-- The classpath of a build starts with its source roots. -/
theorem rootsFirst_of_environment (h : config.environment files vars = .ok environment) :
    ∃ roots, config.sourceRoots files = .ok roots ∧ environment.RootsFirst roots := by
  have hlocations : ∀ locations : List Location,
      Environment.locations ⟨locations.map fun location => { location }⟩ = locations := by
    intro locations
    rw [Environment.locations, List.map_map]
    exact List.map_id locations
  have hfolders : ∀ location ∈ config.classpath.map (fun root => Location.classFolder { root }),
      location.release = .unversioned := by
    intro location hlocation
    obtain ⟨root, -, rfl⟩ := List.mem_map.1 hlocation
    rfl
  rw [BuildConfig.environment, Except.bind_eq_ok_iff] at h
  obtain ⟨-, -, h⟩ := h
  obtain ⟨roots, hroots, h⟩ := Except.bind_eq_ok_iff.1 h
  obtain ⟨jdk, -, h⟩ := Except.bind_eq_ok_iff.1 h
  refine ⟨roots, hroots, ?_⟩
  cases jdk with
  | none =>
    obtain rfl := Except.ok.inj h
    exact .of_append ((hlocations _).trans (List.append_nil _)) hfolders
  | some jdk =>
    obtain ⟨platform, hplatform, h⟩ := Except.bind_eq_ok_iff.1 h
    obtain rfl := Except.ok.inj h
    refine .of_append ((hlocations _).trans (List.append_assoc _ _ _)) fun location hlocation => ?_
    rcases List.mem_append.1 hlocation with hfolder | hlibrary
    · exact hfolders location hfolder
    · cases hopen : config.platformLocation files jdk with
      | error error => simp [hopen, Except.map] at hplatform
      | ok library =>
        rw [hopen] at hplatform
        obtain rfl := Except.ok.inj hplatform
        rw [List.mem_singleton.1 hlibrary]
        exact release_of_platformLocation hopen

end BuildConfig

namespace Environment

variable {environment : Environment} {sessions : Sessions} {query : Query} {name : String}
  {number : UInt16}

/-! ## What does not depend on the state -/

/-- What is answered at a release can be told from what the locations show. -/
theorem answerAt_eq_shown (constraint : ModuleConstraint) (position : Nat) :
    environment.answerAt files query constraint (.java number) sessions position
      = (environment.shown files)[position]?.bind fun shown =>
          if shown.release.appliesTo (.java number) then shown.answer query constraint
          else none := by
  rw [answerAt, getElem?_shown]
  cases environment.entries[position]? with
  | none => rfl
  | some entry => exact entry.location.find_eq_ownAnswer _ _ _ _ (.inl rfl)

section

variable {state state' : Environment × Sessions} (h : state.1.shown files = state'.1.shown files)
  (constraint : ModuleConstraint)

include h

/-- Which location answers at a release can be told from what the locations show. -/
theorem answeringPosition?_congr :
    state.1.answeringPosition? files state.2 query constraint (.java number)
      = state'.1.answeringPosition? files state'.2 query constraint (.java number) := by
  have hreleases : state.1.locations.map Location.release
      = state'.1.locations.map Location.release := by
    have hmap := congrArg (List.map Location.Shown.release) h
    rwa [shown, shown, List.map_map, List.map_map] at hmap
  rw [answeringPosition?, answeringPosition?, hreleases]
  refine congrArg (List.find? · _) (funext fun position => ?_)
  rw [answerAt_eq_shown, answerAt_eq_shown, h]

theorem find_fst_congr : (state.1.find files state.2 query constraint (.java number)).1
    = (state'.1.find files state'.2 query constraint (.java number)).1 := by
  rw [find_eq_bind, find_eq_bind, answeringPosition?_congr h]
  refine Option.bind_congr fun position _ => ?_
  rw [answerAt_eq_shown, answerAt_eq_shown, h]

end

/-! ## Two lookups in one state -/

/-- A position with an answer that is preferred to all others with one is the one that answers. -/
theorem answeringPosition?_eq_some {constraint : ModuleConstraint} {position : Nat}
    {entry : ClasspathEntry} {answer : Answer}
    (hanswers : Answers environment files sessions query constraint (.java number) position entry
      answer)
    (hpreferred : ∀ position' entry' answer',
      Answers environment files sessions query constraint (.java number) position' entry' answer' →
        position' = position ∨
          Preferred (entry.location.release, position) (entry'.location.release, position')) :
    environment.answeringPosition? files sessions query constraint (.java number)
      = some position := by
  cases hfirst : environment.answeringPosition? files sessions query constraint (.java number) with
  | none =>
    obtain ⟨hmem, -, hanswer⟩ := answers_iff.1 hanswers
    have hnone := List.find?_eq_none.1 hfirst position hmem
    simp [hanswer] at hnone
  | some first =>
    obtain ⟨entry', answer', hanswers', hpreferred'⟩ := preferred_of_answeringPosition? hfirst
    rcases hpreferred _ _ _ hanswers' with rfl | hbefore
    · rfl
    · rcases hpreferred' _ _ _ hanswers with rfl | hbefore'
      · rfl
      · exact (hbefore.asymm hbefore').elim

/-- A source root answers in a module what it answers otherwise, if it belongs to the module. -/
theorem answers_named_iff {position : Nat} {entry : ClasspathEntry} {answer : Answer}
    {root : SourceRoot} (hroot : entry.location = .sourceRoot root) :
    Answers environment files sessions query (.named name) (.java number) position entry answer ↔
      root.moduleName = some name ∧
        Answers environment files sessions query .any (.java number) position entry answer := by
  have hanswer : ∀ constraint, entry.answer files sessions query constraint (.java number)
      = if root.release.appliesTo (.java number) then root.ownAnswer files query constraint
        else none := by
    intro constraint
    rw [ClasspathEntry.answer, hroot]
    exact root.find_fst _ query constraint _
  constructor
  · rintro ⟨hfound, happlies, hanswers⟩
    rw [hanswer, SourceRoot.ownAnswer_named] at hanswers
    by_cases hname : root.moduleName = some name
    · rw [if_pos hname, ← hanswer] at hanswers
      exact ⟨hname, hfound, happlies, hanswers⟩
    · rw [if_neg hname, ite_self] at hanswers
      cases hanswers
  · rintro ⟨hname, hfound, happlies, hanswers⟩
    refine ⟨hfound, happlies, ?_⟩
    rwa [hanswer, SourceRoot.ownAnswer_named, if_pos hname, ← hanswer]

section

variable {roots : List SourceRoot} {root : SourceRoot} {position : Nat}

theorem RootsFirst.location_eq (h : environment.RootsFirst roots)
    (hroot : roots[position]? = some root) {entry : ClasspathEntry}
    (hfound : environment.entries[position]? = some entry) :
    entry.location = .sourceRoot root := by
  have hlocation := h.front position root hroot
  rw [locations, List.getElem?_map, hfound] at hlocation
  exact Option.some_inj.1 hlocation

/-- What is no source root is asked after all source roots. -/
theorem RootsFirst.preferred_of_le (h : environment.RootsFirst roots)
    (hroot : roots[position]? = some root) {position' : Nat} {entry' : ClasspathEntry}
    (hfound' : environment.entries[position']? = some entry') (hle : roots.length ≤ position') :
    Preferred (root.release, position) (entry'.location.release, position') := by
  have hlocation : environment.locations[position']? = some entry'.location := by
    rw [locations, List.getElem?_map, hfound', Option.map_some]
  have hlt := (List.getElem?_eq_some_iff.1 hroot).1
  rw [h.behind position' _ hle hlocation]
  exact ⟨rfl, fun _ => Nat.lt_of_lt_of_le hlt hle⟩

/-- **In a module, nothing answers before the root that answers otherwise.** -/
theorem RootsFirst.preferred_of_answers_named (h : environment.RootsFirst roots)
    (hroot : roots[position]? = some root)
    (hfirst : environment.answeringPosition? files sessions query .any (.java number)
      = some position)
    {position' : Nat} {entry' : ClasspathEntry} {answer' : Answer}
    (hanswers' : Answers environment files sessions query (.named name) (.java number) position'
      entry' answer') :
    position' = position ∨
      Preferred (root.release, position) (entry'.location.release, position') := by
  by_cases hlt : position' < roots.length
  · obtain ⟨root', hroot'⟩ : ∃ root', roots[position']? = some root' :=
      ⟨_, List.getElem?_eq_getElem hlt⟩
    obtain ⟨entry, answer, hanswers, hpreferred⟩ := preferred_of_answeringPosition? hfirst
    have hrelease : entry.location.release = root.release := by
      rw [h.location_eq hroot hanswers.found]
      rfl
    rw [← hrelease]
    have hany := (answers_named_iff (h.location_eq hroot' hanswers'.found)).1 hanswers'
    exact hpreferred _ _ _ hany.2
  · exact .inr (h.preferred_of_le hroot hanswers'.found (Nat.le_of_not_lt hlt))

/-- The root that answers a lookup answers it in a module if and only if it belongs to that
module. -/
theorem RootsFirst.answeringPosition?_named_iff (h : environment.RootsFirst roots)
    (hroot : roots[position]? = some root)
    (hfirst : environment.answeringPosition? files sessions query .any (.java number)
      = some position) :
    environment.answeringPosition? files sessions query (.named name) (.java number)
        = some position ↔ root.moduleName = some name := by
  obtain ⟨entry, answer, hanswers, -⟩ := preferred_of_answeringPosition? hfirst
  have hlocation := h.location_eq hroot hanswers.found
  constructor
  · intro hnamed
    obtain ⟨entry', answer', hanswers', -⟩ := preferred_of_answeringPosition? hnamed
    exact ((answers_named_iff (h.location_eq hroot hanswers'.found)).1 hanswers').1
  · intro hname
    refine answeringPosition?_eq_some ((answers_named_iff hlocation).2 ⟨hname, hanswers⟩) ?_
    intro position' entry' answer' hanswers'
    rw [hlocation]
    exact h.preferred_of_answers_named hroot hfirst hanswers'

end

/-- **Lookups in a module.**  If a source root answers a lookup at a release, then it answers the
same lookup in a module exactly if its own sources declare the module, and then with the same
answer.  In no case is the answer in the module from a newer release than that of the root.  The two
lookups may be made in different states of the classpath of the build. -/
theorem answered_in_module_iff {config : BuildConfig} {vars : Variables}
    {start anywhere inModule : Environment × Sessions}
    (hstart : config.environment files vars = .ok start.1)
    (hanywhere : Reaches files start anywhere) (hinModule : Reaches files start inModule)
    {position : Nat} {root : SourceRootConfig} (hroot : config.roots[position]? = some root)
    (hfirst : anywhere.1.answeringPosition? files anywhere.2 query .any (.java number)
      = some position) :
    (inModule.1.answeringPosition? files inModule.2 query (.named name) (.java number)
        = some position ↔ root.Declares files name) ∧
      (root.Declares files name →
        (inModule.1.find files inModule.2 query (.named name) (.java number)).1
          = (anywhere.1.find files anywhere.2 query .any (.java number)).1) ∧
      ∀ answer, (inModule.1.find files inModule.2 query (.named name) (.java number)).1
        = some answer → answer.release ≤ .overlay root.release := by
  obtain ⟨roots, hroots, hrootsFirst⟩ := BuildConfig.rootsFirst_of_environment hstart
  obtain ⟨location, hlocation, hmade⟩ := Except.exists_of_mapM hroots hroot
  obtain ⟨hrelease, hdeclares⟩ := BuildConfig.sourceRoot_eq_ok hmade
  -- what the states show is what the classpath of the build shows
  rw [answeringPosition?_congr (shown_of_reaches hanywhere)] at hfirst
  rw [answeringPosition?_congr (shown_of_reaches hinModule),
    find_fst_congr (shown_of_reaches hinModule), find_fst_congr (shown_of_reaches hanywhere),
    ← hdeclares name, ← hrelease]
  have hiff : start.1.answeringPosition? files start.2 query (.named name) (.java number)
      = some position ↔ location.moduleName = some name :=
    hrootsFirst.answeringPosition?_named_iff hlocation hfirst
  refine ⟨hiff, fun hname => ?_, fun answer hanswer => ?_⟩
  · have hnamed := hiff.2 hname
    obtain ⟨entry, answer, hanswers, -⟩ := preferred_of_answeringPosition? hnamed
    have hroot' := hrootsFirst.location_eq hlocation hanswers.found
    have hany := ((answers_named_iff hroot').1 hanswers).2
    rw [find_eq_bind, find_eq_bind, hnamed, hfirst, Option.bind_some, Option.bind_some,
      (answers_iff.1 hanswers).2.2, (answers_iff.1 hany).2.2]
  · obtain ⟨position', entry', hanswers', -⟩ := preferred_of_find_eq_some hanswer
    rw [release_answer hanswers'.answers]
    rcases hrootsFirst.preferred_of_answers_named hlocation hfirst hanswers' with rfl | hbefore
    · rw [hrootsFirst.location_eq hlocation hanswers'.found]
      exact Release.precedes_refl _
    · exact hbefore.1

/-! ## An overlay without a declaration -/

/-- Sources of a module for the baseline and for release 9, with the output of their build. -/
def modularFiles : Files where
  entries := Validation.sampleOutput.entries ++
    [(["src"], .folder),
      (["src", "module-info.java"], .file (.ofBytes "module app { }".toUTF8.toList) false),
      (["src9"], .folder)]

/-- The build of the module; the overlay does not declare it again. -/
def modularBuild : BuildConfig where
  output := ⟨"out"⟩
  roots := [{ sourceFolder := ⟨"src"⟩ }, { sourceFolder := ⟨"src9"⟩, release := some 9 }]

/-- The root of the baseline, which belongs to the module. -/
def modularBaseline : SourceRoot :=
  { SourceRoot.ofFolders ⟨"src"⟩ ⟨"out"⟩ none with module := some { name := "app" } }

/-- The root of the overlay, which belongs to none. -/
def modularOverlay : SourceRoot := .ofFolders ⟨"src9"⟩ ⟨"out"⟩ (some 9)

/-- The classpath of the build. -/
def modularClasspath : Environment :=
  ⟨[⟨.sourceRoot modularBaseline, ""⟩, ⟨.sourceRoot modularOverlay, ""⟩]⟩

theorem wellFormed_modularFiles : modularFiles.WellFormed :=
  Files.wellFormed_of_forall (by decide) (by decide)

theorem linkFree_modularFiles : modularFiles.LinkFree := Files.linkFree_of_forall (by decide)

theorem leads_modularFiles {name : String} (hfolder : name ∈ ["out", "src", "src9"]) :
    modularFiles.Leads [name] ⟨name⟩ [] := by
  have hentry : modularFiles.entryAt? (modularFiles.workingFolder ++ [name]) = some .folder := by
    simp only [List.mem_cons, List.not_mem_nil, or_false] at hfolder
    rcases hfolder with rfl | rfl | rfl <;> rfl
  exact Files.leads_name wellFormed_modularFiles linkFree_modularFiles hentry

theorem read?_modularFiles {name : String} (hfolder : name ∈ ["out", "src", "src9"])
    {content : Content} :
    modularFiles.read? (Path.child ⟨name⟩ (moduleInfoName ++ sourceSuffix)) = some content ↔
      ∃ executable,
        ([name, "module-info.java"], .file content executable) ∈ modularFiles.entries :=
  (leads_modularFiles hfolder).read?_inside_iff wellFormed_modularFiles
    linkFree_modularFiles (List.cons_ne_nil "module-info.java" []) (by decide)

/-- The sources of the baseline declare the module. -/
theorem declaration_modularFiles :
    modularFiles.isFile (Path.child ⟨"src"⟩ (moduleInfoName ++ sourceSuffix)) = true ∧
      modularFiles.readDeclaration (Path.child ⟨"src"⟩ (moduleInfoName ++ sourceSuffix))
        (.ofRelease .unversioned) = .ok { name := "app" } := by
  have hread := (read?_modularFiles (by decide)).2
    ⟨false, Files.mem_of_entryAt? (by decide) (show
      modularFiles.entryAt? ["src", "module-info.java"]
        = some (.file (.ofBytes "module app { }".toUTF8.toList) false) from rfl)⟩
  constructor
  · rw [Files.isFile_eq_isSome, hread]
    rfl
  · rw [Files.readDeclaration, hread]
    decide +kernel

theorem not_isFile_modularFiles : modularFiles.isFile
    (Path.child ⟨"src9"⟩ (moduleInfoName ++ sourceSuffix)) = false := by
  rw [Files.isFile_eq_isSome, Option.isSome_eq_false_iff, Option.isNone_iff_eq_none,
    Option.eq_none_iff_forall_ne_some]
  intro content hread
  obtain ⟨executable, hmem⟩ := (read?_modularFiles (by decide)).1 hread
  simp [modularFiles, Validation.sampleOutput] at hmem

/-- There is no JDK in any of the usual places. -/
theorem jdk?_modularBuild : modularBuild.jdk? modularFiles [] = .ok none := by
  have hfolder : ∀ folder ∈ Jdk.usualFolders, Jdk.homeInFolder? modularFiles folder = none := by
    intro folder hfolder
    have hmissing : modularFiles.resolve? folder = none := by
      simp only [Jdk.usualFolders, List.mem_cons, List.not_mem_nil, or_false] at hfolder
      rcases hfolder with rfl | rfl | rfl
      · exact Files.resolve?_eq_none_of_missing (show _ = "usr" :: ["lib", "jvm"] by decide)
          (by decide) rfl
      · exact Files.resolve?_eq_none_of_missing (show _ = "usr" :: ["java"] by decide)
          (by decide) rfl
      · exact Files.resolve?_eq_none_of_missing (show _ = "opt" :: ["java"] by decide)
          (by decide) rfl
    rw [Jdk.homeInFolder?, Files.isFolder, Files.entry?, hmissing]
    rfl
  have hhome : Jdk.discoverHome? modularFiles [] = none :=
    List.findSome?_eq_none_iff.2 hfolder
  show Except.ok (Jdk.discover modularFiles []).toOption = _
  rw [Jdk.discover, hhome]
  rfl

theorem sourceRoots_modularBuild : modularBuild.sourceRoots modularFiles
    = .ok [modularBaseline, modularOverlay] := by
  obtain ⟨hfile, hdeclaration⟩ := declaration_modularFiles
  have hbaseline : modularBaseline.declaredModule? modularFiles = some { name := "app" } :=
    (if_pos hfile).trans (congrArg Except.toOption hdeclaration)
  have hoverlay : modularOverlay.declaredModule? modularFiles = none :=
    if_neg (Bool.not_eq_true _ ▸ not_isFile_modularFiles)
  have hroots : modularBuild.sourceRoots modularFiles
      = .ok [{ modularBaseline with module := modularBaseline.declaredModule? modularFiles },
        { modularOverlay with module := modularOverlay.declaredModule? modularFiles }] := rfl
  rw [hroots, hbaseline, hoverlay]
  rfl

theorem environment_modularBuild :
    modularBuild.environment modularFiles [] = .ok modularClasspath := by
  have hvalid : modularBuild.validate = .ok () := by decide
  rw [BuildConfig.environment, hvalid, sourceRoots_modularBuild, jdk?_modularBuild]
  rfl

theorem ownAnswer_modularBaseline : (modularBaseline.ownAnswer modularFiles (.inPackage "T" [])
    .any).isSome = true := by
  have hmem : (["out"] ++ [] ++ (Query.inPackage "T" []).classNames [],
      FileEntry.file (.ofBytes (Validation.sampleStub ["run"]).encode) false)
        ∈ modularFiles.entries := Files.mem_of_entryAt? (by decide) rfl
  rw [SourceRoot.ownAnswer_eq_of_mem wellFormed_modularFiles linkFree_modularFiles
    (leads_modularFiles (by decide)) (SourceRoot.upToDate_of_fresh rfl) rfl (by decide) hmem
    (Validation.parse_sampleStub ["run"] (by decide))]
  rfl

theorem ownAnswer_modularOverlay : (modularOverlay.ownAnswer modularFiles (.inPackage "T" [])
    .any).isSome = true := by
  have hmem : (["out"] ++ Validation.overlayNames 9 ++ (Query.inPackage "T" []).classNames [],
      FileEntry.file (.ofBytes (Validation.sampleStub ["run", "stop"]).encode) false)
        ∈ modularFiles.entries := Files.mem_of_entryAt? (by decide) rfl
  rw [SourceRoot.ownAnswer_eq_of_mem wellFormed_modularFiles linkFree_modularFiles
    (Validation.leads_overlay (leads_modularFiles (by decide)) 9)
    (SourceRoot.upToDate_of_fresh rfl) rfl (by decide) hmem
    (Validation.parse_sampleStub ["run", "stop"] (by decide))]
  rfl

/-- The overlay is asked first. -/
theorem answeringPosition?_modularClasspath (constraint : ModuleConstraint) :
    modularClasspath.answeringPosition? modularFiles {} (.inPackage "T" []) constraint (.java 9)
      = if (modularOverlay.ownAnswer modularFiles (.inPackage "T" []) constraint).isSome then some 1
        else if (modularBaseline.ownAnswer modularFiles (.inPackage "T" []) constraint).isSome
          then some 0
        else none := by
  have horder : resolutionOrder (modularClasspath.locations.map Location.release) (.java 9)
      = [1, 0] := by decide +kernel
  have hoverlay : modularClasspath.answerAt modularFiles (.inPackage "T" []) constraint (.java 9)
      {} 1 = modularOverlay.ownAnswer modularFiles (.inPackage "T" []) constraint :=
    modularOverlay.find_fst _ _ constraint (.java 9)
  have hbaseline : modularClasspath.answerAt modularFiles (.inPackage "T" []) constraint (.java 9)
      {} 0 = modularBaseline.ownAnswer modularFiles (.inPackage "T" []) constraint :=
    modularBaseline.find_fst _ _ constraint (.java 9)
  rw [answeringPosition?, horder, List.find?_cons, List.find?_cons, List.find?_nil, hoverlay,
    hbaseline]
  cases (modularOverlay.ownAnswer modularFiles (.inPackage "T" []) constraint).isSome with
  | true => rfl
  | false =>
    cases (modularBaseline.ownAnswer modularFiles (.inPackage "T" []) constraint).isSome <;> rfl

theorem answeringPosition?_any_modularClasspath :
    modularClasspath.answeringPosition? modularFiles {} (.inPackage "T" []) .any (.java 9)
      = some 1 := by
  rw [answeringPosition?_modularClasspath, ownAnswer_modularOverlay]
  rfl

/-- **An overlay that does not repeat the declaration is passed over.** -/
theorem exists_overlay_passed_over :
    modularBuild.environment modularFiles [] = .ok modularClasspath ∧
      (∃ root ∈ modularBuild.roots, Release.overlay root.release = .unversioned ∧
        root.Declares modularFiles "app") ∧
      (∀ root ∈ modularBuild.roots, Release.overlay root.release ≠ .unversioned →
        modularFiles.isFile (root.sourceFolder.child (moduleInfoName ++ sourceSuffix)) = false) ∧
      modularClasspath.answeringPosition? modularFiles {} (.inPackage "T" []) .any (.java 9)
        = some 1 ∧
      modularClasspath.answeringPosition? modularFiles {} (.inPackage "T" []) (.named "app")
        (.java 9) = some 0 := by
  obtain ⟨hfile, hdeclaration⟩ := declaration_modularFiles
  refine ⟨environment_modularBuild, ⟨_, List.mem_cons_self, rfl, hfile, _, hdeclaration, rfl⟩, ?_,
    answeringPosition?_any_modularClasspath, ?_⟩
  · intro root hroot hversioned
    simp only [modularBuild, List.mem_cons, List.not_mem_nil, or_false] at hroot
    rcases hroot with rfl | rfl
    · exact absurd rfl hversioned
    · exact not_isFile_modularFiles
  · rw [answeringPosition?_modularClasspath, SourceRoot.ownAnswer_named,
      SourceRoot.ownAnswer_named, if_neg (show ¬ modularOverlay.moduleName = some "app" by decide),
      if_pos (show modularBaseline.moduleName = some "app" by rfl), ownAnswer_modularBaseline]
    rfl

/-- The classpath after the lookup out of the module. -/
def modularClasspathUsed : Environment × Sessions :=
  (modularClasspath.find modularFiles {} (.inPackage "T" []) .any (.java 9)).2

theorem answered_in_module_iff_sample :
    modularBuild.environment modularFiles [] = .ok modularClasspath ∧
      modularBuild.roots[1]? = some { sourceFolder := ⟨"src9"⟩, release := some 9 } ∧
      modularClasspath.answeringPosition? modularFiles {} (.inPackage "T" []) .any (.java 9)
        = some 1 ∧
      (modularClasspathUsed.1.answeringPosition? modularFiles modularClasspathUsed.2
          (.inPackage "T" []) (.named "app") (.java 9) = some 1 ↔
        SourceRootConfig.Declares { sourceFolder := ⟨"src9"⟩, release := some 9 } modularFiles
          "app") ∧
      ∀ answer, (modularClasspathUsed.1.find modularFiles modularClasspathUsed.2
        (.inPackage "T" []) (.named "app") (.java 9)).1 = some answer →
          answer.release ≤ .java 9 := by
  have hstart : modularBuild.environment modularFiles []
      = .ok (modularClasspath, ({} : Sessions)).1 := environment_modularBuild
  obtain ⟨hiff, -, hnewer⟩ := answered_in_module_iff hstart .start
    (.lookup .start (.inPackage "T" []) .any (.java 9)) rfl answeringPosition?_any_modularClasspath
  exact ⟨hstart, rfl, answeringPosition?_any_modularClasspath, hiff, hnewer⟩

end Environment

end MultiRelease
