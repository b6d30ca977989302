import MultiRelease.Proofs.ClassFile.StubRoundTrip
import MultiRelease.Proofs.Environment.FirstAnswer
import MultiRelease.Proofs.Location.ClassFiles
import MultiRelease.Proofs.Validation.Comparison
import MultiRelease.Proofs.Validation.Variants

/-!
# Overlays in place of the baseline

A validation walks through the output folder and compares the class files that it finds.  A lookup
asks one root after the other, which lists packages.  Neither knows of the other, but both end up at
the same class files, and so a validation that reports nothing says something about lookups: a type
that a lookup at a release finds compiled has all public members of the type that is found without a
release (`Validation.hasMembersOf_of_clean`).

* The roots of a classpath are those that a lookup asks (`Environment.exists_root_of_answers`,
  `Environment.exists_answers_of_root`).
* The roots share one output folder (`Validation.SharedOutput`).  The one without a release writes
  to the folder itself, and those of a release to the overlay of that release, so that the binary
  folder of a root leads to a place inside the output folder
  (`Validation.SharedOutput.leads_binaryFolder`).
* The class file in an overlay and that of the baseline are variants of one type, and all the
  unversioned ones are the latter (`Validation.covers_of_shared`).
* A lookup without a release finds the class file of the baseline
  (`Validation.exists_find_unversioned`).

The last point is why class files have to hold types.  A root whose class file cannot be read does
not answer, and then the lookup without a release would find something else than what was compared,
or nothing.
-/

set_option autoImplicit false

namespace MultiRelease

open Text

/-! ## Members -/

/-- A type has all the public members of another one, by name and descriptor. -/
structure BinaryType.HasMembersOf (type baseline : BinaryType) : Prop where
  methods : ∀ m ∈ baseline.publicMethods, ∃ other ∈ type.publicMethods,
    other.name = m.name ∧ other.descriptor = m.descriptor
  fields : ∀ m ∈ baseline.publicFields, ∃ other ∈ type.publicFields,
    other.name = m.name ∧ other.descriptor = m.descriptor

theorem BinaryType.HasMembersOf.refl (type : BinaryType) : type.HasMembersOf type :=
  ⟨fun m hm => ⟨m, hm, rfl, rfl⟩, fun m hm => ⟨m, hm, rfl, rfl⟩⟩

theorem ApiSignature.covers_ofType_iff {type baseline : BinaryType} :
    (ofType type).Covers (ofType baseline) ↔ type.HasMembersOf baseline := by
  have hkeys : ∀ {members others : List Member},
      (∀ key ∈ keysOf others, key ∈ keysOf members) ↔
        ∀ m ∈ others, ∃ other ∈ members,
          other.name = m.name ∧ other.descriptor = m.descriptor := by
    intro members others
    constructor
    · exact fun h m hm => mem_keysOf.1 (h (m.name, m.descriptor) (mem_keysOf.2 ⟨m, hm, rfl, rfl⟩))
    · intro h key hkey
      obtain ⟨m, hm, hname, hdescriptor⟩ := mem_keysOf.1 hkey
      rw [mem_keysOf, ← hname, ← hdescriptor]
      exact h m hm
  exact ⟨fun h => ⟨hkeys.1 h.methods, hkeys.1 h.fields⟩,
    fun h => ⟨hkeys.2 h.methods, hkeys.2 h.fields⟩⟩

/-! ## The roots of a classpath -/

namespace Environment

variable {environment : Environment} {files : Files} {roots : List SourceRoot}
  {query : Query} {constraint : ModuleConstraint} {release : Release}

/-- Whatever answers is a root. -/
theorem exists_root_of_answers (hroots : environment.locations = roots.map .sourceRoot)
    {sessions : Sessions} {position : Nat} {entry : ClasspathEntry} {answer : Answer}
    (h : Answers environment files sessions query constraint release position entry answer) :
    ∃ root ∈ roots, root.release.appliesTo release = true ∧
      root.ownAnswer files query constraint = some answer := by
  have hlocation : entry.location ∈ environment.locations :=
    List.mem_map_of_mem (List.mem_of_getElem? h.found)
  rw [hroots] at hlocation
  obtain ⟨root, hroot, hlocation⟩ := List.mem_map.1 hlocation
  have happlies := h.applies
  have hanswers := h.answers
  rw [ClasspathEntry.answer, Location.find_eq_ownAnswer _ _ _ _ _ (.inr (by rw [← hlocation]; rfl)),
    if_pos happlies] at hanswers
  rw [← hlocation] at happlies hanswers
  exact ⟨root, hroot, happlies, hanswers⟩

/-- Every root answers that applies to the release and has an answer. -/
theorem exists_answers_of_root (hroots : environment.locations = roots.map .sourceRoot)
    {root : SourceRoot} (hroot : root ∈ roots) (happlies : root.release.appliesTo release = true)
    {answer : Answer} (hanswer : root.ownAnswer files query constraint = some answer)
    (sessions : Sessions) : ∃ position entry,
      Answers environment files sessions query constraint release position entry answer := by
  have hlocation : Location.sourceRoot root ∈ environment.locations := by
    rw [hroots]
    exact List.mem_map_of_mem hroot
  obtain ⟨entry, hentry, hlocation⟩ := List.mem_map.1 hlocation
  obtain ⟨position, hposition⟩ := List.getElem?_of_mem hentry
  refine ⟨position, entry, hposition, by rwa [hlocation], ?_⟩
  rw [ClasspathEntry.answer, Location.find_eq_ownAnswer _ _ _ _ _ (.inr (by rw [hlocation]; rfl)),
    hlocation]
  exact (if_pos happlies).trans hanswer

end Environment

namespace Validation

/-! ## Shared outputs -/

variable {files : Files} {roots : List SourceRoot} {output : Path} {home : Address}

/-- The roots share an output folder.  A root bound to a release writes to the overlay of that
release.  No root remembers what is not there any more. -/
structure SharedOutput (files : Files) (roots : List SourceRoot) (output : Path) : Prop where
  output : ∀ root ∈ roots, files.resolve? root.outputFolder = files.resolve? output
  binary : ∀ root ∈ roots,
    root.binaryFolder = SourceRoot.binaryFolderOf root.outputFolder root.release
  upToDate : ∀ root ∈ roots, root.UpToDate files

/-- The names that lead from the output folder to where the classes of a release are written. -/
def releaseNames : Release → List String
  | .unversioned => []
  | .java number => overlayNames number

theorem properName_release (release : Release) :
    ∀ name ∈ releaseNames release, ProperName name := by
  cases release with
  | unversioned => simp [releaseNames]
  | java number => exact properName_overlay number

namespace SharedOutput

theorem leads (h : SharedOutput files roots output) (hlf : files.LinkFree)
    (hhome : files.resolve? output = some home) {folder : Path}
    (hfolder : folder ∈ outputFolders roots) : files.Leads home folder [] := by
  obtain ⟨root, hroot, rfl⟩ := List.mem_map.1 (mem_of_mem_sortedDistinct hfolder)
  exact hlf.leads ((h.output root hroot).trans hhome)

/-- The binary folder of a root stands in the shared output folder, where the overlay of its release
belongs. -/
theorem leads_binaryFolder (h : SharedOutput files roots output) (hlf : files.LinkFree)
    (hhome : files.resolve? output = some home) {root : SourceRoot} (hroot : root ∈ roots) :
    files.Leads home root.binaryFolder (releaseNames root.release) := by
  have houtput := hlf.leads ((h.output root hroot).trans hhome)
  rw [h.binary root hroot]
  cases root.release with
  | unversioned => exact houtput
  | java number => exact leads_overlay houtput number

/-- Roots that are made of an output folder and their releases share that folder. -/
theorem of_ofFolders
    (h : ∀ root ∈ roots, ∃ source release, root = SourceRoot.ofFolders source output release) :
    SharedOutput files roots output where
  output root hroot := by
    obtain ⟨source, release, rfl⟩ := h root hroot
    rfl
  binary root hroot := by
    obtain ⟨source, release, rfl⟩ := h root hroot
    rfl
  upToDate root hroot := by
    obtain ⟨source, release, rfl⟩ := h root hroot
    exact SourceRoot.upToDate_of_fresh rfl

end SharedOutput

/-! ## Compared variants -/

/-- A class file that holds a type is compared as that type. -/
theorem signatureOf_of_read? {variant : TypeVariant} {content : Content} {type : BinaryType}
    (hread : files.read? variant.classFile = some content)
    (hparse : parseBinaryType content.bytes = .ok type) :
    signatureOf files variant = some (.ofType type) := by
  rw [signatureOf, hread, Option.bind_some, hparse]
  rfl

section

variable (hwf : files.WellFormed) (hlf : files.LinkFree) (hshared : SharedOutput files roots output)
  (hhome : files.resolve? output = some home)
include hwf hlf hshared hhome

/-- **The class file of the baseline is the only unversioned one of its type.** -/
theorem signatureOf_unversioned {inner : List String} {content : Content} {executable : Bool}
    (hmem : (home ++ inner, .file content executable) ∈ files.entries) {typeName : String}
    (htype : withoutSuffix? classSuffix ("/".intercalate inner) = some typeName)
    {type : BinaryType} (hparse : parseBinaryType content.bytes = .ok type)
    {variant : TypeVariant} (hvariant : (typeName, variant) ∈ allVariants files roots)
    (hrelease : variant.release = .unversioned) :
    signatureOf files variant = some (.ofType type) := by
  obtain ⟨folder, hfolder, hfound⟩ := List.mem_flatMap.1 hvariant
  obtain ⟨other, found, _, hother, hname, hread⟩ :=
    exists_of_unversioned hwf hlf (hshared.leads hlf hhome hfolder) hfound hrelease
  -- class files of one type have the same names
  obtain rfl := eq_of_intercalate (hwf.proper_below hother) (hwf.proper_below hmem)
    (eq_of_withoutSuffix? hname htype)
  obtain ⟨rfl, -⟩ := FileEntry.file.inj (hwf.unique _ _ _ hother hmem)
  exact signatureOf_of_read? hread hparse

/-- **A clean validation says that the class file in an overlay covers that of the baseline.** -/
theorem covers_of_shared {session : Session} (hclean : (validate files roots session).2.1 = [])
    (hroots : roots ≠ []) {inner : List String} (hinner : inner ≠ [])
    (houtside : ¬ versionsNames <+: inner) {typeName : String}
    (htype : withoutSuffix? classSuffix ("/".intercalate inner) = some typeName)
    {content : Content} {executable : Bool}
    (hmem : (home ++ inner, .file content executable) ∈ files.entries)
    {baseline : BinaryType} (hbaseline : parseBinaryType content.bytes = .ok baseline)
    {number : UInt16} {overlayContent : Content} {overlayExecutable : Bool}
    (hoverlay : (home ++ overlayNames number ++ inner,
      .file overlayContent overlayExecutable) ∈ files.entries)
    {type : BinaryType} (hparse : parseBinaryType overlayContent.bytes = .ok type) :
    (ApiSignature.ofType type).Covers (.ofType baseline) := by
  obtain ⟨folder, hfolder⟩ := List.exists_mem_of_ne_nil (outputFolders roots)
    (sortedDistinct_ne_nil (by simpa using hroots))
  have hleads := hshared.leads hlf hhome hfolder
  have hbase : (typeName, ⟨inner.foldl Path.child folder, .unversioned⟩)
      ∈ allVariants files roots :=
    List.mem_flatMap.2 ⟨folder, hfolder,
      mem_variantsOfOutput_baseline hwf hlf hleads hinner hmem houtside htype⟩
  obtain ⟨overlay, hfollow, hfound⟩ :=
    mem_variantsOfOutput_overlay hwf hlf hleads hinner number hoverlay htype
  obtain ⟨variants, hgroup, hvariants⟩ := exists_group hbase
  refine covers_of_clean hclean hgroup ((hvariants _).2 hbase)
    ((hvariants _).2 (List.mem_flatMap.2 ⟨folder, hfolder, hfound⟩)) rfl rfl ?_ ?_
  · exact fun variant hvariant hrelease => signatureOf_unversioned hwf hlf hshared hhome hmem htype
      hbaseline ((hvariants variant).1 hvariant) hrelease
  · exact signatureOf_of_read? (hfollow.read?_foldl_child hwf hlf hinner hoverlay) hparse

end

/-! ## Lookups -/

/-- Every class file in a folder holds a type. -/
def ClassFilesParse (files : Files) (folder : Path) : Prop :=
  ∀ names name content, files.Holds folder (names ++ [name]) content →
    isClassFileName name = true → ∃ type, parseBinaryType content.bytes = .ok type

section

variable {environment : Environment} {query : Query} {package : List String} {content : Content}
  {executable : Bool} {baseline : BinaryType}

/-- A lookup without a release finds the class file of the baseline. -/
theorem exists_find_unversioned (hwf : files.WellFormed) (hlf : files.LinkFree)
    (hshared : SharedOutput files roots output) (hhome : files.resolve? output = some home)
    (hbase : ∃ root ∈ roots, root.release = .unversioned)
    (hroots : environment.locations = roots.map .sourceRoot)
    (hpackage : query.packageName = "/".intercalate package)
    (hmem : (home ++ query.classNames package, .file content executable) ∈ files.entries)
    (hbaseline : parseBinaryType content.bytes = .ok baseline) (sessions : Sessions) :
    ∃ answer, (environment.find files sessions query .any .unversioned).1 = some answer ∧
      answer.kind = .binary baseline := by
  have hproper := hwf.proper_below hmem
  rw [← List.append_nil home] at hmem
  have hown : ∀ root ∈ roots, root.release = .unversioned → root.ownAnswer files query .any
      = some ⟨.binary baseline, root.moduleName, root.release, none⟩ := by
    intro root hroot hrelease
    have hleads := hshared.leads_binaryFolder hlf hhome hroot
    rw [hrelease] at hleads
    exact root.ownAnswer_eq_of_mem hwf hlf hleads (hshared.upToDate root hroot) hpackage hproper
      hmem hbaseline
  cases hfind : (environment.find files sessions query .any .unversioned).1 with
  | none =>
    obtain ⟨root, hroot, hrelease⟩ := hbase
    have happlies : root.release.appliesTo .unversioned = true := by
      rw [hrelease]
      rfl
    obtain ⟨position, entry, hanswers⟩ := Environment.exists_answers_of_root hroots hroot happlies
      (hown root hroot hrelease) sessions
    exact absurd hanswers (Environment.find_eq_none_iff.1 hfind position entry _)
  | some answer =>
    obtain ⟨position, entry, hanswers, -⟩ := Environment.preferred_of_find_eq_some hfind
    obtain ⟨root, hroot, happlies, hanswer⟩ := Environment.exists_root_of_answers hroots hanswers
    have hrelease : root.release = .unversioned := by
      cases hrelease : root.release with
      | unversioned => rfl
      | java number => rw [hrelease] at happlies; cases happlies
    rw [hown root hroot hrelease, Option.some_inj] at hanswer
    exact ⟨answer, rfl, by rw [← hanswer]⟩

/-- **A clean validation makes overlays safe.**  The roots of a classpath share one output folder,
in a tree without links whose class files all hold types, and the validation of these roots reports
nothing.  If a lookup at a release finds a type compiled that has a class file in the output folder,
outside the overlays, then the lookup without a release finds it compiled as well, and none of the
public members that it finds there is missing. -/
theorem hasMembersOf_of_clean (hwf : files.WellFormed) (hlf : files.LinkFree)
    (hshared : SharedOutput files roots output)
    (hbase : ∃ root ∈ roots, root.release = .unversioned)
    (hparse : ClassFilesParse files output) {session : Session}
    (hclean : (validate files roots session).2.1 = [])
    (hroots : environment.locations = roots.map .sourceRoot)
    (hpackage : query.packageName = "/".intercalate package)
    (hholds : files.Holds output (query.classNames package) content)
    (houtside : ¬ versionsNames <+: query.classNames package) {sessions : Sessions}
    {number : UInt16} {answer : Answer}
    (hfind : (environment.find files sessions query .any (.java number)).1 = some answer)
    {type : BinaryType} (hkind : answer.kind = .binary type) (sessions' : Sessions) :
    ∃ base baseline,
      (environment.find files sessions' query .any .unversioned).1 = some base ∧
        base.kind = .binary baseline ∧ type.HasMembersOf baseline := by
  obtain ⟨baseline, hbaseline⟩ := hparse package query.binaryFileName content hholds
    (hasSuffix_append _ classSuffix)
  obtain ⟨home, executable, hhome, hmem⟩ := hholds
  obtain ⟨base, hunversioned, hbinary⟩ := exists_find_unversioned hwf hlf hshared hhome hbase hroots
    hpackage hmem hbaseline sessions'
  refine ⟨base, baseline, hunversioned, hbinary, ?_⟩
  have hproper := hwf.proper_below hmem
  obtain ⟨position, entry, hanswers, -⟩ := Environment.preferred_of_find_eq_some hfind
  obtain ⟨root, hroot, -, hanswer⟩ := Environment.exists_root_of_answers hroots hanswers
  obtain ⟨found, _, hfound, hfoundParse⟩ := root.exists_of_ownAnswer hwf hlf
    (hshared.leads_binaryFolder hlf hhome hroot)
    (fun name hname => (List.mem_append.1 hname).elim (properName_release _ name) (hproper name))
    hpackage hanswer hkind
  cases hrelease : root.release with
  | unversioned =>
    -- both lookups end at the class file of the baseline
    rw [hrelease, releaseNames, List.append_nil] at hfound
    obtain ⟨rfl, -⟩ := FileEntry.file.inj (hwf.unique _ _ _ hfound hmem)
    obtain rfl := Except.ok.inj (hfoundParse.symm.trans hbaseline)
    exact .refl type
  | java bound =>
    rw [hrelease] at hfound
    have htype : withoutSuffix? classSuffix ("/".intercalate (query.classNames package))
        = some query.qualifiedTypeName := by
      rw [← Query.qualifiedBinaryFileName_eq hpackage fun name hname =>
        hproper name (List.mem_append_left _ hname)]
      exact withoutSuffix?_append _ classSuffix
    have hcovers := covers_of_shared hwf hlf hshared hhome hclean (List.ne_nil_of_mem hroot)
      (by simp [Query.classNames]) houtside htype hmem hbaseline hfound hfoundParse
    exact ApiSignature.covers_ofType_iff.1 hcovers

end

/-! ## A sample -/

/-- A class file of a type `T` with the given public methods. -/
def sampleStub (methods : List String) : Stub :=
  { name := "T", methods := methods.map fun name => ⟨name, "()V", publicFlag⟩ }

/-- An output folder with a type and a version of it for release 9, which can do more. -/
def sampleOutput : Files where
  entries := [(["out"], .folder),
    (["out", "T.class"], .file (.ofBytes (sampleStub ["run"]).encode) false),
    (["out", "META-INF"], .folder),
    (["out", "META-INF", "versions"], .folder),
    (["out", "META-INF", "versions", "9"], .folder),
    (["out", "META-INF", "versions", "9", "T.class"],
      .file (.ofBytes (sampleStub ["run", "stop"]).encode) false)]

/-- The baseline and the overlay. -/
def sampleRoots : List SourceRoot :=
  [.ofFolders ⟨"src"⟩ ⟨"out"⟩ none, .ofFolders ⟨"src9"⟩ ⟨"out"⟩ (some 9)]

/-- The classpath of the two. -/
def sampleClasspath : Environment := ⟨sampleRoots.map fun root => ⟨.sourceRoot root, ""⟩⟩

theorem wellFormed_sampleOutput : sampleOutput.WellFormed :=
  Files.wellFormed_of_forall (by decide) (by decide)

theorem linkFree_sampleOutput : sampleOutput.LinkFree := Files.linkFree_of_forall (by decide)

theorem parse_sampleStub : ∀ methods ∈ [["run"], ["run", "stop"]],
    parseBinaryType (Content.ofBytes (sampleStub methods).encode).bytes
      = .ok (sampleStub methods).type := by
  decide +kernel

theorem resolve?_sampleOutput : sampleOutput.resolve? ⟨"out"⟩ = some ["out"] := by
  have hentry : sampleOutput.entryAt? (sampleOutput.workingFolder ++ ["out"]) = some .folder := rfl
  have hresolve := Files.resolve?_intercalate wellFormed_sampleOutput linkFree_sampleOutput
    (List.cons_ne_nil "out" []) hentry
  rwa [String.intercalate_singleton] at hresolve

theorem leads_sampleOutput : sampleOutput.Leads ["out"] ⟨"out"⟩ [] :=
  linkFree_sampleOutput.leads resolve?_sampleOutput

theorem sharedOutput_sampleOutput : SharedOutput sampleOutput sampleRoots ⟨"out"⟩ := by
  refine .of_ofFolders fun root hroot => ?_
  simp only [sampleRoots, List.mem_cons, List.not_mem_nil, or_false] at hroot
  rcases hroot with rfl | rfl <;> exact ⟨_, _, rfl⟩

theorem classFilesParse_sampleOutput : ClassFilesParse sampleOutput ⟨"out"⟩ := by
  rintro names name content ⟨home, executable, -, hmem⟩ -
  have hcontent : ∃ methods ∈ [["run"], ["run", "stop"]],
      content = .ofBytes (sampleStub methods).encode := by
    simp only [sampleOutput, List.mem_cons, Prod.mk.injEq, FileEntry.file.injEq, reduceCtorEq,
      and_false, false_or, List.not_mem_nil, or_false] at hmem
    rcases hmem with ⟨-, rfl, -⟩ | ⟨-, rfl, -⟩
    · exact ⟨["run"], by decide, rfl⟩
    · exact ⟨["run", "stop"], by decide, rfl⟩
  obtain ⟨methods, hmethods, rfl⟩ := hcontent
  exact ⟨_, parse_sampleStub methods hmethods⟩

theorem variantsOfOutput_sampleOutput : variantsOfOutput sampleOutput ⟨"out"⟩
    = [("T", ⟨⟨"out/T.class"⟩, .unversioned⟩),
        ("T", ⟨⟨"out/META-INF/versions/9/T.class"⟩, .java 9⟩)] := by
  have hversions : Path.child ⟨"out"⟩ versionsFolder = ⟨"out/META-INF/versions"⟩ := by
    decide
  have hnine : Path.child ⟨"out/META-INF/versions"⟩ (toString (9 : UInt16).toNat)
      = ⟨"out/META-INF/versions/9"⟩ := by decide
  have hleads := leads_sampleOutput
  have hleadsVersions := leads_versions hleads
  have hleadsNine := leads_overlay hleads 9
  rw [hversions] at hleadsVersions hleadsNine
  rw [hnine] at hleadsNine
  have hlist := (hleadsVersions.list?_iff wellFormed_sampleOutput linkFree_sampleOutput
    properName_versions).2 ⟨rfl, rfl⟩
  have hfolders : overlayFolders sampleOutput ⟨"out"⟩ = [(⟨"out/META-INF/versions/9"⟩, 9)] := by
    rw [overlayFolders, hversions, hlist]
    decide
  simp only [variantsOfOutput, hfolders, List.flatMap_cons, List.flatMap_nil, variantsBelow,
    hleads.below_eq wellFormed_sampleOutput linkFree_sampleOutput rfl,
    hleadsNine.below_eq wellFormed_sampleOutput linkFree_sampleOutput rfl]
  decide

theorem outputFolders_sampleRoots : outputFolders sampleRoots = [⟨"out"⟩] := by
  rw [outputFolders, sortedDistinct, List.mergeSort_of_pairwise (by decide)]
  decide

theorem collectVariants_sampleOutput : (collectVariants sampleOutput sampleRoots).entries
    = [("T", [⟨⟨"out/T.class"⟩, .unversioned⟩,
        ⟨⟨"out/META-INF/versions/9/T.class"⟩, .java 9⟩])] := by
  rw [collectVariants, outputFolders_sampleRoots, List.flatMap_singleton, variantsOfOutput_sampleOutput]
  decide

theorem signatureOf_sampleOutput {text : String} {release : Release} (names methods : List String)
    (htext : "/".intercalate names = text) (hnames : names ≠ [])
    (hentry : sampleOutput.entryAt? names
      = some (.file (.ofBytes (sampleStub methods).encode) false))
    (hmethods : methods ∈ [["run"], ["run", "stop"]]) :
    signatureOf sampleOutput ⟨⟨text⟩, release⟩ = some (.ofType (sampleStub methods).type) := by
  rw [← htext]
  exact signatureOf_of_read? (Files.read?_intercalate wellFormed_sampleOutput linkFree_sampleOutput
    hnames hentry) (parse_sampleStub methods hmethods)

theorem clean_sampleOutput : (validate sampleOutput sampleRoots {}).2.1 = [] := by
  have hbaseline : signatureOf sampleOutput ⟨⟨"out/T.class"⟩, .unversioned⟩
      = some (.ofType (sampleStub ["run"]).type) :=
    signatureOf_sampleOutput ["out", "T.class"] ["run"] (by decide) (by decide) rfl
      (by decide)
  have hoverlay : signatureOf sampleOutput ⟨⟨"out/META-INF/versions/9/T.class"⟩, .java 9⟩
      = some (.ofType (sampleStub ["run", "stop"]).type) :=
    signatureOf_sampleOutput ["out", "META-INF", "versions", "9", "T.class"] ["run", "stop"]
      (by decide) (by decide) rfl (by decide)
  have hcovers : (ApiSignature.ofType (sampleStub ["run", "stop"]).type).Covers
      (.ofType (sampleStub ["run"]).type) :=
    ApiSignature.covers_ofType_iff.2 ⟨by decide, by decide⟩
  rw [problems_validate, collectVariants_sampleOutput, List.flatMap_singleton]
  dsimp only
  rw [reportsOfType, List.mergeSort_of_pairwise (by decide)]
  simp only [hbaseline, hoverlay, List.flatMap_cons, List.flatMap_nil, reportsOfVariant,
    missingMembers_eq_nil_iff.2 hcovers, List.append_nil]

theorem find_sampleClasspath : (sampleClasspath.find sampleOutput {} (.inPackage "T" []) .any
    (.java 9)).1 = some ⟨.binary (sampleStub ["run", "stop"]).type, none, .java 9, none⟩ := by
  have hmem : (["out"] ++ overlayNames 9 ++ (Query.inPackage "T" []).classNames [],
      FileEntry.file (.ofBytes (sampleStub ["run", "stop"]).encode) false) ∈ sampleOutput.entries :=
    Files.mem_of_entryAt? (by decide) rfl
  have hown : (SourceRoot.ofFolders ⟨"src9"⟩ ⟨"out"⟩ (some 9)).ownAnswer sampleOutput
      (.inPackage "T" []) .any
        = some ⟨.binary (sampleStub ["run", "stop"]).type, none, .java 9, none⟩ :=
    SourceRoot.ownAnswer_eq_of_mem wellFormed_sampleOutput linkFree_sampleOutput
      (leads_overlay leads_sampleOutput 9) (SourceRoot.upToDate_of_fresh rfl) rfl (by decide) hmem
      (parse_sampleStub _ (by decide))
  -- the overlay is asked first
  have horder : Environment.resolutionOrder
      (sampleClasspath.locations.map Location.release) (.java 9) = [1, 0] := by decide +kernel
  have hanswer : sampleClasspath.answerAt sampleOutput (.inPackage "T" []) .any (.java 9) {} 1
      = some ⟨.binary (sampleStub ["run", "stop"]).type, none, .java 9, none⟩ :=
    (Location.find_eq_ownAnswer (.sourceRoot (.ofFolders ⟨"src9"⟩ ⟨"out"⟩ (some 9))) _ _ _ _
      (.inl rfl)).trans hown
  rw [Environment.find_eq_findSome?, horder, List.findSome?_cons, hanswer]

theorem hasMembersOf_of_clean_sample :
    SharedOutput sampleOutput sampleRoots ⟨"out"⟩ ∧
      (validate sampleOutput sampleRoots {}).2.1 = [] ∧
      (sampleClasspath.find sampleOutput {} (.inPackage "T" []) .any (.java 9)).1
        = some ⟨.binary (sampleStub ["run", "stop"]).type, none, .java 9, none⟩ ∧
      ∃ base baseline,
        (sampleClasspath.find sampleOutput {} (.inPackage "T" []) .any .unversioned).1
            = some base ∧
          base.kind = .binary baseline ∧
          (sampleStub ["run", "stop"]).type.HasMembersOf baseline := by
  refine ⟨sharedOutput_sampleOutput, clean_sampleOutput, find_sampleClasspath, ?_⟩
  have hholds : sampleOutput.Holds ⟨"out"⟩ ((Query.inPackage "T" []).classNames [])
      (.ofBytes (sampleStub ["run"]).encode) :=
    ⟨["out"], false, resolve?_sampleOutput, Files.mem_of_entryAt? (by decide) rfl⟩
  exact hasMembersOf_of_clean wellFormed_sampleOutput linkFree_sampleOutput
    sharedOutput_sampleOutput ⟨_, List.mem_cons_self, rfl⟩ classFilesParse_sampleOutput
    clean_sampleOutput rfl rfl hholds (by decide) find_sampleClasspath rfl {}

end Validation

end MultiRelease
