import MultiRelease.Proofs.Location.BinaryFirst

/-!
# What source answers point at

A source root answers with a source file because its name is among those that the root shows of the
package.  The listing does not say what stands under a name, and it has the sub-folders of the
package next to the source files.

`SourceRoot.source_of_find` says what an answer can rely on all the same: the path leads to a file
or to a folder, the patterns of the root do not exclude it, and the lookup allowed sources.  A
folder it may be, if a folder has the name of a source file
(`SourceRoot.exists_source_answer_with_folder`).

The argument goes back from the answer to the tree.  The answer comes from what the root shows of
the package, also after use (`SourceRoot.Used.exists_shown`).  A name that is shown as a source is
that of a child of the source folder that the patterns leave (`SourceRoot.Shows.exists_member`), and
a child that is no link is found under its name (`Files.entry?_child_of_mem_list?`).
-/

set_option autoImplicit false

namespace MultiRelease

open Text

variable {files : Files}

/-- What a folder lists is found below the folder, except for links. -/
theorem Files.entry?_child_of_mem_list? (hwf : files.WellFormed) {folder : Path} {name : String}
    {entry : FileEntry} {children : List (String × FileEntry)}
    (hlist : files.list? folder = some children) (hmem : (name, entry) ∈ children)
    (hlink : ∀ target, entry ≠ .link target) : files.entry? (folder.child name) = some entry := by
  have hname : ProperName name := hwf.proper_of_mem_list? (by rwa [hlist, Option.getD_some])
  have hnames := Path.names_intercalate (List.forall_mem_singleton.2 hname)
  rw [String.intercalate_singleton] at hnames
  have habsolute := Path.isAbsolute_of_proper hname
  refine entry?_of_mem_list? hwf hlist hmem hlink ?_ ?_ ?_
  · rw [Path.child, Path.names_join _ _ habsolute, hnames]
  · rw [Path.child, Path.isAbsolute_join _ _ habsolute]
  · rw [Path.child, Path.hasSuffix_slash_join _ habsolute hname.ne_empty]
    exact Path.hasSuffix_slash_of_proper hname

namespace Query

/-- The name of the source file below the folder of sources. -/
def qualifiedSourceFileName (query : Query) : String := query.qualifiedTypeName ++ sourceSuffix

theorem qualifiedSourceFileName_eq (query : Query) :
    query.qualifiedSourceFileName
      = if query.packageName = "" then query.sourceFileName
        else query.packageName ++ "/" ++ query.sourceFileName := by
  rw [qualifiedSourceFileName, qualifiedTypeName]
  split
  · rfl
  · simp only [sourceFileName, String.append_assoc]

theorem isSourceFileName_sourceFileName (query : Query) :
    isSourceFileName query.sourceFileName = true :=
  hasSuffix_append query.typeName sourceSuffix

end Query

namespace SourceRoot

variable {root later : SourceRoot} {query : Query} {listing : PackageListing} {answer : Answer}

/-- A name that a root shows of its sources is that of a member of the source folder. -/
theorem Shows.exists_member {package name : String}
    (hshows : root.Shows files package (some listing)) (hsource : listing.fromSource = true)
    (hname : name ∈ listing.entries) :
    ∃ children entry, files.list? (root.sourceFolder.child package) = some children ∧
      (name, entry) ∈ children ∧ root.isSourceMember package name entry = true := by
  cases hshows with
  | classes => cases hsource
  | folders => cases hsource
  | nothing => exact absurd hname List.not_mem_nil
  | @sources children members _ hlist _ hmembers =>
    obtain ⟨⟨_, entry⟩, hkept, rfl⟩ := List.mem_map.1 (hmembers.perm.mem_iff.1 hname)
    obtain ⟨hchild, hmember⟩ := List.mem_filter.1 hkept
    exact ⟨children, entry, hlist, hchild, hmember⟩

/-- A source answer is a source that the root shows, and the lookup allows it. -/
theorem source_of_answerFrom (hanswer : root.answerFrom files query listing = some answer)
    (hsource : answer.isSource = true) :
    listing.fromSource = true ∧ query.binaryOnly = false ∧
      query.sourceFileName ∈ listing.entries ∧ answer = root.sourceAnswer query := by
  rcases answerFrom_eq_some_iff.1 hanswer with h | ⟨-, -, _, _, -, -, rfl⟩
  · exact h
  · cases hsource

/-- A root answers from what it shows of the package, also after use. -/
theorem Used.exists_shown (hused : root.Used files later) (hfresh : root.sightings.seen = [])
    {session : Session} {constraint : ModuleConstraint} {release : Release}
    (hfind : (later.find files session query constraint release).1 = some answer) :
    ∃ listing, root.Shows files query.packageName (some listing) ∧
      root.answerFrom files query listing = some answer := by
  have hshows := hused.shows hfresh query.packageName
  rw [find_fst, Option.ite_none_right_eq_some, ownAnswer, Option.ite_none_right_eq_some] at hfind
  obtain ⟨listing, hlisting, hanswer⟩ := Option.bind_eq_some_iff.1 hfind.2.2
  rw [hlisting] at hshows
  rw [← hused.fields] at hanswer
  exact ⟨listing, hshows, hanswer⟩

/-- **A source answer points at something that exists**: at a file, or at a folder that has the name
of one.  It is not excluded, and the lookup was not limited to compiled types. -/
theorem source_of_find (hwf : files.WellFormed) (hfresh : root.sightings.seen = [])
    (hused : root.Used files later) {session : Session} {constraint : ModuleConstraint}
    {release : Release} {path : Path} {typeName : String}
    (hfind : (later.find files session query constraint release).1 = some answer)
    (hkind : answer.kind = .source path typeName) :
    path = (root.sourceFolder.child query.packageName).child query.sourceFileName ∧
      typeName = query.typeName ∧
      (files.isFile path = true ∨ files.isFolder path = true) ∧
      root.isExcluded query.qualifiedSourceFileName = false ∧
      query.binaryOnly = false := by
  have hsource : answer.isSource = true := by rw [Answer.isSource, hkind]
  obtain ⟨listing, hshows, hanswer⟩ := hused.exists_shown hfresh hfind
  obtain ⟨hfromSource, hbinaryOnly, hlisted, rfl⟩ := source_of_answerFrom hanswer hsource
  obtain ⟨rfl, rfl⟩ := AnswerKind.source.inj hkind
  obtain ⟨children, entry, hlist, hchild, hmember⟩ := hshows.exists_member hfromSource hlisted
  rw [isSourceMember, query.isSourceFileName_sourceFileName, Bool.and_true, Bool.true_and,
    ← query.qualifiedSourceFileName_eq, Bool.and_eq_true, Bool.not_eq_true'] at hmember
  obtain ⟨hmember, hexcluded⟩ := hmember
  refine ⟨rfl, rfl, ?_, hexcluded, hbinaryOnly⟩
  cases entry with
  | folder =>
    have hentry := Files.entry?_child_of_mem_list? hwf hlist hchild fun _ hlink => by cases hlink
    exact .inr (congrArg (Option.any FileEntry.isFolder) hentry)
  | file content executable =>
    have hentry := Files.entry?_child_of_mem_list? hwf hlist hchild fun _ hlink => by cases hlink
    exact .inl (congrArg (Option.any FileEntry.isFile) hentry)
  | link target => cases hmember

/-! ## A folder that passes for a source file -/

/-- A source folder in which a folder has the name of a source file, next to a source file. -/
def folderNamedAsSource : Files where
  entries := [(["src"], .folder), (["src", "T.java"], .folder),
    (["src", "U.java"], .file (.ofBytes []) false)]

/-- The root with these sources.  It has no output. -/
def uncompiledRoot : SourceRoot := .ofFolders ⟨"src"⟩ ⟨"out"⟩ none

theorem wellFormed_folderNamedAsSource : folderNamedAsSource.WellFormed :=
  Files.wellFormed_of_forall (by decide) (by decide)

theorem linkFree_folderNamedAsSource : folderNamedAsSource.LinkFree :=
  Files.linkFree_of_forall (by decide)

theorem packageListing_uncompiledRoot :
    (uncompiledRoot.packageListing folderNamedAsSource "").1
      = some ⟨["T.java", "U.java"], true⟩ := by
  have hsource : folderNamedAsSource.list? (uncompiledRoot.sourceFolder.child "")
      = some [("T.java", .folder), ("U.java", .file (.ofBytes []) false)] :=
    Files.list?_child_empty wellFormed_folderNamedAsSource linkFree_folderNamedAsSource (by decide)
  have hbinary : folderNamedAsSource.list? (uncompiledRoot.binaryFolder.child "") = none :=
    Files.list?_child_empty wellFormed_folderNamedAsSource linkFree_folderNamedAsSource (by decide)
  have hsources : folderNamedAsSource.members? (uncompiledRoot.sourceFolder.child "")
      isSourceFileName = some (["T.java", "U.java"], true) := by
    rw [Files.members?, hsource, Option.map_some]
    dsimp only
    rw [List.mergeSort_of_pairwise (by decide)]
    decide
  have hclasses : folderNamedAsSource.members? (uncompiledRoot.binaryFolder.child "")
      isClassFileName = none := by
    rw [Files.members?, hbinary]
    rfl
  show uncompiledRoot.probe folderNamedAsSource "" = _
  rw [probe, hsources, hclasses]
  decide

/-- Both names are taken for those of source files. -/
theorem find_uncompiledRoot {query : Query} (hpackage : query.packageName = "")
    (hname : query.sourceFileName ∈ ["T.java", "U.java"]) (hany : query.binaryOnly = false) :
    (uncompiledRoot.find folderNamedAsSource {} query .any .unversioned).1
      = some (uncompiledRoot.sourceAnswer query) := by
  rw [find_fst, ownAnswer, hpackage, packageListing_uncompiledRoot]
  simp [answerFrom, hname, hany, uncompiledRoot, ofFolders, Release.overlay_none,
    Release.appliesTo, ModuleConstraint.accepts]

/-- **A source answer may point at a folder.** -/
theorem exists_source_answer_with_folder :
    folderNamedAsSource.WellFormed ∧ uncompiledRoot.sightings.seen = [] ∧
      ∃ answer, (uncompiledRoot.find folderNamedAsSource {} (.inPackage "T" []) .any
          .unversioned).1 = some answer ∧
        answer.kind = .source ⟨"src/T.java"⟩ "T" ∧
        folderNamedAsSource.isFile ⟨"src/T.java"⟩ = false ∧
        folderNamedAsSource.isFolder ⟨"src/T.java"⟩ = true := by
  have hentry : folderNamedAsSource.entry? ⟨"/".intercalate ["src", "T.java"]⟩ = some .folder :=
    Files.entry?_intercalate wellFormed_folderNamedAsSource linkFree_folderNamedAsSource
      (by decide) rfl
  have hpath : "/".intercalate ["src", "T.java"] = "src/T.java" := by decide
  rw [hpath] at hentry
  have hkind : (uncompiledRoot.sourceAnswer (.inPackage "T" [])).kind
      = .source ⟨"src/T.java"⟩ "T" := by decide
  refine ⟨wellFormed_folderNamedAsSource, rfl, _,
    find_uncompiledRoot (by decide) (by decide) rfl, hkind, ?_, ?_⟩
  · rw [Files.isFile, hentry]
    rfl
  · rw [Files.isFolder, hentry]
    rfl

theorem source_of_find_sample :
    (uncompiledRoot.find folderNamedAsSource {} (.inPackage "U" []) .any .unversioned).1
        = some (uncompiledRoot.sourceAnswer (.inPackage "U" [])) ∧
      (uncompiledRoot.sourceAnswer (.inPackage "U" [])).kind = .source ⟨"src/U.java"⟩ "U" ∧
      (folderNamedAsSource.isFile ⟨"src/U.java"⟩ = true ∨
        folderNamedAsSource.isFolder ⟨"src/U.java"⟩ = true) ∧
      uncompiledRoot.isExcluded "U.java" = false := by
  have hfind : (uncompiledRoot.find folderNamedAsSource {} (.inPackage "U" []) .any
      .unversioned).1 = some (uncompiledRoot.sourceAnswer (.inPackage "U" [])) :=
    find_uncompiledRoot (by decide) (by decide) rfl
  have hkind : (uncompiledRoot.sourceAnswer (.inPackage "U" [])).kind
      = .source ⟨"src/U.java"⟩ "U" := by decide
  have hname : (Query.inPackage "U" []).qualifiedSourceFileName = "U.java" := by decide
  obtain ⟨-, -, hexists, hexcluded, -⟩ :=
    source_of_find wellFormed_folderNamedAsSource rfl .refl hfind hkind
  exact ⟨hfind, hkind, hexists, hname ▸ hexcluded⟩

end SourceRoot

end MultiRelease
