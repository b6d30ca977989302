import MultiRelease.Proofs.Files.Tree
import MultiRelease.Proofs.Location.OwnAnswer

/-!
# Class files of source roots

In a tree without links, the class file of a type has one place below the folder where a root writes
its classes (`Query.classNames`).  What a root answers with a compiled type is in the file at that
place (`SourceRoot.exists_of_ownAnswer`), and a root that has such a file answers with it
(`SourceRoot.ownAnswer_eq_of_mem`), whatever its sources may hold.  Checking a build rests on both:
it looks types up by their names, and it has found them by walking through the output.

The latter is about roots that remember of a package what they would see now
(`SourceRoot.UpToDate`).  Those that were never asked do (`SourceRoot.upToDate_of_fresh`), and
lookups leave it so (`SourceRoot.UpToDate.find`).
-/

set_option autoImplicit false

namespace MultiRelease

open Text

/-! ## The place of a class file -/

theorem hasSuffix_append (text ending : String) : hasSuffix ending (text ++ ending) = true := by
  simp [hasSuffix]

theorem withoutSuffix?_append (text ending : String) :
    withoutSuffix? ending (text ++ ending) = some text := by
  simp [withoutSuffix?, List.isSuffixOf?, List.isPrefixOf?_eq_some_iff_append_eq]

namespace Query

/-- The names that lead from a folder of classes to the class file of the type. -/
def classNames (query : Query) (package : List String) : List String :=
  package ++ [query.binaryFileName]

variable {query : Query} {package : List String}

theorem qualifiedBinaryFileName_eq (hpackage : query.packageName = "/".intercalate package)
    (hproper : ∀ name ∈ package, ProperName name) :
    query.qualifiedBinaryFileName = "/".intercalate (query.classNames package) := by
  rw [qualifiedBinaryFileName, qualifiedTypeName, hpackage, classNames]
  by_cases hne : package = []
  · simp [hne, binaryFileName]
  · rw [if_neg (Path.ne_empty_of_proper hne hproper),
      String.intercalate_append_of_ne_nil hne (List.cons_ne_nil _ _)]
    simp [binaryFileName, String.append_assoc]

end Query

/-- A file with an accepted name is among the members of its folder. -/
theorem members?_of_mem {files : Files} {folder : Path} {accepts : String → Bool}
    {children : List (String × FileEntry)} (hlist : files.list? folder = some children)
    {name : String} {content : Content} {executable : Bool}
    (hmem : (name, .file content executable) ∈ children) (hname : accepts name = true) :
    ∃ members, files.members? folder accepts = some (members, true) ∧ name ∈ members := by
  rw [Files.members?, hlist, Option.map_some]
  refine ⟨_, congrArg some (Prod.ext rfl ?_), ?_⟩
  · rw [Bool.not_eq_true', List.isEmpty_eq_false_iff]
    exact List.ne_nil_of_mem (List.mem_filter.2 ⟨hmem, by simp [FileEntry.isFile, hname]⟩)
  · rw [List.mem_mergeSort, List.mem_map]
    exact ⟨_, List.mem_filter.2 ⟨hmem, by simp [FileEntry.isFile, hname]⟩, rfl⟩

/-! ## Source roots -/

namespace SourceRoot

/-- What the root remembers of the packages is what it would see now. -/
def UpToDate (root : SourceRoot) (files : Files) : Prop :=
  ∀ package, (root.packageListing files package).1 = root.probe files package

variable {files : Files} {root : SourceRoot}

/-- A root that was never asked remembers nothing. -/
theorem upToDate_of_fresh (h : root.sightings.seen = []) : root.UpToDate files := by
  intro package
  rw [packageListing, Sightings.look, h]
  rfl

/-- Lookups leave a root up to date. -/
theorem UpToDate.find (h : root.UpToDate files) (session : Session) (query : Query)
    (constraint : ModuleConstraint) (release : Release) :
    (root.find files session query constraint release).2.1.UpToDate files := by
  rcases root.find_location files session query constraint release with hsame | hlooked
  · rwa [hsame]
  · rw [hlooked]
    intro package
    rw [packageListing_packageListing]
    exact h package

variable {home : Address} {names package : List String} {query : Query}

/-- A compiled type that a root answers is in the class file at its place. -/
theorem exists_of_ownAnswer (hwf : files.WellFormed) (hlf : files.LinkFree)
    (hleads : files.Leads home root.binaryFolder names)
    (hproper : ∀ name ∈ names ++ query.classNames package, ProperName name)
    (hpackage : query.packageName = "/".intercalate package) {constraint : ModuleConstraint}
    {answer : Answer} (hanswer : root.ownAnswer files query constraint = some answer)
    {type : BinaryType} (hkind : answer.kind = .binary type) :
    ∃ content executable,
      (home ++ names ++ query.classNames package, .file content executable) ∈ files.entries ∧
        parseBinaryType content.bytes = .ok type := by
  have hinside : ∀ name ∈ package, ProperName name := fun name hname =>
    hproper name (by simp [Query.classNames, hname])
  rw [ownAnswer] at hanswer
  split at hanswer
  · obtain ⟨listing, -, hanswer⟩ := Option.bind_eq_some_iff.1 hanswer
    rw [answerFrom] at hanswer
    split at hanswer
    · -- the answer would be a source file
      split at hanswer
      · obtain rfl := Option.some_inj.1 hanswer
        cases hkind
      · cases hanswer
    · split at hanswer
      · obtain ⟨content, found, hread, hparse, rfl⟩ := readAnswer_eq_some_iff.1 hanswer
        obtain rfl := AnswerKind.binary.inj hkind
        rw [Query.qualifiedBinaryFileName_eq hpackage hinside,
          hleads.read?_inside_iff hwf hlf (by simp [Query.classNames]) hproper] at hread
        obtain ⟨executable, hmem⟩ := hread
        exact ⟨content, executable, hmem, hparse⟩
      · cases hanswer
  · cases hanswer

/-- A root with a class file in a package shows the class files of the package. -/
theorem probe_of_mem (hwf : files.WellFormed) (hlf : files.LinkFree)
    (hleads : files.Leads home root.binaryFolder names)
    (hproper : ∀ name ∈ names ++ package, ProperName name) {name : String}
    (hname : isClassFileName name = true) {content : Content} {executable : Bool}
    (hmem : (home ++ names ++ package ++ [name], .file content executable) ∈ files.entries) :
    ∃ entries, root.probe files ("/".intercalate package) = some ⟨entries, false⟩ ∧
      name ∈ entries := by
  have hinside := hleads.inside fun name hname => hproper name (List.mem_append_right _ hname)
  have hlist := (hinside.list?_iff hwf hlf hproper).2
    ⟨hwf.parent _ name (.file content executable) (by rwa [← List.append_assoc]), rfl⟩
  have hchild : (name, .file content executable)
      ∈ files.childrenAt (home ++ (names ++ package)) := by
    rwa [Files.mem_childrenAt, ← List.append_assoc]
  obtain ⟨entries, hmembers, hentries⟩ := members?_of_mem hlist hchild hname
  exact ⟨entries, by rw [probe, hmembers], hentries⟩

/-- **A root with the class file of a type answers with it.** -/
theorem ownAnswer_eq_of_mem (hwf : files.WellFormed) (hlf : files.LinkFree)
    (hleads : files.Leads home root.binaryFolder names) (hfresh : root.UpToDate files)
    (hpackage : query.packageName = "/".intercalate package)
    (hproper : ∀ name ∈ names ++ query.classNames package, ProperName name)
    {content : Content} {executable : Bool} (hmem : (home ++ names ++ query.classNames package,
      .file content executable) ∈ files.entries)
    {type : BinaryType} (hparse : parseBinaryType content.bytes = .ok type) :
    root.ownAnswer files query .any
      = some { kind := .binary type, moduleName := root.moduleName, release := root.release } := by
  have hinside : ∀ name ∈ names ++ package, ProperName name := by
    intro name hname
    refine hproper name ?_
    rw [Query.classNames, ← List.append_assoc]
    exact List.mem_append_left _ hname
  have hread : files.read? (root.binaryFolder.child query.qualifiedBinaryFileName)
      = some content := by
    rw [Query.qualifiedBinaryFileName_eq hpackage fun name hname =>
        hinside name (List.mem_append_right _ hname),
      hleads.read?_inside_iff hwf hlf (by simp [Query.classNames]) hproper]
    exact ⟨executable, hmem⟩
  rw [Query.classNames, ← List.append_assoc] at hmem
  have hname : isClassFileName query.binaryFileName = true := hasSuffix_append _ classSuffix
  obtain ⟨entries, hprobe, hentries⟩ := probe_of_mem hwf hlf hleads hinside hname hmem
  have hlisting : (root.packageListing files query.packageName).1 = some ⟨entries, false⟩ := by
    rw [hfresh, hpackage, hprobe]
  rw [ownAnswer, hlisting, Option.bind_some]
  refine (if_pos rfl).trans ?_
  rw [answerFrom, if_neg Bool.false_ne_true, if_pos (List.contains_iff_mem.2 hentries)]
  exact readAnswer_eq_some_iff.2 ⟨content, type, hread, hparse, rfl⟩

end SourceRoot

end MultiRelease
