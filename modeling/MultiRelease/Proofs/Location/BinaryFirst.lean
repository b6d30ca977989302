import MultiRelease.Proofs.Location.ClassFiles
import MultiRelease.Proofs.Sorted

/-!
# Compiled types come first

For each package a source root decides once whether its output or its sources show it.
`SourceRoot.Shows` says what the root shows of a package, without saying how it finds out: if the
output holds a class file of the package, that is what counts, and otherwise the sources do, if
there are any.  There are four cases, one for each constructor, and they determine what is shown
(`SourceRoot.Shows.unique`).

`SourceRoot.lists_and_answers` proves that this is what a root lists, however often it was asked
before, and that its lookups go along: where the output holds a class file no source answers, and
where it holds none no compiled type does.  The latter takes some care, because a folder may have
the name of a class file, and then a lookup finds its name in the listing and tries to read it.
That nothing can be read under the name of a folder needs a well-formed tree
(`Query.entry?_classFile`).

* What is listed is said by `AreNames`: the members are the names of the children that are kept, in
  ascending order.  Names in ascending order have one order only (`AreNames.unique`), so a listing
  is determined by what it contains.
* `SourceRoot.shows_probe`: a root that looks at a package for the first time shows this.
* `SourceRoot.Used`: the root after any number of lookups and listings.  Its memory agrees with what
  it would see now, because the files have not changed (`SourceRoot.Used.upToDate`), and nothing
  else about it has changed either (`SourceRoot.Used.fields`).  Both are by induction on the use.

Sub-folders are listed with the class files as well as with the source files, and the patterns of a
root, which exclude by name alone, also apply to them.
-/

set_option autoImplicit false

namespace MultiRelease

open Text

variable {files : Files}

/-! ## What stands in a folder is found under its name -/

namespace Query

/-- The relative path of a class file leads through the folder of its package. -/
theorem names_relative {query : Query} (hname : ProperName query.binaryFileName) :
    Path.names ⟨query.qualifiedBinaryFileName⟩
        = Path.names ⟨query.packageName⟩ ++ [query.binaryFileName] ∧
      Path.isAbsolute ⟨query.qualifiedBinaryFileName⟩ = Path.isAbsolute ⟨query.packageName⟩ ∧
      hasSuffix "/" query.qualifiedBinaryFileName = false := by
  have hfile : Path.names ⟨query.binaryFileName⟩ = [query.binaryFileName] := by
    have hnames := Path.names_intercalate (List.forall_mem_singleton.2 hname)
    rwa [String.intercalate_singleton] at hnames
  by_cases hpackage : query.packageName = ""
  · have hpath : query.qualifiedBinaryFileName = query.binaryFileName := by
      rw [qualifiedBinaryFileName, qualifiedTypeName, if_pos hpackage, binaryFileName]
    rw [hpath, hpackage, hfile]
    exact ⟨rfl, Path.isAbsolute_of_proper hname, Path.hasSuffix_slash_of_proper hname⟩
  · have hpath : query.qualifiedBinaryFileName
        = query.packageName ++ "/" ++ query.binaryFileName := by
      rw [qualifiedBinaryFileName, qualifiedTypeName, if_neg hpackage, binaryFileName,
        String.append_assoc]
    have hne : query.packageName.toList ≠ [] := fun hnil =>
      hpackage (String.toList_eq_nil_iff.1 hnil)
    obtain ⟨first, others, hchars⟩ := List.exists_cons_of_ne_nil hne
    rw [hpath]
    refine ⟨?_, ?_, ?_⟩
    · rw [← hfile, Path.names, Path.names, Path.names, Path.segments, segments_append_slash,
        List.filter_append]
      rfl
    · simp [Path.isAbsolute, hchars]
    · rw [Path.hasSuffix_slash_append _ hname.ne_empty, Path.hasSuffix_slash_of_proper hname]

/-- **The class file of a type is found under its name in the folder of its package.** -/
theorem entry?_classFile (hwf : files.WellFormed) {query : Query} {folder : Path}
    {children : List (String × FileEntry)}
    (hlist : files.list? (folder.child query.packageName) = some children) {entry : FileEntry}
    (hmem : (query.binaryFileName, entry) ∈ children) (hlink : ∀ target, entry ≠ .link target) :
    files.entry? (folder.child query.qualifiedBinaryFileName) = some entry := by
  have hlisted : (query.binaryFileName, entry)
      ∈ (files.list? (folder.child query.packageName)).getD [] := by
    rwa [hlist, Option.getD_some]
  have hname := hwf.proper_of_mem_list? hlisted
  obtain ⟨hnames, habsolute, hend⟩ := names_relative hname
  by_cases hroot : Path.isAbsolute ⟨query.packageName⟩ = true
  · -- an absolute path of a package leads away from the folder
    have hpath : folder.child query.qualifiedBinaryFileName = ⟨query.qualifiedBinaryFileName⟩ :=
      if_pos (habsolute.trans hroot)
    have hpackage : folder.child query.packageName = ⟨query.packageName⟩ := if_pos hroot
    rw [hpackage] at hlist
    rw [hpath]
    exact Files.entry?_of_mem_list? hwf hlist hmem hlink hnames habsolute hend
  · rw [Bool.not_eq_true] at hroot
    have hrelative := habsolute.trans hroot
    have hne : query.qualifiedBinaryFileName ≠ "" := by
      intro hempty
      simp [hempty, Path.names, Path.segments, Text.segments, segmentsAt] at hnames
    refine Files.entry?_of_mem_list? hwf hlist hmem hlink ?_ ?_ ?_
    · rw [Path.child, Path.child, Path.names_join _ _ hrelative, Path.names_join _ _ hroot, hnames,
        List.append_assoc]
    · rw [Path.child, Path.child, Path.isAbsolute_join _ _ hrelative,
        Path.isAbsolute_join _ _ hroot]
    · rw [Path.child, Path.hasSuffix_slash_join _ hrelative hne]
      exact hend

end Query

/-! ## What a root lists -/

/-- The members are the names of the children that are kept, in ascending order. -/
structure AreNames (members : List String) (children : List (String × FileEntry))
    (keep : String → FileEntry → Bool) : Prop where
  sorted : members.Pairwise (· ≤ ·)
  perm : members.Perm ((children.filter fun child => keep child.1 child.2).map (·.1))

/-- Names in ascending order have one order only. -/
theorem AreNames.unique {members others : List String} {children : List (String × FileEntry)}
    {keep : String → FileEntry → Bool} (h : AreNames members children keep)
    (hothers : AreNames others children keep) : members = others :=
  (h.perm.trans hothers.perm.symm).eq_of_pairwise (fun _ _ _ _ => String.le_antisymm) h.sorted
    hothers.sorted

/-- The folder holds a class file. -/
def Files.HoldsClassFile (files : Files) (folder : Path) : Prop :=
  ∃ children, files.list? folder = some children ∧
    ∃ name content executable, (name, .file content executable) ∈ children ∧
      isClassFileName name = true

/-- Sub-folders and class files. -/
def isClassMember (name : String) (entry : FileEntry) : Bool :=
  entry.isFolder || (entry.isFile && isClassFileName name)

namespace SourceRoot

/-- Sub-folders and source files, less what the patterns of the root exclude.  They exclude by name
alone, so a folder with the name of a source file may be excluded, too. -/
def isSourceMember (root : SourceRoot) (package name : String) (entry : FileEntry) : Bool :=
  (entry.isFolder || (entry.isFile && isSourceFileName name)) &&
    !(isSourceFileName name &&
      root.isExcluded (if package = "" then name else package ++ "/" ++ name))

/-- What a root shows of a package: the compiled types if there are any, and the sources
otherwise. -/
inductive Shows (files : Files) (root : SourceRoot) (package : String) :
    Option PackageListing → Prop
  | classes {children : List (String × FileEntry)} {members : List String}
    (hclasses : files.HoldsClassFile (root.binaryFolder.child package))
    (hbinary : files.list? (root.binaryFolder.child package) = some children)
    (hmembers : AreNames members children isClassMember) :
    Shows files root package (some ⟨members, false⟩)
  | sources {children : List (String × FileEntry)} {members : List String}
    (hclasses : ¬ files.HoldsClassFile (root.binaryFolder.child package))
    (hsource : files.list? (root.sourceFolder.child package) = some children)
    (hany : children ≠ []) (hmembers : AreNames members children (root.isSourceMember package)) :
    Shows files root package (some ⟨members, true⟩)
  | folders {children : List (String × FileEntry)} {members : List String}
    (hclasses : ¬ files.HoldsClassFile (root.binaryFolder.child package))
    (hsource : (files.list? (root.sourceFolder.child package)).getD [] = [])
    (hbinary : files.list? (root.binaryFolder.child package) = some children)
    (hmembers : AreNames members children fun _ entry => entry.isFolder) :
    Shows files root package (some ⟨members, false⟩)
  | nothing (hbinary : files.list? (root.binaryFolder.child package) = none)
    (hsource : files.list? (root.sourceFolder.child package) = some []) :
    Shows files root package (some ⟨[], true⟩)
  | missing (hbinary : files.list? (root.binaryFolder.child package) = none)
    (hsource : files.list? (root.sourceFolder.child package) = none) :
    Shows files root package none

variable {root : SourceRoot} {package : String}

/-- What a root shows is determined. -/
theorem Shows.unique {shown other : Option PackageListing} (h : root.Shows files package shown)
    (hother : root.Shows files package other) : shown = other := by
  cases h <;> cases hother <;> grind [AreNames.unique]

end SourceRoot

theorem AreNames.congr {members : List String} {children : List (String × FileEntry)}
    {keep keep' : String → FileEntry → Bool} (h : AreNames members children keep)
    (heq : ∀ child ∈ children, keep child.1 child.2 = keep' child.1 child.2) :
    AreNames members children keep' :=
  ⟨h.sorted, by rw [← List.filter_congr heq]; exact h.perm⟩

theorem AreNames.filter {members : List String} {children : List (String × FileEntry)}
    {keep : String → FileEntry → Bool} (h : AreNames members children keep) (test : String → Bool) :
    AreNames (members.filter test) children fun name entry => keep name entry && test name := by
  refine ⟨h.sorted.filter _, (h.perm.filter test).trans (.of_eq ?_)⟩
  rw [List.filter_map, List.filter_filter]
  refine congrArg (List.map _) (List.filter_congr fun child _ => ?_)
  rw [Bool.and_comm]
  rfl

/-- What the members of a folder are. -/
theorem areNames_of_members? {folder : Path} {accepts : String → Bool} {members : List String}
    {holds : Bool} (h : files.members? folder accepts = some (members, holds)) :
    ∃ children, files.list? folder = some children ∧
      (AreNames members children fun name entry =>
        entry.isFolder || (entry.isFile && accepts name)) ∧
      (holds = true ↔ ∃ name content executable,
        (name, .file content executable) ∈ children ∧ accepts name = true) := by
  rw [Files.members?, Option.map_eq_some_iff] at h
  obtain ⟨children, hlist, heq⟩ := h
  obtain ⟨rfl, rfl⟩ := Prod.mk.inj heq
  refine ⟨children, hlist, ⟨pairwise_mergeSort_texts _, List.mergeSort_perm _ _⟩, ?_⟩
  rw [Bool.not_eq_true', List.isEmpty_eq_false_iff_exists_mem]
  constructor
  · rintro ⟨⟨name, entry⟩, hmem⟩
    obtain ⟨hchild, haccepted⟩ := List.mem_filter.1 hmem
    rw [Bool.and_eq_true] at haccepted
    cases entry with
    | folder => cases haccepted.1
    | link target => cases haccepted.1
    | file content executable => exact ⟨name, content, executable, hchild, haccepted.2⟩
  · rintro ⟨name, content, executable, hchild, haccepted⟩
    exact ⟨_, List.mem_filter.2 ⟨hchild, haccepted⟩⟩

theorem list?_eq_none_of_members? {folder : Path} {accepts : String → Bool}
    (h : files.members? folder accepts = none) : files.list? folder = none :=
  Option.map_eq_none_iff.1 h

theorem not_holdsClassFile_of_list? {folder : Path} (h : files.list? folder = none) :
    ¬ files.HoldsClassFile folder := by
  rintro ⟨children, hlist, -⟩
  rw [h] at hlist
  cases hlist

/-- Where there is no class file, the members of the output are folders. -/
theorem AreNames.folders {folder : Path} {members : List String}
    {children : List (String × FileEntry)} (h : AreNames members children isClassMember)
    (hlist : files.list? folder = some children) (hclasses : ¬ files.HoldsClassFile folder) :
    AreNames members children fun _ entry => entry.isFolder := by
  refine h.congr fun ⟨name, entry⟩ hchild => ?_
  cases entry with
  | folder => rfl
  | link target => rfl
  | file content executable =>
    have hname : isClassFileName name = false := Bool.eq_false_iff.2 fun hname =>
      hclasses ⟨children, hlist, name, content, executable, hchild, hname⟩
    simp [isClassMember, FileEntry.isFolder, hname]

namespace SourceRoot

variable {root : SourceRoot} {package : String}

/-- The members that a root shows of its source folder. -/
theorem areNames_withoutExcluded {names : List String} {holds : Bool}
    (h : files.members? (root.sourceFolder.child package) isSourceFileName = some (names, holds)) :
    ∃ children, files.list? (root.sourceFolder.child package) = some children ∧
      AreNames (root.withoutExcluded package names) children (root.isSourceMember package) := by
  obtain ⟨children, hlist, hnames, -⟩ := areNames_of_members? h
  exact ⟨children, hlist, hnames.filter _⟩

/-- **A root shows the compiled types first.** -/
theorem shows_probe (files : Files) (root : SourceRoot) (package : String) :
    root.Shows files package (root.probe files package) := by
  rw [probe]
  cases hbinary : files.members? (root.binaryFolder.child package) isClassFileName with
  | none =>
    have hbinaryList := list?_eq_none_of_members? hbinary
    cases hsource : files.members? (root.sourceFolder.child package) isSourceFileName with
    | none => exact .missing hbinaryList (list?_eq_none_of_members? hsource)
    | some found =>
      obtain ⟨names, holds⟩ := found
      obtain ⟨children, hlist, hnames⟩ := areNames_withoutExcluded hsource
      rcases eq_or_ne children [] with rfl | hany
      · have hempty : root.withoutExcluded package names = [] := hnames.perm.eq_nil
        dsimp only [Option.map_some]
        rw [hempty]
        exact .nothing hbinaryList hlist
      · exact .sources (not_holdsClassFile_of_list? hbinaryList) hlist hany hnames
  | some found =>
    obtain ⟨entries, holds⟩ := found
    obtain ⟨children, hlist, hentries, hholds⟩ := areNames_of_members? hbinary
    cases holds with
    | true => exact .classes ⟨children, hlist, hholds.1 rfl⟩ hlist hentries
    | false =>
      have hclasses : ¬ files.HoldsClassFile (root.binaryFolder.child package) := by
        rintro ⟨others, hothers, hclass⟩
        obtain rfl := Option.some_inj.1 (hlist.symm.trans hothers)
        exact Bool.false_ne_true (hholds.2 hclass)
      have hfolders := AreNames.folders hentries hlist hclasses
      cases hsource : files.members? (root.sourceFolder.child package) isSourceFileName with
      | none =>
        have hsourceList := list?_eq_none_of_members? hsource
        exact .folders hclasses (by rw [hsourceList]; rfl) hlist hfolders
      | some found =>
        obtain ⟨names, holds⟩ := found
        obtain ⟨sources, hsources, hnames⟩ := areNames_withoutExcluded hsource
        rw [hsources, Option.map_some, Option.any_some]
        rcases eq_or_ne sources [] with rfl | hany
        · exact .folders hclasses (by rw [hsources]; rfl) hlist hfolders
        · have hholds : (!sources.isEmpty) = true := by simpa using hany
          dsimp only
          rw [if_pos hholds]
          exact .sources hclasses hsources hany hnames

/-! ## Roots in use -/

/-- A root after it was asked for types and for packages, any number of times. -/
inductive Used (files : Files) (root : SourceRoot) : SourceRoot → Prop
  | refl : Used files root root
  | find {later : SourceRoot} (h : Used files root later) (session : Session) (query : Query)
    (constraint : ModuleConstraint) (release : Release) :
    Used files root (later.find files session query constraint release).2.1
  | list {later : SourceRoot} (h : Used files root later) (package : String) :
    Used files root (later.list files package).2

variable {later : SourceRoot}

/-- Use changes nothing but what a root remembers. -/
theorem Used.fields (h : root.Used files later) :
    { root with sightings := later.sightings } = later := by
  induction h with
  | refl => rfl
  | find h session query constraint release ih =>
    rcases find_location files _ session query constraint release with hsame | hlooked
    · rwa [hsame]
    · rw [hlooked, ← ih]
      rfl
  | list h package ih =>
    rw [← ih]
    rfl

theorem Used.upToDate (h : root.Used files later) (hfresh : root.sightings.seen = []) :
    later.UpToDate files := by
  induction h with
  | refl => exact upToDate_of_fresh hfresh
  | find h session query constraint release ih => exact ih.find session query constraint release
  | list h package ih =>
    intro other
    exact (packageListing_packageListing _ package other).trans (ih other)

/-- What a root shows after use is what it would show now. -/
theorem Used.shows (h : root.Used files later) (hfresh : root.sightings.seen = [])
    (package : String) : root.Shows files package (later.packageListing files package).1 := by
  have hprobe : later.probe files package = root.probe files package := by
    rw [← h.fields]
    rfl
  rw [h.upToDate hfresh package, hprobe]
  exact shows_probe files root package

variable {query : Query} {listing : PackageListing} {answer : Answer}

/-- A source answers only where there is no class file. -/
theorem Shows.not_holdsClassFile (hshows : root.Shows files query.packageName (some listing))
    (hanswer : root.answerFrom files query listing = some answer)
    (hsource : answer.isSource = true) :
    ¬ files.HoldsClassFile (root.binaryFolder.child query.packageName) := by
  rw [answerFrom] at hanswer
  cases hshows with
  | sources hclasses => exact hclasses
  | nothing hbinary => exact not_holdsClassFile_of_list? hbinary
  | classes | folders =>
    -- what is read from a class file is no source
    rw [if_neg Bool.false_ne_true, Option.ite_none_right_eq_some] at hanswer
    obtain ⟨_, _, -, -, rfl⟩ := readAnswer_eq_some_iff.1 hanswer.2
    cases hsource

/-- A compiled type is the answer only where there is a class file. -/
theorem Shows.holdsClassFile (hwf : files.WellFormed)
    (hshows : root.Shows files query.packageName (some listing))
    (hanswer : root.answerFrom files query listing = some answer)
    (hbinary : answer.isSource = false) :
    files.HoldsClassFile (root.binaryFolder.child query.packageName) := by
  rw [answerFrom] at hanswer
  cases hshows with
  | classes hclasses => exact hclasses
  | @folders children members _ _ hlist hmembers =>
    rw [if_neg Bool.false_ne_true, Option.ite_none_right_eq_some] at hanswer
    obtain ⟨hlisted, hread⟩ := hanswer
    -- the name of the class file is listed, but it is that of a folder
    obtain ⟨⟨name, entry⟩, hkept, rfl : name = query.binaryFileName⟩ :=
      List.mem_map.1 (hmembers.perm.mem_iff.1 (List.contains_iff_mem.1 hlisted))
    obtain ⟨hchild, hfolder⟩ := List.mem_filter.1 hkept
    have hentry : entry = .folder := Option.some_inj.1 (Files.isFolder_iff.1 hfolder)
    rw [hentry] at hchild
    have hfound := Query.entry?_classFile hwf hlist hchild fun _ hlink => by cases hlink
    obtain ⟨content, _, hcontent, -⟩ := readAnswer_eq_some_iff.1 hread
    rw [Files.read?, hfound] at hcontent
    cases hcontent
  | sources | nothing =>
    -- the answer would be a source
    rw [if_pos rfl, Option.ite_none_right_eq_some] at hanswer
    rw [← Option.some_inj.1 hanswer.2] at hbinary
    cases hbinary

/-- **Compiled types come first.**  What a root lists of a package is decided by what its folders
hold, however often it was asked before.  A lookup in a package is answered with a source only if
the output holds no class file of the package, and with a compiled type only if it holds one. -/
theorem lists_and_answers (hwf : files.WellFormed) (hfresh : root.sightings.seen = [])
    (hused : root.Used files later) (package : String) :
    (∀ listing, (later.list files package).1 = listing ↔
      ∃ shown, root.Shows files package shown ∧ listing = shown.map (·.entries)) ∧
    ∀ session query constraint release answer, query.packageName = package →
      (later.find files session query constraint release).1 = some answer →
      (answer.isSource = true ↔ ¬ files.HoldsClassFile (root.binaryFolder.child package)) := by
  have hshows := hused.shows hfresh package
  constructor
  · intro listing
    constructor
    · rintro rfl
      exact ⟨_, hshows, rfl⟩
    · rintro ⟨shown, hshown, rfl⟩
      rw [hshown.unique hshows]
      rfl
  · rintro session query constraint release answer rfl hfind
    rw [find_fst, Option.ite_none_right_eq_some, ownAnswer, Option.ite_none_right_eq_some] at hfind
    obtain ⟨listing, hlisting, hanswer⟩ := Option.bind_eq_some_iff.1 hfind.2.2
    rw [hlisting] at hshows
    have hroot : root.answerFrom files query listing = some answer := by
      rw [← hused.fields] at hanswer
      exact hanswer
    refine ⟨hshows.not_holdsClassFile hroot, fun hclasses => ?_⟩
    rw [← Bool.not_eq_false]
    exact fun hbinary => hclasses (hshows.holdsClassFile hwf hroot hbinary)

/-- An output folder in which a folder has the name of a class file. -/
def folderNamedAsClass : Files where
  entries := [(["out"], .folder), (["out", "T.class"], .folder), (["out", "p"], .folder)]

/-- The root that writes there.  It has no sources. -/
def sourcelessRoot : SourceRoot := .ofFolders ⟨"src"⟩ ⟨"out"⟩ none

/-- It is asked for the type that the name suggests. -/
def sourcelessRootLater : SourceRoot :=
  (sourcelessRoot.find folderNamedAsClass {} { typeName := "T", packageName := "" } .any
    .unversioned).2.1

theorem lists_and_answers_sample :
    folderNamedAsClass.WellFormed ∧ sourcelessRoot.sightings.seen = [] ∧
      sourcelessRoot.Used folderNamedAsClass sourcelessRootLater ∧
      (∀ listing, (sourcelessRootLater.list folderNamedAsClass "").1 = listing ↔
        ∃ shown, sourcelessRoot.Shows folderNamedAsClass "" shown ∧
          listing = shown.map (·.entries)) ∧
      ∀ session query constraint release answer, query.packageName = "" →
        (sourcelessRootLater.find folderNamedAsClass session query constraint release).1
          = some answer →
        (answer.isSource = true ↔
          ¬ folderNamedAsClass.HoldsClassFile (sourcelessRoot.binaryFolder.child "")) := by
  have hwf : folderNamedAsClass.WellFormed := Files.wellFormed_of_forall (by decide) (by decide)
  have hused : sourcelessRoot.Used folderNamedAsClass sourcelessRootLater := Used.refl.find _ _ _ _
  exact ⟨hwf, rfl, hused, lists_and_answers hwf rfl hused ""⟩

end SourceRoot

end MultiRelease
