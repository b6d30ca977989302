import MultiRelease.Proofs.Environment.AskedModule
import MultiRelease.Proofs.Files.Outline
import MultiRelease.Proofs.Location.ClassFiles

/-!
# Class files that are written over

A class file may be damaged, or be replaced by another one, while a build goes on.  How far does
that reach?  A folder of a classpath lists a class file whatever it holds, so nothing changes in
what the folders show.  A lookup notices only if one of the folders that it asks reads the file
(`Location.Reads`).  From that folder it gets the type that the file now holds, or no answer if the
file holds none, and then it goes on with the next location.

`Environment.find_rewritten` says so for classpaths of class folders and source roots.  Platform
libraries read their classes in other ways and are left out.

* Writing over a file leaves the outline of the tree as it is, and so what each folder lists, and
  therefore also which class file it reads for a lookup (`Location.classFile?_of_outline`).
* A folder that reads a class file answers with the type in it, if there is one
  (`Location.find_of_classFile?`); its answer depends on no other content
  (`Location.find_of_outline`).
* Hence a lookup in which nothing reads the file is the same in both trees, with what it leaves
  behind (`Environment.findAt_of_outline`, by induction on the positions).

It is not enough for reading a file that the path of a class leads there.  A folder reads no file
that it does not list, and the path that it reads may lead to the file through a link.  The two
kinds of folders are treated alike (`ClassFolder.reads`, `SourceRoot.reads`); in a source root it
also matters that the package was not answered from the sources.
-/

set_option autoImplicit false

namespace MultiRelease

variable {files other : Files}

/-! ## Folders -/

theorem readAnswer_of_read? {path : Path} (h : files.read? path = other.read? path)
    (session : Session) (query : Query) (moduleName : Option String) (release : Release) :
    readAnswer files session path query moduleName release
      = readAnswer other session path query moduleName release := by
  rw [readAnswer, readAnswer, h]

namespace ClassFolder

/-- What a class folder lists does not depend on what the files hold. -/
theorem list_of_outline (h : files.outline = other.outline) (folder : ClassFolder)
    (package : String) : folder.list files package = folder.list other package := by
  have hprobe : folder.probe files = folder.probe other := by
    funext package
    rw [probe, probe, Files.members?_of_outline h]
  rw [list, list, hprobe]

variable (folder : ClassFolder) (query : Query) (constraint : ModuleConstraint) (release : Release)

/-- The folder reads the class file of the type. -/
def reads (files : Files) : Bool :=
  folder.release.appliesTo release && constraint.accepts folder.moduleName &&
    (folder.list files query.packageName).1.any (·.contains query.binaryFileName)

variable {folder query constraint release} in
theorem find_of_reads (h : folder.reads query constraint release files = true)
    (session : Session) :
    (folder.find files session query constraint release).1
      = (readAnswer files {} (folder.root.child query.qualifiedBinaryFileName) query
          folder.moduleName folder.release).1.map (folder.restrict query) := by
  rw [reads, Bool.and_assoc, Bool.and_eq_true] at h
  rw [find_fst, if_pos h.1, ownAnswer, if_pos h.2]

theorem find_of_outline (h : files.outline = other.outline) (session : Session)
    (hread : folder.reads query constraint release files = true →
      files.read? (folder.root.child query.qualifiedBinaryFileName)
        = other.read? (folder.root.child query.qualifiedBinaryFileName)) :
    folder.find files session query constraint release
      = folder.find other session query constraint release := by
  rw [find, find, ← folder.list_of_outline h]
  split
  · rename_i hasked
    dsimp only
    split
    · rename_i hlisted
      have hreads : folder.reads query constraint release files = true := by
        rw [reads, hasked, Bool.true_and]
        exact hlisted
      have hanswer := readAnswer_of_read? (hread hreads) session query folder.moduleName
        folder.release
      exact congrArg (fun result : Option Answer × Session =>
        (result.1.map (folder.restrict query), (folder.list files query.packageName).2, result.2))
        hanswer
    · rfl
  · rfl

end ClassFolder

namespace SourceRoot

/-- What a source root shows does not depend on what the files hold. -/
theorem packageListing_of_outline (h : files.outline = other.outline)
    (root : SourceRoot) (package : String) :
    root.packageListing files package = root.packageListing other package := by
  have hprobe : root.probe files = root.probe other := by
    funext package
    simp only [probe, Files.members?_of_outline h, Files.holdsAnything_of_outline h]
  rw [packageListing, packageListing, hprobe]

variable (root : SourceRoot) (query : Query) (constraint : ModuleConstraint) (release : Release)

/-- The root reads the class file of the type. -/
def reads (files : Files) : Bool :=
  root.release.appliesTo release && constraint.accepts root.moduleName &&
    (root.packageListing files query.packageName).1.any fun listing =>
      !listing.fromSource && listing.entries.contains query.binaryFileName

variable {root query constraint release} in
theorem find_of_reads (h : root.reads query constraint release files = true)
    (session : Session) :
    (root.find files session query constraint release).1
      = (readAnswer files {} (root.binaryFolder.child query.qualifiedBinaryFileName) query
          root.moduleName root.release).1 := by
  rw [reads, Bool.and_assoc, Bool.and_eq_true, Bool.and_eq_true, Option.any_eq_true] at h
  obtain ⟨happlies, haccepts, listing, hlisting, hlisted⟩ := h
  rw [Bool.and_eq_true, Bool.not_eq_true'] at hlisted
  rw [find_fst, if_pos happlies, ownAnswer, if_pos haccepts, hlisting, Option.bind_some, answerFrom,
    hlisted.1, if_neg Bool.false_ne_true, if_pos hlisted.2]

theorem find_of_outline (h : files.outline = other.outline) (session : Session)
    (hread : root.reads query constraint release files = true →
      files.read? (root.binaryFolder.child query.qualifiedBinaryFileName)
        = other.read? (root.binaryFolder.child query.qualifiedBinaryFileName)) :
    root.find files session query constraint release
      = root.find other session query constraint release := by
  rw [find, find, ← root.packageListing_of_outline h]
  split
  · rename_i hasked
    split
    · rfl
    · rename_i listing after hlisting
      have hafter : after = (root.packageListing files query.packageName).2 := by rw [hlisting]
      split
      · rfl
      · rename_i hbinary
        split
        · rename_i hlisted
          have hreads : root.reads query constraint release files = true := by
            rw [reads, hasked, hlisting, Bool.true_and, Option.any_some, hlisted, Bool.and_true,
              Bool.not_eq_true']
            exact Bool.eq_false_iff.2 hbinary
          have hanswer := readAnswer_of_read? (hread hreads) session query root.moduleName
            root.release
          rw [hafter]
          exact congrArg (fun result : Option Answer × Session =>
            (result.1, (root.packageListing files query.packageName).2, result.2)) hanswer
        · rfl
  · rfl

end SourceRoot

/-! ## Locations -/

namespace Location

/-- The class file that the location reads for a lookup, if it reads one. -/
def classFile? (files : Files) (query : Query) (constraint : ModuleConstraint)
    (release : Release) : Location → Option Path
  | classFolder folder =>
    if folder.reads query constraint release files then
      some (folder.root.child query.qualifiedBinaryFileName)
    else none
  | sourceRoot root =>
    if root.reads query constraint release files then
      some (root.binaryFolder.child query.qualifiedBinaryFileName)
    else none
  | _ => none

/-- The location reads the file at the address for a lookup.  No folder reads what it does not list,
so it is not enough that the path of its class file leads there. -/
def Reads (files : Files) (address : Address) (query : Query) (constraint : ModuleConstraint)
    (release : Release) (location : Location) : Prop :=
  ∃ path, location.classFile? files query constraint release = some path ∧
    files.resolve? path = some address

/-- What a folder answers with a compiled type. -/
def binaryAnswer (query : Query) (type : BinaryType) : Location → Answer
  | classFolder folder =>
    folder.restrict query
      { kind := .binary type, moduleName := folder.moduleName, release := folder.release }
  | location =>
    { kind := .binary type, moduleName := location.moduleName, release := location.release }

variable {location : Location} {query : Query} {constraint : ModuleConstraint} {release : Release}

/-- **A folder that reads a class file answers with the type in it, if there is one.** -/
theorem find_of_classFile? {path : Path}
    (h : location.classFile? files query constraint release = some path) (session : Session) :
    (location.find files query constraint release session).1
      = ((files.read? path).bind fun content => (parseBinaryType content.bytes).toOption).map
          (location.binaryAnswer query) := by
  cases location with
  | classFolder folder =>
    obtain ⟨hreads, hpath⟩ := Option.ite_none_right_eq_some.1 h
    obtain rfl := Option.some_inj.1 hpath
    refine (ClassFolder.find_of_reads hreads session).trans ?_
    rw [readAnswer_fst, Option.map_map]
    rfl
  | sourceRoot root =>
    obtain ⟨hreads, hpath⟩ := Option.ite_none_right_eq_some.1 h
    obtain rfl := Option.some_inj.1 hpath
    refine (SourceRoot.find_of_reads hreads session).trans ?_
    rw [readAnswer_fst]
    rfl
  | platform library => cases h
  | releasePlatform entry => cases h

/-- **A lookup in a folder depends on no content but that of the class file it reads.** -/
theorem find_of_outline (h : files.outline = other.outline) (hfolder : location.isPlatform = false)
    (hread : ∀ path, location.classFile? files query constraint release = some path →
      files.read? path = other.read? path) (session : Session) :
    location.find files query constraint release session
      = location.find other query constraint release session := by
  cases location with
  | classFolder folder =>
    rw [find, find, folder.find_of_outline query constraint release h session fun hreads =>
      hread _ (if_pos hreads)]
  | sourceRoot root =>
    rw [find, find, root.find_of_outline query constraint release h session fun hreads =>
      hread _ (if_pos hreads)]
  | platform library => cases hfolder
  | releasePlatform entry => cases hfolder

theorem classFile?_of_outline (h : files.outline = other.outline) (location : Location) :
    location.classFile? files query constraint release
      = location.classFile? other query constraint release := by
  cases location with
  | classFolder folder =>
    rw [classFile?, classFile?, ClassFolder.reads, ClassFolder.reads, folder.list_of_outline h]
  | sourceRoot root =>
    rw [classFile?, classFile?, SourceRoot.reads, SourceRoot.reads,
      root.packageListing_of_outline h]
  | platform library => rfl
  | releasePlatform entry => rfl

end Location

/-! ## Classpaths -/

namespace Environment

variable {query : Query} {constraint : ModuleConstraint} {release : Release}

/-- **A lookup that reads nothing new is the same**, answers, locations and sessions. -/
theorem findAt_of_outline (h : files.outline = other.outline) (positions : List Nat) :
    ∀ (environment : Environment) (sessions : Sessions), positions.Nodup →
      (∀ position ∈ positions, ∀ entry, environment.entries[position]? = some entry →
        entry.location.isPlatform = false ∧
          ∀ path, entry.location.classFile? files query constraint release = some path →
            files.read? path = other.read? path) →
      findAt files query constraint release positions environment sessions
        = findAt other query constraint release positions environment sessions := by
  induction positions with
  | nil => exact fun _ _ _ _ => rfl
  | cons position positions ih =>
    intro environment sessions hnodup hentries
    obtain ⟨hfresh, hnodup⟩ := List.nodup_cons.1 hnodup
    have hothers := fun other hother => hentries other (List.mem_cons_of_mem position hother)
    cases hentry : environment.entries[position]? with
    | none =>
      rw [findAt, findAt, hentry]
      exact ih environment sessions hnodup hothers
    | some entry =>
      obtain ⟨hfolder, hread⟩ := hentries position List.mem_cons_self entry hentry
      have hfind := Location.find_of_outline h hfolder hread (sessions.named entry.session)
      have hasked : asked other query constraint release environment sessions position entry
          = asked files query constraint release environment sessions position entry := by
        rw [asked, asked, hfind]
      rw [findAt_cons hentry, findAt_cons hentry, ClasspathEntry.answer, ClasspathEntry.answer,
        hasked, hfind]
      cases (entry.location.find other query constraint release _).1 with
      | some answer => rfl
      | none =>
        refine ih _ _ hnodup fun next hnext found hfound => hothers next hnext found ?_
        exact ((undisturbed_asked hfresh).entries next hnext).symm.trans hfound

/-- What the entry at a position answers, if it reads a class file. -/
theorem answerAt_of_classFile? {environment : Environment} {position : Nat}
    {entry : ClasspathEntry} (hentry : environment.entries[position]? = some entry) {path : Path}
    (hpath : entry.location.classFile? files query constraint release = some path)
    {content : Content} (hread : files.read? path = some content) (sessions : Sessions) :
    environment.answerAt files query constraint release sessions position
      = (parseBinaryType content.bytes).toOption.map (entry.location.binaryAnswer query) := by
  rw [answerAt, hentry, Option.bind_some, ClasspathEntry.answer,
    Location.find_of_classFile? hpath, hread, Option.bind_some]

/-- **How far a class file reaches that is written over.**  If no location reads it for a lookup,
the lookup is the same as before.  If the lookup gets to a location that reads it, the result is the
answer of this location with the type that the file now holds, or, if it holds none, what the
remaining locations answer. -/
theorem find_rewritten (hwf : files.WellFormed) {address : Address} {old : Content}
    {executable : Bool} (hfile : files.entryAt? address = some (.file old executable))
    {environment : Environment}
    (hfolders : ∀ location ∈ environment.locations, location.isPlatform = false)
    (content : Content) (sessions : Sessions) (query : Query) (constraint : ModuleConstraint)
    (release : Release) :
    let rewritten := files.putAt address (.file content executable)
    ((∀ location ∈ environment.locations,
        ¬ location.Reads files address query constraint release) →
      environment.find rewritten sessions query constraint release
        = environment.find files sessions query constraint release) ∧
    ∀ before position after entry,
      resolutionOrder (environment.locations.map Location.release) release
        = before ++ position :: after →
      environment.entries[position]? = some entry →
      entry.location.Reads files address query constraint release →
      (findAt rewritten query constraint release before environment sessions).1 = none →
      (environment.find rewritten sessions query constraint release).1
        = match parseBinaryType content.bytes with
          | .ok type => some (entry.location.binaryAnswer query type)
          | .error _ =>
            (findAt rewritten query constraint release after environment sessions).1 := by
  intro rewritten
  have houtline : rewritten.outline = files.outline := Files.outline_putAt hwf hfile content
  have hnodup := nodup_resolutionOrder (environment.locations.map Location.release) release
  constructor
  · intro hunread
    refine findAt_of_outline houtline _ environment sessions hnodup ?_
    intro position _ entry hentry
    have hmem : entry.location ∈ environment.locations :=
      List.mem_map_of_mem (List.mem_of_getElem? hentry)
    refine ⟨hfolders _ hmem, fun path hpath => ?_⟩
    rw [Location.classFile?_of_outline houtline] at hpath
    have helsewhere : files.resolve? path ≠ some address := fun hresolve =>
      hunread _ hmem ⟨path, hpath, hresolve⟩
    exact (Files.read?_putAt hwf hfile content path).trans (if_neg helsewhere)
  · intro before position after entry horder hentry hreads hbefore
    obtain ⟨path, hpath, hresolve⟩ := hreads
    rw [← Location.classFile?_of_outline houtline] at hpath
    have hread : rewritten.read? path = some content :=
      (Files.read?_putAt hwf hfile content path).trans (if_pos hresolve)
    rw [horder, List.nodup_append, List.nodup_cons] at hnodup
    obtain ⟨hbeforeNodup, ⟨-, hafterNodup⟩, -⟩ := hnodup
    rw [findAt_eq_findSome? before environment sessions hbeforeNodup] at hbefore
    rw [find_eq_findSome?, horder, List.findSome?_append, hbefore, Option.none_or,
      List.findSome?_cons, answerAt_of_classFile? hentry hpath hread sessions,
      findAt_eq_findSome? after environment sessions hafterNodup]
    cases parseBinaryType content.bytes <;> rfl

/-- Two folders with a class file of the same type. -/
def twoClassFiles : Files where
  entries := [(["a"], .folder), (["a", "T.class"], .file (.ofBytes []) false),
    (["b"], .folder), (["b", "T.class"], .file (.ofBytes []) false)]

/-- The first folder is the output of this source root. -/
def twoClassFilesRoot : SourceRoot := .ofFolders ⟨"src"⟩ ⟨"a"⟩ none

/-- The second one is a class folder. -/
def twoClassFilesClasspath : Environment :=
  ⟨[⟨.sourceRoot twoClassFilesRoot, ""⟩, ⟨.classFolder { root := ⟨"b"⟩ }, ""⟩]⟩

/-- The lookup of the type. -/
def twoClassFilesQuery : Query := { typeName := "T", packageName := "" }

theorem wellFormed_twoClassFiles : twoClassFiles.WellFormed :=
  Files.wellFormed_of_forall (by decide) (by decide)

theorem reads_twoClassFiles : (Location.sourceRoot twoClassFilesRoot).Reads twoClassFiles
    ["a", "T.class"] twoClassFilesQuery .any .unversioned := by
  have hwf := wellFormed_twoClassFiles
  have hlf : twoClassFiles.LinkFree := Files.linkFree_of_forall (by decide)
  have hleads : twoClassFiles.Leads ["a"] twoClassFilesRoot.binaryFolder [] :=
    Files.leads_name hwf hlf
      (rfl : twoClassFiles.entryAt? (twoClassFiles.workingFolder ++ ["a"]) = some .folder)
  have hmem : (["a"] ++ [] ++ [] ++ ["T.class"], .file (.ofBytes []) false)
      ∈ twoClassFiles.entries := by
    simp [twoClassFiles]
  obtain ⟨entries, hprobe, hlisted⟩ := SourceRoot.probe_of_mem hwf hlf hleads (by decide)
    (by decide : isClassFileName "T.class" = true) hmem
  have hlisting : (twoClassFilesRoot.packageListing twoClassFiles twoClassFilesQuery.packageName).1
      = some ⟨entries, false⟩ := hprobe
  have hreads : twoClassFilesRoot.reads twoClassFilesQuery .any .unversioned twoClassFiles
      = true := by
    rw [SourceRoot.reads, hlisting, Option.any_some, Bool.and_eq_true]
    exact ⟨rfl, List.contains_iff_mem.2 hlisted⟩
  have hproper : ∀ name ∈ ["T.class"], ProperName name := by decide
  have hentry : twoClassFiles.entryAt? (["a"] ++ ([] ++ ["T.class"]))
      = some (.file (.ofBytes []) false) := rfl
  exact ⟨_, if_pos hreads, (hleads.inside hproper).resolve?_eq hwf hlf hentry
    fun hslash => absurd hslash (by decide)⟩

/-- The output is the first to be asked, and its class file is damaged. -/
theorem find_rewritten_sample :
    twoClassFiles.WellFormed ∧
      twoClassFiles.entryAt? ["a", "T.class"] = some (.file (.ofBytes []) false) ∧
      (∀ location ∈ twoClassFilesClasspath.locations, location.isPlatform = false) ∧
      (twoClassFilesClasspath.find
          (twoClassFiles.putAt ["a", "T.class"] (.file (.ofBytes [202]) false)) {}
          twoClassFilesQuery .any .unversioned).1
        = (findAt (twoClassFiles.putAt ["a", "T.class"] (.file (.ofBytes [202]) false))
            twoClassFilesQuery .any .unversioned [1] twoClassFilesClasspath {}).1 := by
  have hfile : twoClassFiles.entryAt? ["a", "T.class"] = some (.file (.ofBytes []) false) := rfl
  have hfolders : ∀ location ∈ twoClassFilesClasspath.locations, location.isPlatform = false := by
    simp [twoClassFilesClasspath, locations, Location.isPlatform]
  have horder : resolutionOrder (twoClassFilesClasspath.locations.map Location.release) .unversioned
      = [] ++ 0 :: [1] := by
    simp [twoClassFilesClasspath, locations, resolutionOrder, Location.release, twoClassFilesRoot,
      SourceRoot.ofFolders, Release.overlay_none, Release.isVersioned]
  refine ⟨wellFormed_twoClassFiles, hfile, hfolders, ?_⟩
  obtain ⟨-, hreached⟩ := find_rewritten wellFormed_twoClassFiles hfile hfolders (.ofBytes [202]) {}
    twoClassFilesQuery .any .unversioned
  have hfault : ∃ fault, parseBinaryType (Content.ofBytes [202]).bytes = .error fault := ⟨_, rfl⟩
  obtain ⟨fault, hfault⟩ := hfault
  rw [hreached _ _ _ _ horder rfl reads_twoClassFiles rfl, hfault]

end Environment

end MultiRelease
