import MultiRelease.Proofs.Files.Inward
import MultiRelease.Proofs.Location.Snapshots
import MultiRelease.Proofs.Location.SourceFiles
import MultiRelease.Proofs.Platform.AcceptedModules

/-!
# Lookups that stay in the folders of locations

A location joins the names of a lookup to its own folders and reads what it finds there.  Nothing
keeps the names from leading somewhere else: the segments of a type may be two dots, or the first
may start with a slash, and then the answer comes from outside (`Location.exists_answer_outside`).

`Location.lookups_stay_inside` says when it does not.  The path of the package has to be inward
(`Path.IsInward`), which the paths of dotted names are unless they start with a slash
(`Query.isInward_of_ofDotted?`): such a name is cut at its dots, so there are no two dots left in a
row, and each file name has the one dot in front of its ending.  The name of the file needs no
condition: folders answer only with names that they listed before, and in a tree those are proper
(`Location.proper_of_probe`).  An exploded image lists modules and not classes, so there the whole
path of the class has to be inward.

What an answer is based on is said by `Answer.IsBasedOn`: it gives the type in a class file, or it
points at a source file.  That a path leads below a folder (`Files.LeadsBelow`) is a statement about
its text, together with what it means for the tree if no symbolic link stands below the folder: the
path leads to that place or nowhere.  The two go together because the text alone says nothing about
where a link leads, and the tree alone says nothing about paths to files that are missing.

Files may change between the look at a package and the lookup.  The names are those that were seen
then, and they were proper then, if every change left a tree (`Location.Event.KeepsTrees`).
-/

set_option autoImplicit false

namespace MultiRelease

open Text

variable {files : Files} {query : Query} {listing : PackageListing} {answer : Answer}

/-! ## Names of types -/

theorem head?_intercalate {first : String} (h : first ≠ "") (others : List String) :
    ("/".intercalate (first :: others)).toList.head? = first.toList.head? := by
  have hne : first.toList ≠ [] := fun hnil => h (String.toList_eq_nil_iff.1 hnil)
  obtain ⟨c, rest, hfirst⟩ := List.exists_cons_of_ne_nil hne
  cases others with
  | nil => rw [String.intercalate_singleton]
  | cons other others => simp [String.intercalate_cons_cons, hfirst]

theorem notMem_intercalate {c : Char} (hc : c ≠ '/') :
    ∀ {parts : List String}, (∀ part ∈ parts, c ∉ part.toList) →
      c ∉ ("/".intercalate parts).toList
  | [], _ => by simp
  | [part], h => by
    rw [String.intercalate_singleton]
    exact h part List.mem_cons_self
  | part :: other :: parts, h => by
    obtain ⟨hpart, hothers⟩ := List.forall_mem_cons.1 h
    rw [String.intercalate_cons_cons, String.toList_append, String.toList_append, List.mem_append,
      List.mem_append]
    rintro ((hmem | hmem) | hmem)
    · exact hpart hmem
    · exact hc (by simpa using hmem)
    · exact notMem_intercalate hc hothers hmem

theorem properName_class {last : String} (h : '/' ∉ last.toList) :
    ProperName (last ++ classSuffix) := by
  have hlong : ∀ text : String, text.toList.length < 6 → last ++ classSuffix ≠ text := by
    rintro text hshort rfl
    have hsuffix : classSuffix.toList.length = 6 := by decide
    rw [String.toList_append, List.length_append, hsuffix] at hshort
    omega
  refine ⟨hlong "" (by decide), hlong "." (by decide), hlong ".." (by decide), ?_⟩
  rw [String.toList_append, List.mem_append, not_or]
  exact ⟨h, by decide⟩

/-- The path of a class file ends in a proper name. -/
theorem exists_names_of_class (text : String) :
    ∃ steps name, Path.names ⟨text ++ classSuffix⟩ = steps ++ [name] ∧ ProperName name := by
  have hlast : ∀ last : String, '/' ∉ last.toList →
      (segments '/' (last ++ classSuffix)).filter (· ≠ "") = [last ++ classSuffix] := by
    intro last hslash
    have hname := properName_class hslash
    have hnames := Path.names_intercalate (List.forall_mem_singleton.2 hname)
    rwa [String.intercalate_singleton] at hnames
  cases hcut : cutAtLast '/' text.toList with
  | none =>
    have hslash := notMem_of_cutAtLast hcut
    exact ⟨[], text ++ classSuffix, hlast text hslash, properName_class hslash⟩
  | some parts =>
    obtain ⟨front, back⟩ := parts
    obtain ⟨htext, hslash⟩ := eq_of_cutAtLast hcut
    have hback : '/' ∉ (String.ofList back).toList := by rwa [String.toList_ofList]
    have hwhole : text ++ classSuffix
        = String.ofList front ++ "/" ++ (String.ofList back ++ classSuffix) := by
      rw [← String.toList_inj]
      simp [htext]
    refine ⟨(segments '/' (String.ofList front)).filter (· ≠ ""), String.ofList back ++ classSuffix,
      ?_, properName_class hback⟩
    rw [Path.names, Path.segments, hwhole, segments_append_slash, List.filter_append,
      hlast _ hback]

namespace Query

/-- The names of the types with given segments, none of them empty. -/
theorem qualifiedTypeName_of_ofCompound? {parts : List String} (h : ofCompound? parts = some query)
    (hparts : "" ∉ parts) :
    query.qualifiedTypeName = "/".intercalate parts ∧
      query.packageName = "/".intercalate parts.dropLast := by
  obtain ⟨typeName, hlast, rfl⟩ := Option.map_eq_some_iff.1 h
  refine ⟨?_, rfl⟩
  obtain ⟨front, rfl⟩ := List.getLast?_eq_some_iff.1 hlast
  rw [qualifiedTypeName, inPackage, List.dropLast_concat]
  cases front with
  | nil => simp
  | cons first others =>
    have hfirst : first ≠ "" := fun hempty => hparts (by simp [hempty])
    have hpackage : "/".intercalate (first :: others) ≠ "" := by
      intro hempty
      have hhead := head?_intercalate hfirst others
      rw [hempty] at hhead
      exact hfirst (by simpa using hhead.symm)
    rw [if_neg hpackage, String.intercalate_append_of_ne_nil (List.cons_ne_nil _ _)
      (List.cons_ne_nil _ _), String.intercalate_singleton]

/-- A text with one dot at most has no two dots between slashes. -/
theorem isInward_of_count {text : String} (hfirst : text.toList.head? ≠ some '/')
    (hdots : text.toList.count '.' ≤ 1) : Path.IsInward ⟨text⟩ where
  relative := decide_eq_false hfirst
  stays := by
    refine isSome_descend fun step hstep hparent => ?_
    have hsublist := (segments_spec (List.mem_filter.1 hstep).1).2
    have htwo : step.toList.count '.' = 2 := by rw [hparent]; decide
    have hle : step.toList.count '.' ≤ text.toList.count '.' := hsublist.count_le '.'
    omega

/-- **The paths of a type with a dotted name stay in the folder that they are taken from**, unless
the name starts with a slash. -/
theorem isInward_of_ofDotted? {name : String} (h : ofDotted? name = some query)
    (hname : name.toList.head? ≠ some '/') :
    Path.IsInward ⟨query.packageName⟩ ∧ Path.IsInward ⟨query.qualifiedBinaryFileName⟩ := by
  rw [ofDotted?, Option.ite_none_left_eq_some] at h
  obtain ⟨hparts, h⟩ := h
  obtain ⟨hqualified, hpackage⟩ := qualifiedTypeName_of_ofCompound? h hparts
  have hdots : ∀ part ∈ segments '.' name, '.' ∉ part.toList := fun part hpart =>
    (segments_spec hpart).1
  obtain ⟨chars, others, rest, hsegments, htext, -, -⟩ := exists_of_segmentsAt '.' name.toList
  have hcut : segments '.' name = String.ofList chars :: others.map String.ofList := by
    rw [segments, hsegments, List.map_cons]
  have hfirst : String.ofList chars ≠ "" := fun hempty => hparts (by simp [hcut, hempty])
  have hne : chars ≠ [] := fun hnil => hfirst (by rw [hnil])
  obtain ⟨c, tail, rfl⟩ := List.exists_cons_of_ne_nil hne
  -- what is joined from the first segment on starts as the name does
  have hhead : ∀ others, ("/".intercalate (String.ofList (c :: tail) :: others)).toList.head?
      = some c := by
    intro others
    rw [head?_intercalate hfirst, String.toList_ofList, List.head?_cons]
  rw [htext, List.cons_append, List.head?_cons] at hname
  constructor
  · refine isInward_of_count ?_ ?_
    · rw [hpackage, hcut]
      cases others with
      | nil => simp
      | cons other others =>
        rw [List.map_cons, List.dropLast_cons_cons, hhead]
        exact hname
    · rw [hpackage, List.count_eq_zero.2 (notMem_intercalate (by decide) fun part hpart =>
        hdots part (List.mem_of_mem_dropLast hpart))]
      exact Nat.zero_le 1
  · rw [qualifiedBinaryFileName, hqualified]
    refine isInward_of_count ?_ ?_
    · rw [String.toList_append, List.head?_append, hcut, hhead, Option.some_or]
      exact hname
    · rw [String.toList_append, List.count_append,
        List.count_eq_zero.2 (notMem_intercalate (by decide) hdots)]
      decide

end Query

/-! ## What a location shows -/

/-- What a folder holds has proper names. -/
theorem proper_of_mem_children (hwf : files.WellFormed) {folder : Path}
    {children : List (String × FileEntry)} (hlist : files.list? folder = some children)
    {child : String × FileEntry} (hmem : child ∈ children) : ProperName child.1 := by
  have hshown : child ∈ (files.list? folder).getD [] := by rwa [hlist, Option.getD_some]
  exact hwf.proper_of_mem_list? hshown

theorem AreNames.proper (hwf : files.WellFormed) {folder : Path} {members : List String}
    {children : List (String × FileEntry)} {keep : String → FileEntry → Bool}
    (h : AreNames members children keep) (hlist : files.list? folder = some children) :
    ∀ name ∈ members, ProperName name := by
  intro name hname
  obtain ⟨_, hkept, rfl⟩ := List.mem_map.1 (h.perm.mem_iff.1 hname)
  exact proper_of_mem_children hwf hlist (List.mem_filter.1 hkept).1

namespace Location

variable {location : Location}

/-- What a location sees in a package has proper names. -/
theorem proper_of_probe (hwf : files.WellFormed) {package : String}
    (h : location.probe files package = some listing) :
    ∀ name ∈ listing.entries, ProperName name := by
  cases location with
  | classFolder folder =>
    obtain ⟨members, hmembers, rfl⟩ := Option.map_eq_some_iff.1 h
    obtain ⟨⟨_, holds⟩, hfound, rfl⟩ := Option.map_eq_some_iff.1 hmembers
    obtain ⟨children, hlist, hnames, -⟩ := areNames_of_members? hfound
    exact hnames.proper hwf hlist
  | sourceRoot root =>
    have hshows := root.shows_probe files package
    rw [show root.probe files package = some listing from h] at hshows
    cases hshows with
    | classes _ hlist hnames => exact hnames.proper hwf hlist
    | sources _ hlist _ hnames => exact hnames.proper hwf hlist
    | folders _ _ hlist hnames => exact hnames.proper hwf hlist
    | nothing => exact List.forall_mem_nil ProperName
  | platform library => cases h
  | releasePlatform entry => cases h

/-- Changes after which a tree is still one as file systems have them. -/
def Event.KeepsTrees : Event → Prop
  | .change edit => ∀ files : Files, files.WellFormed → (edit files).WellFormed
  | .ask _ _ => True

theorem wellFormed_firstSeen (package : String) {events : List Event}
    (hevents : ∀ event ∈ events, event.KeepsTrees) (hwf : files.WellFormed) :
    (location.firstSeen package files events).WellFormed := by
  induction events generalizing files with
  | nil => exact hwf
  | cons event events ih =>
    obtain ⟨hevent, hothers⟩ := List.forall_mem_cons.1 hevents
    cases event with
    | change edit => exact ih hothers (hevent files hwf)
    | ask call session =>
      rw [firstSeen]
      split
      · exact hwf
      · exact ih hothers hwf

/-! ## Where answers come from -/

/-- The folder of a location that an answer comes from, and the path below it that the location
reads or points at. -/
def basis? (query : Query) (answer : Answer) : Location → Option (Path × Path)
  | classFolder folder => some (folder.root, folder.root.child query.qualifiedBinaryFileName)
  | sourceRoot root =>
    some (if answer.isSource then
        (root.sourceFolder, (root.sourceFolder.child query.packageName).child query.sourceFileName)
      else (root.binaryFolder, root.binaryFolder.child query.qualifiedBinaryFileName))
  | _ => none

end Location

/-- An answer gives the type in a class file, or it points at a source file. -/
inductive Answer.IsBasedOn (files : Files) (answer : Answer) (path : Path) : Prop
  | classFile {content : Content} {type : BinaryType} (hread : files.read? path = some content)
    (hparse : parseBinaryType content.bytes = .ok type) (hkind : answer.kind = .binary type)
  | source {typeName : String} (hkind : answer.kind = .source path typeName)

/-- A path leads below a folder.  If no symbolic link stands below the folder, it leads to that
place, or nowhere. -/
def Files.LeadsBelow (files : Files) (folder path : Path) : Prop :=
  ∃ below, folder.GoesInto below path ∧
    ∀ home place, files.folder? folder = some home → files.LinkFreeBelow home →
      files.resolve? path = some place → place = home ++ below

/-- A path that goes on from a folder with steps that stay in it, and with a name behind them, leads
below the folder. -/
theorem leadsBelow_of_names {folder path : Path} {steps : List String} {name : String}
    (hstays : (descend [] steps).isSome = true)
    (hsteps : ∀ step ∈ steps, step ≠ "" ∧ '/' ∉ step.toList) (hname : ProperName name)
    (hnames : path.names = folder.names ++ (steps ++ [name]))
    (habsolute : path.isAbsolute = folder.isAbsolute) : files.LeadsBelow folder path := by
  obtain ⟨below, hbelow⟩ := Path.exists_goesInto hstays hsteps hname hnames habsolute
  exact ⟨below, hbelow, fun _ _ => hbelow.eq_of_resolve?⟩

/-- The class file of a type in an inward package. -/
theorem leadsBelow_classFile (hinward : Path.IsInward ⟨query.packageName⟩)
    (hname : ProperName query.binaryFileName) (folder : Path) :
    files.LeadsBelow folder (folder.child query.qualifiedBinaryFileName) := by
  obtain ⟨hnames, habsolute, -⟩ := Query.names_relative hname
  have hrelative := habsolute.trans hinward.relative
  refine leadsBelow_of_names hinward.stays (fun _ hstep => Path.names_spec hstep) hname ?_ ?_
  · rw [Path.child, Path.names_join _ _ hrelative, hnames]
  · rw [Path.child, Path.isAbsolute_join _ _ hrelative]

/-- The source file of a type in an inward package. -/
theorem leadsBelow_sourceFile (hinward : Path.IsInward ⟨query.packageName⟩)
    (hname : ProperName query.sourceFileName) (folder : Path) :
    files.LeadsBelow folder ((folder.child query.packageName).child query.sourceFileName) := by
  have hfile : Path.names ⟨query.sourceFileName⟩ = [query.sourceFileName] := by
    have hnames := Path.names_intercalate (List.forall_mem_singleton.2 hname)
    rwa [String.intercalate_singleton] at hnames
  have hrelative := Path.isAbsolute_of_proper hname
  refine leadsBelow_of_names hinward.stays (fun _ hstep => Path.names_spec hstep) hname ?_ ?_
  · rw [Path.child, Path.child, Path.names_join _ _ hrelative, Path.names_join _ _ hinward.relative,
      hfile, List.append_assoc]
  · rw [Path.child, Path.child, Path.isAbsolute_join _ _ hrelative,
      Path.isAbsolute_join _ _ hinward.relative]

namespace Location

variable {location : Location}

/-- What a location answers from names that it shows comes from below its folders. -/
theorem leadsBelow_of_answersFrom (hinward : Path.IsInward ⟨query.packageName⟩)
    (hproper : ∀ name ∈ listing.entries, ProperName name)
    (h : location.AnswersFrom files query listing answer) :
    ∃ folder path, location.basis? query answer = some (folder, path) ∧
      answer.IsBasedOn files path ∧ files.LeadsBelow folder path := by
  cases h with
  | classFile hlisted hread hparse =>
    exact ⟨_, _, rfl, .classFile hread hparse rfl,
      leadsBelow_classFile hinward (hproper _ hlisted) _⟩
  | output hbinary hlisted hread hparse =>
    exact ⟨_, _, rfl, .classFile hread hparse rfl,
      leadsBelow_classFile hinward (hproper _ hlisted) _⟩
  | source hsource hallowed hlisted =>
    exact ⟨_, _, rfl, .source rfl, leadsBelow_sourceFile hinward (hproper _ hlisted) _⟩

end Location

/-! ## Exploded images -/

namespace RuntimeImage

variable {root : Path} {image : RuntimeImage} {name : String} {accepts : String → Bool}
  {module : Option String} {found : ImageClass}

/-- The modules of an exploded image are named by folders. -/
theorem exists_of_openExploded (hwf : files.WellFormed) (h : openExploded files root = .ok image) :
    ∃ modules, image = .exploded root modules ∧ ∀ module ∈ modules, ProperName module := by
  rw [openExploded] at h
  split at h
  · cases h
  · rename_i members hlist
    refine ⟨_, (Except.ok.inj h).symm, fun module hmodule => ?_⟩
    obtain ⟨hmember, -⟩ := List.mem_filter.1 (List.mem_mergeSort.1 hmodule)
    obtain ⟨child, hchild, rfl⟩ := List.mem_map.1 hmember
    exact proper_of_mem_children hwf hlist hchild

/-- An exploded image that is asked for no module, or for one that it lists, finds a class in the
folder of a module that it lists. -/
theorem listed_of_findClass {modules : List String}
    (h : ((exploded root modules).findClass files name module accepts).1 = .ok (some found))
    (hlisted : ∀ asked, module = some asked → asked ∈ modules) :
    found.module ∈ modules ∧ ∃ content,
      files.read? ((root.child found.module).child name) = some content ∧
        content.bytes = found.bytes := by
  have hread : (readClass files (exploded root modules) found.module name).1
      = .ok (some found.bytes) → ∃ content,
        files.read? ((root.child found.module).child name) = some content ∧
          content.bytes = found.bytes := fun hread =>
    Option.map_eq_some_iff.1 (Except.ok.inj hread)
  cases module with
  | none =>
    obtain ⟨before, after, hmodules, -, hfound⟩ := firstClass_eq_ok_some_iff.1 h
    refine ⟨?_, hread hfound⟩
    have hmem : found.module ∈ modules.filter accepts := by
      rw [show modules.filter accepts = _ from hmodules]
      simp
    exact (List.mem_filter.1 hmem).1
  | some asked =>
    obtain ⟨before, after, hmodules, -, hfound⟩ := firstClass_eq_ok_some_iff.1 h
    have hmem : found.module ∈ [asked] := by
      rw [hmodules]
      simp
    exact ⟨List.mem_singleton.1 hmem ▸ hlisted asked rfl, hread hfound⟩

end RuntimeImage

/-- The path of a class that stays in the folder that it is taken from leads below the folder. -/
theorem leadsBelow_of_isInward (hinward : Path.IsInward ⟨query.qualifiedBinaryFileName⟩)
    (folder : Path) : files.LeadsBelow folder (folder.child query.qualifiedBinaryFileName) := by
  obtain ⟨steps, name, hnames, hname⟩ := exists_names_of_class query.qualifiedTypeName
  have hfile : Path.names ⟨query.qualifiedBinaryFileName⟩ = steps ++ [name] := hnames
  have hstays : (descend [] steps).isSome = true := by
    have hall := hinward.stays
    rw [hfile, descend_append] at hall
    exact Option.isSome_of_isSome_bind hall
  have hsteps : ∀ step ∈ steps, step ≠ "" ∧ '/' ∉ step.toList := fun step hstep =>
    Path.names_spec (p := ⟨query.qualifiedBinaryFileName⟩) (hfile ▸ List.mem_append_left _ hstep)
  refine leadsBelow_of_names hstays hsteps hname ?_ ?_
  · rw [Path.child, Path.names_join _ _ hinward.relative, hfile]
  · rw [Path.child, Path.isAbsolute_join _ _ hinward.relative]

namespace Location

/-- **Lookups stay in their folders if their paths do.**

1. Whatever happened to the files since a folder of classes or a source root was set up, what it
   answers to a lookup in an inward package is read from below its own folder, or is a source file
   below its source folder.
2. An exploded image that is asked for no module, or for one that it lists, answers with a class
   from the folder of a module that it lists, and from below that folder if the path of the class
   is inward.
3. The paths of a dotted name that does not start with a slash are inward. -/
theorem lookups_stay_inside :
    (∀ (location : Location) (files : Files) (events : List Event) (later : Scene)
        (session : Session) (query : Query) (constraint : ModuleConstraint) (release : Release)
        (answer : Answer),
      location.IsFolder → (∀ package, location.remembered? package = none) →
      files.WellFormed → (∀ event ∈ events, event.KeepsTrees) →
      Scene.play ⟨files, location⟩ events = later →
      (later.location.find later.files query constraint release session).1 = some answer →
      Path.IsInward ⟨query.packageName⟩ →
      ∃ folder path, location.basis? query answer = some (folder, path) ∧
        answer.IsBasedOn later.files path ∧ later.files.LeadsBelow folder path) ∧
    (∀ (opened files : Files) (root : Path) (image : RuntimeImage) (query : Query)
        (module : Option String) (accepts : String → Bool) (found : ImageClass),
      opened.WellFormed → RuntimeImage.openExploded opened root = .ok image →
      (image.findClass files query.qualifiedBinaryFileName module accepts).1 = .ok (some found) →
      (∀ asked, module = some asked → asked ∈ image.modules) →
      found.module ∈ image.modules ∧ ProperName found.module ∧
      ∃ content, files.read? ((root.child found.module).child query.qualifiedBinaryFileName)
          = some content ∧ content.bytes = found.bytes ∧
        (Path.IsInward ⟨query.qualifiedBinaryFileName⟩ →
          files.LeadsBelow (root.child found.module)
            ((root.child found.module).child query.qualifiedBinaryFileName))) ∧
    ∀ (name : String) (query : Query), Query.ofDotted? name = some query →
      name.toList.head? ≠ some '/' →
      Path.IsInward ⟨query.packageName⟩ ∧ Path.IsInward ⟨query.qualifiedBinaryFileName⟩ := by
  refine ⟨?_, ?_, fun name query => Query.isInward_of_ofDotted?⟩
  · intro location files events later session query constraint release answer hfolder hfresh hwf
      hevents hplay hfind hinward
    obtain ⟨hlater, hsame, hshown⟩ := hplay ▸ playedFrom_play events _ hfolder
    obtain ⟨-, listing, hlisting, hanswer⟩ := (find_eq_some_iff hlater).1 hfind
    rw [hshown, hfresh, Option.getD_none] at hlisting
    have hseen : (location.firstSeen query.packageName files events).WellFormed :=
      wellFormed_firstSeen query.packageName hevents hwf
    have hproper := proper_of_probe hseen hlisting
    exact leadsBelow_of_answersFrom hinward hproper ((answersFrom_congr hsame).1 hanswer)
  · intro opened files root image query module accepts found hwf hopen hfind hlisted
    obtain ⟨modules, rfl, hproper⟩ := RuntimeImage.exists_of_openExploded hwf hopen
    obtain ⟨hmem, content, hread, hbytes⟩ := RuntimeImage.listed_of_findClass hfind hlisted
    exact ⟨hmem, hproper _ hmem, content, hread, hbytes, fun hinward =>
      leadsBelow_of_isInward hinward _⟩

/-! ## A package above its folder -/

/-- A class next to a folder of classes. -/
def outsideFiles : Files where
  entries := [(["out"], .folder), (["out", "a"], .folder),
    (["out", "T.class"], .file (.ofBytes (Stub.encode { name := "T" })) false)]

theorem wellFormed_outsideFiles : outsideFiles.WellFormed :=
  Files.wellFormed_of_forall (by decide) (by decide)

theorem linkFree_outsideFiles : outsideFiles.LinkFree := Files.linkFree_of_forall (by decide)

theorem resolve?_outsideFiles :
    outsideFiles.resolve? ⟨"out/a"⟩ = some ["out", "a"] ∧
      outsideFiles.resolve? ⟨"out/a/.."⟩ = some ["out"] ∧
      outsideFiles.resolve? ⟨"out/a/../T.class"⟩ = some ["out", "T.class"] := by
  have hsteps : Path.steps ⟨"out/a"⟩ = ["out", "a"] ∧ Path.steps ⟨"out/a/.."⟩ = ["out", "a", ".."] ∧
      Path.steps ⟨"out/a/../T.class"⟩ = ["out", "a", "..", "T.class"] := by
    decide
  have hstart : outsideFiles.start ⟨"out/a"⟩ = [] ∧ outsideFiles.start ⟨"out/a/.."⟩ = [] ∧
      outsideFiles.start ⟨"out/a/../T.class"⟩ = [] := by
    decide
  rw [Files.resolve?, Files.resolve?, Files.resolve?, hsteps.1, hsteps.2.1, hsteps.2.2, hstart.1,
    hstart.2.1, hstart.2.2]
  simp [Files.walk, outsideFiles, Files.entryAt?, FileEntry.isFolder]

/-- The folder of classes next to it. -/
def outsideFolder : ClassFolder where
  root := ⟨"out/a"⟩

/-- The type in the folder above. -/
def outsideQuery : Query := .inPackage "T" [".."]

/-- The answer with the class that is not in the folder. -/
def outsideAnswer : Answer where
  kind := .binary (Stub.type { name := "T" })
  moduleName := none
  release := .unversioned

theorem find_outsideFolder :
    ((Location.classFolder outsideFolder).find outsideFiles outsideQuery .any .unversioned {}).1
        = some outsideAnswer ∧
      outsideAnswer.IsBasedOn outsideFiles ⟨"out/a/../T.class"⟩ := by
  obtain ⟨-, hfolder, hfile⟩ := resolve?_outsideFiles
  have hpackage : outsideFolder.root.child outsideQuery.packageName = ⟨"out/a/.."⟩ := by
    decide
  have hpath : outsideFolder.root.child outsideQuery.qualifiedBinaryFileName
      = ⟨"out/a/../T.class"⟩ := by
    decide
  have hlist : outsideFiles.list? ⟨"out/a/.."⟩ = some (outsideFiles.childrenAt ["out"]) := by
    rw [Files.list?, hfolder]
    rfl
  have hread : outsideFiles.read? ⟨"out/a/../T.class"⟩
      = some (.ofBytes (Stub.encode { name := "T" })) := by
    rw [Files.read?, Files.entry?, hfile]
    rfl
  have hparse : parseBinaryType (Content.ofBytes (Stub.encode { name := "T" })).bytes
      = .ok (Stub.type { name := "T" }) := by
    decide +kernel
  obtain ⟨members, hmembers, hlisted⟩ := members?_of_mem hlist
    (Files.mem_childrenAt.2 (List.mem_cons_of_mem _ (List.mem_cons_of_mem _ List.mem_cons_self)))
    (by decide : isClassFileName "T.class" = true)
  refine ⟨(find_eq_some_iff (.classFolder outsideFolder)).2 ⟨rfl, ⟨members, false⟩, ?_, ?_⟩,
    .classFile hread hparse rfl⟩
  · show (outsideFolder.probe outsideFiles outsideQuery.packageName).map _ = _
    rw [ClassFolder.probe, hpackage, hmembers]
    rfl
  · exact AnswersFrom.classFile hlisted (hpath ▸ hread) hparse

/-- **A lookup in a package above the folder is answered from outside of the folder**, without any
links. -/
theorem exists_answer_outside :
    outsideFiles.WellFormed ∧ outsideFiles.LinkFree ∧
      ∃ query answer, Query.ofCompound? ["..", "T"] = some query ∧
        ((Location.classFolder outsideFolder).find outsideFiles query .any .unversioned {}).1
          = some answer ∧
        (Location.classFolder outsideFolder).basis? query answer
          = some (⟨"out/a"⟩, ⟨"out/a/../T.class"⟩) ∧
        answer.IsBasedOn outsideFiles ⟨"out/a/../T.class"⟩ ∧
        outsideFiles.resolve? ⟨"out/a/../T.class"⟩ = some ["out", "T.class"] ∧
        outsideFiles.folder? ⟨"out/a"⟩ = some ["out", "a"] ∧
        ¬ ["out", "a"] <+: ["out", "T.class"] := by
  obtain ⟨hroot, -, hfile⟩ := resolve?_outsideFiles
  have hfolder : outsideFiles.folder? ⟨"out/a"⟩ = some ["out", "a"] := by
    rw [Files.folder?, hroot]
    rfl
  refine ⟨wellFormed_outsideFiles, linkFree_outsideFiles, outsideQuery, outsideAnswer, rfl,
    find_outsideFolder.1, ?_, find_outsideFolder.2, hfile, hfolder, by decide⟩
  decide

/-! ## Paths that stay -/

theorem openExploded_sampleJdk : RuntimeImage.openExploded sampleJdk ⟨"jdk/modules"⟩
    = .ok (.exploded ⟨"jdk/modules"⟩ ["java.base"]) := by
  have hopen := openHome_sampleImage
  have hplace : Path.join ⟨"jdk"⟩ RuntimeImage.explodedFolder = ⟨"jdk/modules"⟩ := by
    decide
  have hentry := (entry?_sampleJdk ["jdk", "modules"] "jdk/modules" (by decide) (by decide)
    rfl).2
  have hfolder : sampleJdk.isFolder ⟨"jdk/modules"⟩ = true := by
    rw [Files.isFolder, hentry]
    rfl
  rwa [RuntimeImage.openHome, hplace, if_pos hfolder] at hopen

/-- A source file, a class of the platform, and a dotted name. -/
theorem lookups_stay_inside_sample :
    SourceRoot.folderNamedAsSource.LeadsBelow ⟨"src"⟩ ⟨"src/U.java"⟩ ∧
      sampleJdk.LeadsBelow ⟨"jdk/modules/java.base"⟩ ⟨"jdk/modules/java.base/T.class"⟩ ∧
      Query.ofDotted? "p.T" = some (.inPackage "T" ["p"]) ∧
      Path.IsInward ⟨"p"⟩ ∧ Path.IsInward ⟨"p/T.class"⟩ := by
  obtain ⟨hfolders, himages, hdotted⟩ := lookups_stay_inside
  have hpackage : Path.IsInward ⟨""⟩ := ⟨rfl, rfl⟩
  have hfind : (SourceRoot.uncompiledRoot.find SourceRoot.folderNamedAsSource {}
      (.inPackage "U" []) .any .unversioned).1
        = some (SourceRoot.uncompiledRoot.sourceAnswer (.inPackage "U" [])) :=
    SourceRoot.find_uncompiledRoot (by decide) (by decide) rfl
  obtain ⟨folder, path, hbasis, -, hsource⟩ := hfolders (.sourceRoot SourceRoot.uncompiledRoot)
    SourceRoot.folderNamedAsSource [] _ {} (.inPackage "U" []) .any .unversioned _ (.sourceRoot _)
    (fun _ => rfl) SourceRoot.wellFormed_folderNamedAsSource (List.forall_mem_nil _) rfl hfind
    hpackage
  have hplace : (Location.sourceRoot SourceRoot.uncompiledRoot).basis? (.inPackage "U" [])
      (SourceRoot.uncompiledRoot.sourceAnswer (.inPackage "U" []))
        = some (⟨"src"⟩, ⟨"src/U.java"⟩) := by
    decide
  obtain ⟨rfl, rfl⟩ := Prod.mk.inj (Option.some_inj.1 (hbasis.symm.trans hplace))
  have hinward : Path.IsInward ⟨"T.class"⟩ := ⟨by decide, by decide⟩
  have hfound := congrArg Prod.fst findClass_sampleJdk
  rw [← qualifiedBinaryFileName_sample] at hfound hinward
  obtain ⟨-, -, content, -, -, hbelow⟩ := himages sampleJdk sampleJdk _ _ (.inPackage "T" []) none
    (fun _ => true) _ wellFormed_sampleJdk openExploded_sampleJdk hfound
    (fun _ hnone => by cases hnone)
  have hmodule : Path.child ⟨"jdk/modules"⟩ "java.base" = ⟨"jdk/modules/java.base"⟩ ∧
      Path.child ⟨"jdk/modules/java.base"⟩ "T.class" = ⟨"jdk/modules/java.base/T.class"⟩ := by
    decide
  have hjdk := hbelow hinward
  rw [qualifiedBinaryFileName_sample, hmodule.1, hmodule.2] at hjdk
  have hquery : Query.ofDotted? "p.T" = some (.inPackage "T" ["p"]) := by decide
  obtain ⟨hfront, hwhole⟩ := hdotted "p.T" _ hquery (by decide)
  exact ⟨hsource, hjdk, hquery, hfront, hwhole⟩

end Location

end MultiRelease
