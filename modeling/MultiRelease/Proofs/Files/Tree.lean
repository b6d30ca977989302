import Mathlib.Data.List.Infix
import Mathlib.Data.List.Nodup
import MultiRelease.Proofs.Files.Resolving

/-!
# Trees without links

In a tree as file systems have them (`Files.WellFormed`), and without symbolic links
(`Files.LinkFree`), a path along proper names leads to the place with these names, if there is one.
So what a path names can be told from the place that it starts at and from its names.

Four notions carry the statements about files everywhere else.

* `ProperName`: a name that leads to a place directly in a folder.  It is not empty, not a dot or
  two dots, and has no slash.  A path that is put together from proper names is relative, ends in no
  slash, and falls apart into these names again (`Path.names_intercalate`,
  `Path.isAbsolute_intercalate`, `Path.hasSuffix_slash_intercalate`).
* `Files.WellFormed`: each place holds one thing at most, and whatever stands anywhere stands in a
  folder and under a proper name.  For a tree that is written out this is decided by looking at each
  place (`Files.wellFormed_of_forall`).
* `Files.LinkFree`: there are no links.  Then a walk is made of the walks along its parts
  (`Files.LinkFree.walk_append`), and along proper names it leads to the place with these names and
  nowhere else (`Files.LinkFree.eq_of_walk`, `Files.walk_of_exists`).
* `Files.Leads files home p names`: the path leads to some place `home`, and from there along some
  names, whether or not anything stands there.

Leading is preserved by joining paths (`Files.Leads.join`, `Files.Leads.child`,
`Files.Leads.inside`, `Files.Leads.foldl_child`), so that it is shown once for the folder that a
location is given and then for all paths that are made from it.  What such a path names, lists or
reads is stated in terms of it:

* `Files.Leads.list?_iff`: it lists what stands directly in the folder with these names;
* `Files.Leads.read?_iff`: it reads the file with these names;
* `Files.Leads.mem_below_iff`: what is found anywhere below it is what the tree has below the
  folder.

The last part of the file does without the assumption on links.  What a folder lists is found under
its name, unless it is a link itself (`Files.entry?_of_mem_list?`).  A walk spends the links that it
follows, and so a longer walk has fewer of them left; but a step to something that is no link needs
none (`Files.walk_concat`).
-/

set_option autoImplicit false

namespace MultiRelease

/-- A name that leads to a place directly in a folder. -/
structure ProperName (name : String) : Prop where
  ne_empty : name ≠ ""
  ne_dot : name ≠ "."
  ne_dots : name ≠ ".."
  no_slash : '/' ∉ name.toList

instance (name : String) : Decidable (ProperName name) :=
  decidable_of_iff (name ≠ "" ∧ name ≠ "." ∧ name ≠ ".." ∧ '/' ∉ name.toList)
    ⟨fun ⟨ne_empty, ne_dot, ne_dots, no_slash⟩ => { ne_empty, ne_dot, ne_dots, no_slash },
      fun h => ⟨h.ne_empty, h.ne_dot, h.ne_dots, h.no_slash⟩⟩

namespace Path

open Text

variable {names : List String}

theorem ne_empty_of_proper (hne : names ≠ []) (h : ∀ name ∈ names, ProperName name) :
    "/".intercalate names ≠ "" := by
  intro hempty
  have hsegments := segments_intercalate hne fun name hname => (h name hname).no_slash
  rw [hempty] at hsegments
  exact (h "" (hsegments ▸ List.mem_cons_self)).ne_empty rfl

/-- The names that a relative path was made of. -/
theorem names_intercalate (h : ∀ name ∈ names, ProperName name) :
    Path.names ⟨"/".intercalate names⟩ = names := by
  by_cases hne : names = []
  · rw [hne]
    rfl
  · rw [Path.names, Path.segments,
      segments_intercalate hne fun name hname => (h name hname).no_slash, List.filter_eq_self]
    exact fun name hname => by simpa using (h name hname).ne_empty

/-- A path that is made of proper names is relative. -/
theorem isAbsolute_intercalate (h : ∀ name ∈ names, ProperName name) :
    Path.isAbsolute ⟨"/".intercalate names⟩ = false := by
  by_cases hne : names = []
  · rw [hne]
    rfl
  · rw [← Bool.not_eq_true]
    intro habsolute
    obtain ⟨others, hsegments⟩ := segments_of_isAbsolute habsolute
    rw [Path.segments, segments_intercalate hne fun name hname => (h name hname).no_slash]
      at hsegments
    exact (h "" (hsegments ▸ List.mem_cons_self)).ne_empty rfl

/-- A path that is made of proper names does not end in a slash. -/
theorem hasSuffix_slash_intercalate (h : ∀ name ∈ names, ProperName name) :
    hasSuffix "/" ("/".intercalate names) = false := by
  by_cases hne : names = []
  · rw [hne]
    rfl
  · rw [← Bool.not_eq_true]
    intro hslash
    rw [hasSuffix_slash, decide_eq_true_eq, List.getLast?_eq_some_iff] at hslash
    obtain ⟨front, hfront⟩ := hslash
    have htext : "/".intercalate names = String.ofList front ++ "/" ++ "" := by
      rw [← String.toList_inj, hfront]
      simp
    have hsegments := segments_intercalate hne fun name hname => (h name hname).no_slash
    have hempty : "" ∈ names := by
      rw [← hsegments, htext, segments_append_slash]
      exact List.mem_append_right _ (List.mem_singleton.2 rfl)
    exact (h "" hempty).ne_empty rfl

/-- A proper name is a relative path of one step. -/
theorem isAbsolute_of_proper {name : String} (h : ProperName name) :
    Path.isAbsolute ⟨name⟩ = false := by
  have habsolute := isAbsolute_intercalate (List.forall_mem_singleton.2 h)
  rwa [String.intercalate_singleton] at habsolute

theorem hasSuffix_slash_of_proper {name : String} (h : ProperName name) :
    hasSuffix "/" name = false := by
  have hslash := hasSuffix_slash_intercalate (List.forall_mem_singleton.2 h)
  rwa [String.intercalate_singleton] at hslash

/-- A path below another one does not end in a slash. -/
theorem hasSuffix_slash_inside (p : Path) (hne : names ≠ []) (h : ∀ name ∈ names, ProperName name) :
    hasSuffix "/" (p.child ("/".intercalate names)).text = false := by
  rw [child, hasSuffix_slash_join p (isAbsolute_intercalate h) (ne_empty_of_proper hne h)]
  exact hasSuffix_slash_intercalate h

theorem hasSuffix_slash_child (p : Path) {name : String} (h : ProperName name) :
    hasSuffix "/" (p.child name).text = false := by
  have hinside :=
    p.hasSuffix_slash_inside (List.cons_ne_nil name []) (List.forall_mem_singleton.2 h)
  rwa [String.intercalate_singleton] at hinside

theorem steps_of_proper {name : String} (h : ProperName name) : Path.steps ⟨name⟩ = [name] := by
  have hnames := names_intercalate (List.forall_mem_singleton.2 h)
  rw [String.intercalate_singleton] at hnames
  rw [steps, ← Path.names, hnames, hasSuffix_slash_of_proper h]
  rfl

theorem flatMap_segmentComponents (h : ∀ name ∈ names, ProperName name) :
    names.flatMap segmentComponents = names.map .name := by
  rw [List.map_eq_flatMap]
  refine List.flatMap_congr fun name hname => ?_
  have hproper := h name hname
  rw [segmentComponents, if_neg (not_or.2 ⟨hproper.ne_empty, hproper.ne_dot⟩),
    if_neg hproper.ne_dots]

/-- **The components of a path below another one.** -/
theorem components_child_intercalate (p : Path) (hne : names ≠ [])
    (h : ∀ name ∈ names, ProperName name) :
    (p.child ("/".intercalate names)).components = p.components ++ names.map .name := by
  have habsolute := isAbsolute_intercalate h
  have hsegments := segments_intercalate hne fun name hname => (h name hname).no_slash
  rw [← flatMap_segmentComponents h, child]
  by_cases hempty : p.text = ""
  · obtain ⟨first, others, rfl⟩ := List.exists_cons_of_ne_nil hne
    rw [components_eq_nil_iff.2 hempty, List.nil_append, join, if_neg (by simp [habsolute]),
      if_pos hempty, components, Path.segments, hsegments, habsolute, List.flatMap_cons]
    dsimp only
    rw [if_neg Bool.false_ne_true, if_neg (h first List.mem_cons_self).ne_dot]
  · rw [p.components_join hempty habsolute, Path.segments, hsegments]

theorem components_child (p : Path) {name : String} (h : ProperName name) :
    (p.child name).components = p.components ++ [.name name] := by
  have hcomponents :=
    p.components_child_intercalate (List.cons_ne_nil name []) (List.forall_mem_singleton.2 h)
  rwa [String.intercalate_singleton] at hcomponents

theorem components_foldl_child (h : ∀ name ∈ names, ProperName name) :
    ∀ p : Path, (names.foldl child p).components = p.components ++ names.map .name := by
  induction names with
  | nil => exact fun p => (List.append_nil _).symm
  | cons name names ih =>
    intro p
    rw [List.foldl_cons, ih fun other hother => h other (List.mem_cons_of_mem _ hother),
      p.components_child (h name List.mem_cons_self), List.append_assoc]
    rfl

end Path

namespace Files

open Text

/-! ## Trees -/

/-- A tree as file systems have them: nothing stands in the place of the root, one thing at most in
every other place, everything in a folder and under a proper name. -/
structure WellFormed (files : Files) : Prop where
  root : ∀ entry, ([], entry) ∉ files.entries
  unique : ∀ address entry other, (address, entry) ∈ files.entries →
    (address, other) ∈ files.entries → entry = other
  parent : ∀ folder name entry, (folder ++ [name], entry) ∈ files.entries →
    files.entryAt? folder = some .folder
  proper : ∀ address entry, (address, entry) ∈ files.entries → ∀ name ∈ address, ProperName name

/-- There are no symbolic links. -/
def LinkFree (files : Files) : Prop := ∀ address target, (address, .link target) ∉ files.entries

variable {files : Files}

theorem isFolder_iff {entry : Option FileEntry} :
    entry.any FileEntry.isFolder = true ↔ entry = some .folder := by
  cases entry with
  | none => simp
  | some entry => cases entry <;> simp [FileEntry.isFolder]

/-- Whether a tree is well-formed can be found out by looking at each of its places. -/
theorem wellFormed_of_forall (hnodup : (files.entries.map (·.1)).Nodup)
    (h : ∀ place ∈ files.entries, place.1 ≠ [] ∧
      (files.entryAt? place.1.dropLast).any FileEntry.isFolder = true ∧
      ∀ name ∈ place.1, ProperName name) : files.WellFormed where
  root entry hmem := (h _ hmem).1 rfl
  unique address entry other hmem hother :=
    congrArg Prod.snd (List.inj_on_of_nodup_map hnodup hmem hother rfl)
  parent folder name entry hmem := by
    have hfolder := (h _ hmem).2.1
    rwa [List.dropLast_concat, isFolder_iff] at hfolder
  proper address entry hmem := (h _ hmem).2.2

theorem linkFree_of_forall
    (h : ∀ place ∈ files.entries, (place.2.isFolder || place.2.isFile) = true) :
    files.LinkFree :=
  fun _ _ hmem => absurd (h _ hmem) Bool.false_ne_true

theorem mem_of_entryAt? {address : Address} {entry : FileEntry} (hne : address ≠ [])
    (h : files.entryAt? address = some entry) : (address, entry) ∈ files.entries := by
  rw [entryAt?, if_neg hne, Option.map_eq_some_iff] at h
  obtain ⟨⟨other, found⟩, hfind, rfl⟩ := h
  have haddress := List.find?_some hfind
  rw [decide_eq_true_eq] at haddress
  rw [← haddress]
  exact List.mem_of_find?_eq_some hfind

/-- What is enumerated at an address stands there, if nothing else is enumerated at it. -/
theorem entryAt?_of_unique {address : Address} {entry : FileEntry} (hne : address ≠ [])
    (hmem : (address, entry) ∈ files.entries)
    (hunique : ∀ other, (address, other) ∈ files.entries → other = entry) :
    files.entryAt? address = some entry := by
  have hsome : (files.entries.find? (·.1 = address)).isSome := by
    rw [List.find?_isSome]
    exact ⟨_, hmem, by simp⟩
  obtain ⟨⟨other, found⟩, hfind⟩ := Option.isSome_iff_exists.1 hsome
  have haddress := List.find?_some hfind
  rw [decide_eq_true_eq] at haddress
  obtain rfl : other = address := haddress
  rw [entryAt?, if_neg hne, hfind, ← hunique found (List.mem_of_find?_eq_some hfind)]
  rfl

/-- What is enumerated at an address is what stands there. -/
theorem WellFormed.entryAt?_eq (h : files.WellFormed) {address : Address} {entry : FileEntry}
    (hmem : (address, entry) ∈ files.entries) : files.entryAt? address = some entry := by
  refine entryAt?_of_unique ?_ hmem fun other hother => h.unique _ _ _ hother hmem
  rintro rfl
  exact h.root entry hmem

theorem LinkFree.entryAt?_ne (h : files.LinkFree) (address : Address) (target : Path) :
    files.entryAt? address ≠ some (.link target) := by
  intro hentry
  by_cases hne : address = []
  · rw [hne, entryAt?, if_pos rfl] at hentry
    cases hentry
  · exact h address target (mem_of_entryAt? hne hentry)

/-- Whatever stands below a place stands in a folder. -/
theorem WellFormed.folder_of_below (h : files.WellFormed) {address : Address}
    {names : List String} {entry : FileEntry} (hne : names ≠ [])
    (hentry : files.entryAt? (address ++ names) = some entry) :
    files.entryAt? address = some .folder := by
  induction hlength : names.length generalizing names entry with
  | zero => exact absurd (List.length_eq_zero_iff.1 hlength) hne
  | succ length ih =>
    rw [← List.dropLast_concat_getLast hne, ← List.append_assoc] at hentry
    have hfolder := h.parent _ _ _ (mem_of_entryAt? (by simp) hentry)
    by_cases hfront : names.dropLast = []
    · rwa [hfront, List.append_nil] at hfolder
    · exact ih hfront hfolder (by rw [List.length_dropLast, hlength]; rfl)

/-- What stands below a place stands there under proper names. -/
theorem WellFormed.proper_below (h : files.WellFormed) {address : Address} {names : List String}
    {entry : FileEntry} (hmem : (address ++ names, entry) ∈ files.entries) :
    ∀ name ∈ names, ProperName name :=
  fun name hname => h.proper _ _ hmem name (List.mem_append_right _ hname)

theorem WellFormed.proper_of_entryAt? (h : files.WellFormed) {address : Address}
    {names : List String} {entry : FileEntry}
    (hentry : files.entryAt? (address ++ names) = some entry) :
    ∀ name ∈ names, ProperName name := by
  intro name hname
  have hne : address ++ names ≠ [] := by
    intro hnil
    rw [(List.append_eq_nil_iff.1 hnil).2] at hname
    exact List.not_mem_nil hname
  exact h.proper_below (mem_of_entryAt? hne hentry) name hname

/-- A file with these names and this content is in a folder.  The empty path names no folder, so
nothing is in it. -/
def Holds (files : Files) (folder : Path) (names : List String) (content : Content) : Prop :=
  ∃ home executable, files.resolve? folder = some home ∧
    (home ++ names, .file content executable) ∈ files.entries

/-- What holds files is a folder. -/
theorem WellFormed.holds_iff (h : files.WellFormed) {p : Path} {names : List String}
    {content : Content} (hne : names ≠ []) :
    files.Holds p names content ↔ ∃ home executable, files.folder? p = some home ∧
      (home ++ names, .file content executable) ∈ files.entries := by
  simp only [Holds, folder?, Option.filter_eq_some_iff]
  refine exists_congr fun home => exists_congr fun executable => and_congr_left fun hmem => ?_
  have hfolder := isFolder_iff.2 (h.folder_of_below hne (h.entryAt?_eq hmem))
  exact ⟨fun hhome => ⟨hhome, hfolder⟩, And.left⟩

theorem WellFormed.holds_of_same (h : files.WellFormed) {p q : Path} (hsame : p.same q = true)
    {names : List String} {content : Content} (hne : names ≠ [])
    (hholds : files.Holds p names content) : files.Holds q names content := by
  rw [h.holds_iff hne] at hholds ⊢
  rwa [← files.folder?_of_same hsame]

/-! ## Walking -/

/-- Without links, a walk is made of the walks along its parts. -/
theorem LinkFree.walk_append (h : files.LinkFree) (links : Nat) (steps others : List String) :
    ∀ here, files.walk links here (steps ++ others)
      = (files.walk links here steps).bind fun there => files.walk links there others := by
  induction steps with
  | nil =>
    intro here
    rw [List.nil_append, walk]
    rfl
  | cons step steps ih =>
    intro here
    rw [List.cons_append, walk, walk]
    split
    · split
      · exact ih here
      · split
        · exact ih _
        · cases hentry : files.entryAt? (here ++ [step]) with
          | none => rfl
          | some entry =>
            cases entry with
            | link target => exact absurd hentry (h.entryAt?_ne _ target)
            | folder => exact ih _
            | file content executable => exact ih _
    · rfl

/-- A walk along proper names leads nowhere else. -/
theorem LinkFree.eq_of_walk (h : files.LinkFree) {links : Nat} {names : List String} :
    ∀ {here there : Address}, (∀ name ∈ names, ProperName name) →
      files.walk links here names = some there → there = here ++ names := by
  induction names with
  | nil =>
    intro here there _ hwalk
    rw [walk, Option.some_inj] at hwalk
    rw [← hwalk, List.append_nil]
  | cons name names ih =>
    intro here there hproper hwalk
    have hname := hproper name List.mem_cons_self
    have hothers : ∀ other ∈ names, ProperName other := fun other hother =>
      hproper other (List.mem_cons_of_mem _ hother)
    rw [walk] at hwalk
    split at hwalk
    · rw [if_neg hname.ne_dot, if_neg hname.ne_dots] at hwalk
      cases hentry : files.entryAt? (here ++ [name]) with
      | none => simp [hentry] at hwalk
      | some entry =>
        rw [hentry] at hwalk
        cases entry with
        | link target => exact absurd hentry (h.entryAt?_ne _ target)
        | folder => rw [ih hothers hwalk, List.append_assoc, List.singleton_append]
        | file content executable =>
          rw [ih hothers hwalk, List.append_assoc, List.singleton_append]
    · cases hwalk

/-- A walk along the names of something that exists leads there. -/
theorem walk_of_exists (hwf : files.WellFormed) (hlf : files.LinkFree) {links : Nat}
    {names : List String} :
    ∀ {here : Address} {entry : FileEntry}, files.entryAt? (here ++ names) = some entry →
      files.walk links here names = some (here ++ names) := by
  induction names with
  | nil =>
    intro here entry _
    rw [walk, List.append_nil]
  | cons name names ih =>
    intro here entry hentry
    have hname := hwf.proper_of_entryAt? hentry name List.mem_cons_self
    have hfolder := hwf.folder_of_below (List.cons_ne_nil name names) hentry
    have hrest : here ++ name :: names = here ++ [name] ++ names := by simp
    rw [hrest] at hentry ⊢
    obtain ⟨next, hnext⟩ : ∃ next, files.entryAt? (here ++ [name]) = some next := by
      by_cases hnames : names = []
      · rw [hnames, List.append_nil] at hentry
        exact ⟨entry, hentry⟩
      · exact ⟨.folder, hwf.folder_of_below hnames hentry⟩
    rw [walk, if_pos (isFolder_iff.2 hfolder), if_neg hname.ne_dot, if_neg hname.ne_dots, hnext]
    cases next with
    | link target => exact absurd hnext (hlf.entryAt?_ne _ target)
    | folder => exact ih hentry
    | file content executable => exact ih hentry

/-- A path that starts with a name that does not exist leads nowhere. -/
theorem resolve?_eq_none_of_missing {p : Path} {name : String} {steps : List String}
    (hsteps : p.steps = name :: steps) (hname : ProperName name)
    (hmissing : files.entryAt? (files.start p ++ [name]) = none) : files.resolve? p = none := by
  rw [resolve?, hsteps, walk, if_neg hname.ne_dot, if_neg hname.ne_dots, hmissing]
  rw [ite_self, ite_self]

/-- What can be read is a file. -/
theorem isFile_eq_isSome (files : Files) (p : Path) : files.isFile p = (files.read? p).isSome := by
  rw [isFile, read?]
  cases files.entry? p with
  | none => rfl
  | some entry => cases entry <;> rfl

/-! ## Leading paths -/

/-- The path leads to `home`, and from there along the given names. -/
structure Leads (files : Files) (home : Address) (p : Path) (names : List String) : Prop where
  ne_empty : p.text ≠ ""
  names : ∃ front, p.names = front ++ names ∧
    files.walk maxLinks (files.start p) front = some home

/-- A slash at the end of a path leads nowhere else. -/
theorem LinkFree.walk_names_of_resolve? (h : files.LinkFree) {p : Path} {there : Address}
    (hresolve : files.resolve? p = some there) :
    p.text ≠ "" ∧ files.walk maxLinks (files.start p) p.names = some there := by
  rw [resolve?] at hresolve
  split at hresolve
  · cases hresolve
  · rename_i hne
    refine ⟨hne, ?_⟩
    rw [Path.steps, ← Path.names, h.walk_append, Option.bind_eq_some_iff] at hresolve
    obtain ⟨place, hplace, hend⟩ := hresolve
    rw [hplace]
    split at hend
    · rw [walk] at hend
      split at hend
      · rwa [if_pos rfl, walk] at hend
      · cases hend
    · rwa [walk] at hend

theorem LinkFree.resolve?_of_walk_names (h : files.LinkFree) {p : Path} {there : Address}
    (hne : p.text ≠ "") (hwalk : files.walk maxLinks (files.start p) p.names = some there)
    (hend : hasSuffix "/" p.text = true → files.entryAt? there = some .folder) :
    files.resolve? p = some there := by
  rw [resolve?, if_neg hne, Path.steps, ← Path.names, h.walk_append, hwalk, Option.bind_some]
  split
  · rename_i hslash
    rw [walk, if_pos (isFolder_iff.2 (hend hslash)), if_pos rfl, walk]
  · rw [walk]

/-- A relative path along the names of something that exists leads there. -/
theorem resolve?_intercalate (hwf : files.WellFormed) (hlf : files.LinkFree) {names : List String}
    (hne : names ≠ []) {entry : FileEntry}
    (hentry : files.entryAt? (files.workingFolder ++ names) = some entry) :
    files.resolve? ⟨"/".intercalate names⟩ = some (files.workingFolder ++ names) := by
  have hproper := hwf.proper_of_entryAt? hentry
  refine hlf.resolve?_of_walk_names (Path.ne_empty_of_proper hne hproper) ?_ fun hslash => ?_
  · rw [start, Path.isAbsolute_intercalate hproper, Path.names_intercalate hproper]
    exact walk_of_exists hwf hlf hentry
  · rw [Path.hasSuffix_slash_intercalate hproper] at hslash
    cases hslash

theorem entry?_intercalate (hwf : files.WellFormed) (hlf : files.LinkFree) {names : List String}
    (hne : names ≠ []) {entry : FileEntry}
    (hentry : files.entryAt? (files.workingFolder ++ names) = some entry) :
    files.entry? ⟨"/".intercalate names⟩ = some entry := by
  rw [ entry?, resolve?_intercalate hwf hlf hne hentry, Option.bind_some, hentry]

theorem read?_intercalate (hwf : files.WellFormed) (hlf : files.LinkFree) {names : List String}
    (hne : names ≠ []) {content : Content} {executable : Bool}
    (hentry : files.entryAt? (files.workingFolder ++ names) = some (.file content executable)) :
    files.read? ⟨"/".intercalate names⟩ = some content := by
  rw [read?, entry?_intercalate hwf hlf hne hentry]

theorem isFile_intercalate (hwf : files.WellFormed) (hlf : files.LinkFree) {names : List String}
    (hne : names ≠ []) {content : Content} {executable : Bool}
    (hentry : files.entryAt? (files.workingFolder ++ names) = some (.file content executable)) :
    files.isFile ⟨"/".intercalate names⟩ = true := by
  rw [isFile, entry?_intercalate hwf hlf hne hentry]
  rfl

/-- What is below a path is below the folder that the path names. -/
theorem LinkFree.resolve?_join (h : files.LinkFree) {p x : Path} (hp : p.text ≠ "")
    (habsolute : x.isAbsolute = false) (hx : x.text ≠ "") (hsteps : x.steps ≠ []) :
    files.resolve? (p.join x)
      = (files.folder? p).bind fun home => files.walk maxLinks home x.steps := by
  obtain ⟨step, steps, hx'⟩ := List.exists_cons_of_ne_nil hsteps
  have hdot : ∀ links here, files.walk links here (step :: steps)
      = files.walk links here ("." :: step :: steps) := fun links here =>
    (files.walk_dot_cons links here step steps).symm
  rw [resolve?, if_neg (p.text_join_ne_empty habsolute (.inl hp)), p.steps_join x habsolute hx, hx',
    files.walk_append_congr hdot, List.append_cons, h.walk_append, start,
    p.isAbsolute_join x habsolute, ← start, ← files.folder?_eq_walk hp]

/-- A path leads to what it names. -/
theorem LinkFree.leads (h : files.LinkFree) {p : Path} {home : Address}
    (hresolve : files.resolve? p = some home) : files.Leads home p [] := by
  obtain ⟨hne, hwalk⟩ := h.walk_names_of_resolve? hresolve
  exact ⟨hne, p.names, (List.append_nil _).symm, hwalk⟩

/-- A single name leads to what stands under it in the working folder. -/
theorem leads_name (hwf : files.WellFormed) (hlf : files.LinkFree) {name : String}
    {entry : FileEntry} (hentry : files.entryAt? (files.workingFolder ++ [name]) = some entry) :
    files.Leads (files.workingFolder ++ [name]) ⟨name⟩ [] := by
  have hresolve := resolve?_intercalate hwf hlf (List.cons_ne_nil name []) hentry
  rw [String.intercalate_singleton] at hresolve
  exact hlf.leads hresolve

/-- A name leads on from the working folder, also if nothing stands under it. -/
theorem leads_ofName {name : String} (hname : ProperName name) :
    files.Leads files.workingFolder ⟨name⟩ [name] := by
  have hnames := Path.names_intercalate (List.forall_mem_singleton.2 hname)
  rw [String.intercalate_singleton] at hnames
  refine ⟨hname.ne_empty, [], hnames, ?_⟩
  rw [start, Path.isAbsolute_of_proper hname, walk]
  rfl

theorem Leads.join {home : Address} {p : Path} {names : List String}
    (h : files.Leads home p names) {q : Path} (habsolute : q.isAbsolute = false) :
    files.Leads home (p.join q) (names ++ q.names) := by
  obtain ⟨front, hnames, hwalk⟩ := h.names
  refine ⟨p.text_join_ne_empty habsolute (.inl h.ne_empty), front, ?_, ?_⟩
  · rw [Path.names_join p q habsolute, hnames, List.append_assoc]
  · rwa [start, Path.isAbsolute_join p q habsolute]

/-- A path along names below another one. -/
theorem Leads.inside {home : Address} {p : Path} {names inner : List String}
    (h : files.Leads home p names) (hinner : ∀ name ∈ inner, ProperName name) :
    files.Leads home (p.child ("/".intercalate inner)) (names ++ inner) := by
  have hjoin := h.join (Path.isAbsolute_intercalate hinner)
  rwa [Path.names_intercalate hinner] at hjoin

theorem Leads.child {home : Address} {p : Path} {names : List String} {name : String}
    (h : files.Leads home p names) (hname : ProperName name) :
    files.Leads home (p.child name) (names ++ [name]) := by
  have hinside := h.inside (List.forall_mem_singleton.2 hname)
  rwa [String.intercalate_singleton] at hinside

section

variable {home : Address} {p : Path} {names : List String}

theorem Leads.eq_of_resolve? (hlf : files.LinkFree) (h : files.Leads home p names)
    (hproper : ∀ name ∈ names, ProperName name) {there : Address}
    (hresolve : files.resolve? p = some there) : there = home ++ names := by
  obtain ⟨front, hnames, hfront⟩ := h.names
  obtain ⟨-, hwalk⟩ := hlf.walk_names_of_resolve? hresolve
  rw [hnames, hlf.walk_append, hfront] at hwalk
  exact hlf.eq_of_walk hproper hwalk

/-- Nothing is found where nothing stands. -/
theorem Leads.entry?_eq_none (hlf : files.LinkFree) (h : files.Leads home p names)
    (hproper : ∀ name ∈ names, ProperName name) (hmissing : files.entryAt? (home ++ names) = none) :
    files.entry? p = none := by
  rw [ entry?]
  cases hresolve : files.resolve? p with
  | none => rfl
  | some there => rw [Option.bind_some, h.eq_of_resolve? hlf hproper hresolve, hmissing]

theorem Leads.resolve?_eq (hwf : files.WellFormed) (hlf : files.LinkFree)
    (h : files.Leads home p names) {entry : FileEntry}
    (hentry : files.entryAt? (home ++ names) = some entry)
    (hend : hasSuffix "/" p.text = true → entry = .folder) :
    files.resolve? p = some (home ++ names) := by
  obtain ⟨front, hnames, hfront⟩ := h.names
  refine hlf.resolve?_of_walk_names h.ne_empty ?_ fun hslash => by rw [hentry, hend hslash]
  rw [hnames, hlf.walk_append, hfront]
  exact walk_of_exists hwf hlf hentry

/-- **What a path lists.** -/
theorem Leads.list?_iff (hwf : files.WellFormed) (hlf : files.LinkFree)
    (h : files.Leads home p names) (hproper : ∀ name ∈ names, ProperName name)
    {members : List (String × FileEntry)} :
    files.list? p = some members ↔
      files.entryAt? (home ++ names) = some .folder ∧
        members = files.childrenAt (home ++ names) := by
  constructor
  · intro hlist
    rw [list?] at hlist
    cases hresolve : files.resolve? p with
    | none => simp [hresolve] at hlist
    | some there =>
      obtain rfl := h.eq_of_resolve? hlf hproper hresolve
      simp only [hresolve] at hlist
      split at hlist
      · rename_i hfolder
        exact ⟨isFolder_iff.1 hfolder, (Option.some_inj.1 hlist).symm⟩
      · cases hlist
  · rintro ⟨hfolder, rfl⟩
    rw [list?, h.resolve?_eq hwf hlf hfolder fun _ => rfl]
    exact if_pos (isFolder_iff.2 hfolder)

/-- What stands directly in a folder that is given by its name, the path of which may go on with an
empty name. -/
theorem list?_child_empty (hwf : files.WellFormed) (hlf : files.LinkFree) {name : String}
    (hname : ProperName name) :
    files.list? ((⟨name⟩ : Path).child "")
      = if (files.entryAt? (files.workingFolder ++ [name])).any FileEntry.isFolder then
          some (files.childrenAt (files.workingFolder ++ [name]))
        else none := by
  have hname' : files.Leads files.workingFolder ⟨name⟩ [name] := leads_ofName hname
  have hleads := hname'.inside (List.forall_mem_nil ProperName)
  rw [List.append_nil] at hleads
  have hlist : ∀ members, files.list? ((⟨name⟩ : Path).child "") = some members ↔ _ := fun _ =>
    hleads.list?_iff hwf hlf (List.forall_mem_singleton.2 hname)
  split
  · rename_i hfolder
    exact (hlist _).2 ⟨isFolder_iff.1 hfolder, rfl⟩
  · rename_i hfolder
    exact Option.eq_none_iff_forall_ne_some.2 fun members hmembers =>
      hfolder (isFolder_iff.2 ((hlist members).1 hmembers).1)

/-- **What a path reads.** -/
theorem Leads.read?_iff (hwf : files.WellFormed) (hlf : files.LinkFree)
    (h : files.Leads home p names) (hproper : ∀ name ∈ names, ProperName name)
    (hend : hasSuffix "/" p.text = false) {content : Content} :
    files.read? p = some content ↔
      ∃ executable, files.entryAt? (home ++ names) = some (.file content executable) := by
  constructor
  · intro hread
    rw [read?, entry?] at hread
    cases hresolve : files.resolve? p with
    | none => simp [hresolve] at hread
    | some there =>
      obtain rfl := h.eq_of_resolve? hlf hproper hresolve
      rw [hresolve, Option.bind_some] at hread
      split at hread
      · rename_i found executable hentry
        rw [← Option.some_inj.1 hread]
        exact ⟨executable, hentry⟩
      · cases hread
  · rintro ⟨executable, hentry⟩
    rw [read?, entry?, h.resolve?_eq hwf hlf hentry fun hslash => by simp [hend] at hslash,
      Option.bind_some, hentry]

/-- What is read along the names of something below a path. -/
theorem Leads.read?_inside_iff (hwf : files.WellFormed) (hlf : files.LinkFree)
    (h : files.Leads home p names) {inner : List String} (hne : inner ≠ [])
    (hproper : ∀ name ∈ names ++ inner, ProperName name) {content : Content} :
    files.read? (p.child ("/".intercalate inner)) = some content ↔
      ∃ executable, (home ++ names ++ inner, .file content executable) ∈ files.entries := by
  have hinner : ∀ name ∈ inner, ProperName name := fun name hname =>
    hproper name (List.mem_append_right _ hname)
  rw [(h.inside hinner).read?_iff hwf hlf hproper (p.hasSuffix_slash_inside hne hinner),
    ← List.append_assoc]
  refine exists_congr fun executable => ⟨mem_of_entryAt? (by simp [hne]), hwf.entryAt?_eq⟩

theorem childName?_eq_some_iff {folder address : Address} {name : String} :
    childName? folder address = some name ↔ folder ++ [name] = address := by
  rw [← List.isPrefixOf?_eq_some_iff_append_eq, childName?]
  split
  · rename_i h
    rw [h]
    simp
  · rename_i h
    exact ⟨fun hnone => absurd hnone (by simp), fun hsome => absurd hsome (h name)⟩

/-- The children of a folder are what is enumerated one name further. -/
theorem mem_childrenAt {folder : Address} {name : String} {entry : FileEntry} :
    (name, entry) ∈ files.childrenAt folder ↔ (folder ++ [name], entry) ∈ files.entries := by
  rw [childrenAt, List.mem_filterMap]
  constructor
  · rintro ⟨⟨address, found⟩, hmem, hfound⟩
    obtain ⟨other, hother, heq⟩ := Option.map_eq_some_iff.1 hfound
    obtain ⟨rfl, rfl⟩ := Prod.mk.inj heq
    rwa [childName?_eq_some_iff.1 hother]
  · intro hmem
    exact ⟨_, hmem, Option.map_eq_some_iff.2 ⟨name, childName?_eq_some_iff.2 rfl, rfl⟩⟩

/-- What is enumerated below a folder, with the names that lead there. -/
theorem mem_belowAt {folder : Address} {inner : List String} {entry : FileEntry} :
    (inner, entry) ∈ files.belowAt folder ↔
      inner ≠ [] ∧ (folder ++ inner, entry) ∈ files.entries := by
  rw [belowAt, List.mem_filterMap]
  constructor
  · rintro ⟨⟨address, found⟩, hmem, hfound⟩
    dsimp only at hfound
    split at hfound
    · rename_i name names hprefix
      obtain ⟨rfl, rfl⟩ := Prod.mk.inj (Option.some_inj.1 hfound)
      rw [List.append_eq_of_isPrefixOf?_eq_some hprefix]
      exact ⟨List.cons_ne_nil name names, hmem⟩
    · cases hfound
  · rintro ⟨hne, hmem⟩
    obtain ⟨name, names, rfl⟩ := List.exists_cons_of_ne_nil hne
    refine ⟨_, hmem, ?_⟩
    dsimp only
    rw [List.isPrefixOf?_eq_some_iff_append_eq.2 rfl]

theorem Leads.below_eq (hwf : files.WellFormed) (hlf : files.LinkFree)
    (h : files.Leads home p names) (hfolder : files.entryAt? (home ++ names) = some .folder) :
    files.below p = files.belowAt (home ++ names) := by
  rw [below, h.resolve?_eq hwf hlf hfolder fun _ => rfl]
  exact if_pos (isFolder_iff.2 hfolder)

/-- **What is found anywhere below a path.** -/
theorem Leads.mem_below_iff (hwf : files.WellFormed) (hlf : files.LinkFree)
    (h : files.Leads home p names) (hproper : ∀ name ∈ names, ProperName name)
    {inner : List String} {entry : FileEntry} :
    (inner, entry) ∈ files.below p ↔
      inner ≠ [] ∧ (home ++ names ++ inner, entry) ∈ files.entries := by
  constructor
  · intro hmem
    rw [below] at hmem
    cases hresolve : files.resolve? p with
    | none => simp [hresolve] at hmem
    | some there =>
      obtain rfl := h.eq_of_resolve? hlf hproper hresolve
      simp only [hresolve] at hmem
      split at hmem
      · exact mem_belowAt.1 hmem
      · exact absurd hmem List.not_mem_nil
  · rintro ⟨hne, hmem⟩
    rw [h.below_eq hwf hlf (hwf.folder_of_below hne (hwf.entryAt?_eq hmem)), mem_belowAt]
    exact ⟨hne, hmem⟩

/-- A path that is made by following names one after the other. -/
theorem Leads.foldl_child {inner : List String} :
    ∀ {p : Path} {names : List String}, files.Leads home p names →
      (∀ name ∈ inner, ProperName name) →
        files.Leads home (inner.foldl Path.child p) (names ++ inner) := by
  induction inner with
  | nil =>
    intro p names h _
    rwa [List.append_nil]
  | cons name inner ih =>
    intro p names h hproper
    have hnext := ih (h.child (hproper name List.mem_cons_self)) fun other hother =>
      hproper other (List.mem_cons_of_mem _ hother)
    rwa [List.append_assoc, List.singleton_append] at hnext

/-- Following the names of a file leads to its content. -/
theorem Leads.read?_foldl_child (hwf : files.WellFormed) (hlf : files.LinkFree)
    (h : files.Leads home p names) {inner : List String} (hinner : inner ≠ [])
    {content : Content} {executable : Bool}
    (hmem : (home ++ names ++ inner, .file content executable) ∈ files.entries) :
    files.read? (inner.foldl Path.child p) = some content := by
  rw [List.append_assoc] at hmem
  have hbelow := hwf.proper_below hmem
  have hfollow := h.foldl_child fun name hname => hbelow name (List.mem_append_right _ hname)
  refine (hfollow.read?_iff hwf hlf hbelow ?_).2 ⟨executable, ?_⟩
  · -- the path ends in its last name
    have hlast := hbelow _ (List.mem_append_right _ (List.getLast_mem hinner))
    rw [← List.dropLast_concat_getLast hinner, List.foldl_append, List.foldl_cons, List.foldl_nil]
    exact Path.hasSuffix_slash_child _ hlast
  · exact hwf.entryAt?_eq hmem

end

/-! ## What stands in a folder is found under its name -/

/-- A walk goes on from where it has led, with the links that are left to it. -/
theorem exists_walk_append {links : Nat} {here there : Address} {steps : List String}
    (h : files.walk links here steps = some there) :
    ∃ left, ∀ others, files.walk links here (steps ++ others) = files.walk left there others := by
  induction links, here, steps using walk.induct files with
  | case1 links here =>
    rw [walk, Option.some_inj] at h
    subst h
    exact ⟨links, fun _ => rfl⟩
  | case2 links here steps hfolder ih =>
    rw [walk, if_pos hfolder, if_pos rfl] at h
    simpa [walk, hfolder] using ih h
  | case3 links here steps hfolder hdot ih =>
    rw [walk, if_pos hfolder, if_neg hdot, if_pos rfl] at h
    simpa [walk, hfolder] using ih h
  | case4 links here step steps hfolder hdot hparent hnone =>
    simp [walk, hfolder, hdot, hparent, hnone] at h
  | case5 here step steps hfolder hdot hparent target hnext =>
    simp [walk, hfolder, hdot, hparent, hnext] at h
  | case6 here step steps hfolder hdot hparent target hnext links ih =>
    rw [walk, if_pos hfolder, if_neg hdot, if_neg hparent, hnext] at h
    simpa [walk, hfolder, hdot, hparent, hnext] using ih h
  | case7 links here step steps hfolder hdot hparent next hnolink hnext ih =>
    rw [walk, if_pos hfolder, if_neg hdot, if_neg hparent, hnext] at h
    cases next with
    | link target => exact absurd rfl (hnolink target)
    | folder => simpa [walk, hfolder, hdot, hparent, hnext] using ih h
    | file content executable => simpa [walk, hfolder, hdot, hparent, hnext] using ih h
  | case8 links here step steps hfolder =>
    simp [walk, hfolder] at h

/-- A walk to a folder goes on to what stands in it, if that is no link. -/
theorem walk_concat {there : Address} {name : String} {entry : FileEntry}
    (hname : ProperName name) (hthere : files.entryAt? there = some .folder)
    (hentry : files.entryAt? (there ++ [name]) = some entry)
    (hlink : ∀ target, entry ≠ .link target) (links : Nat) (here : Address) (steps : List String)
    (h : files.walk links here steps = some there) :
    files.walk links here (steps ++ [name]) = some (there ++ [name]) := by
  obtain ⟨left, hleft⟩ := exists_walk_append h
  rw [hleft, walk, if_pos (isFolder_iff.2 hthere), if_neg hname.ne_dot, if_neg hname.ne_dots,
    hentry]
  cases entry with
  | link target => exact absurd rfl (hlink target)
  | folder => rw [walk]
  | file content executable => rw [walk]

/-- **What a folder lists is found under its name**, except for links. -/
theorem entry?_of_mem_list? (hwf : files.WellFormed) {folder path : Path} {name : String}
    {entry : FileEntry} {children : List (String × FileEntry)}
    (hlist : files.list? folder = some children) (hmem : (name, entry) ∈ children)
    (hlink : ∀ target, entry ≠ .link target) (hnames : path.names = folder.names ++ [name])
    (habsolute : path.isAbsolute = folder.isAbsolute) (hend : hasSuffix "/" path.text = false) :
    files.entry? path = some entry := by
  rw [list?_eq_folder?, Option.map_eq_some_iff] at hlist
  obtain ⟨there, hfolder, rfl⟩ := hlist
  have hentry := hwf.entryAt?_eq (mem_childrenAt.1 hmem)
  have hname := hwf.proper_of_entryAt? hentry name List.mem_cons_self
  have hne : folder.text ≠ "" := by
    intro hempty
    rw [folder?, resolve?, if_pos hempty] at hfolder
    cases hfolder
  have hpath : path.text ≠ "" := by
    intro hempty
    rw [Path.names, Path.segments, hempty] at hnames
    simp [Text.segments, segmentsAt] at hnames
  rw [files.folder?_eq_walk hne, walk_concat_dot, Option.filter_eq_some_iff] at hfolder
  obtain ⟨hwalk, hthere⟩ := hfolder
  have hgoes := walk_concat hname (isFolder_iff.1 hthere) hentry hlink _ _ _ hwalk
  rw [ entry?, resolve?, if_neg hpath, Path.steps, ← Path.names, hend, if_neg Bool.false_ne_true,
    List.append_nil, hnames, start, habsolute, ← start, hgoes, Option.bind_some, hentry]

/-! ## What is found has a proper name -/

theorem WellFormed.proper_of_mem_list? (h : files.WellFormed) {path : Path} {name : String}
    {entry : FileEntry} (hmem : (name, entry) ∈ (files.list? path).getD []) : ProperName name := by
  rw [list?] at hmem
  cases hresolve : files.resolve? path with
  | none => simp [hresolve] at hmem
  | some address =>
    rw [hresolve] at hmem
    dsimp only at hmem
    split at hmem
    · exact h.proper_below (mem_childrenAt.1 hmem) name List.mem_cons_self
    · exact absurd hmem List.not_mem_nil

theorem WellFormed.proper_of_mem_below (h : files.WellFormed) {path : Path} {names : List String}
    {entry : FileEntry} (hmem : (names, entry) ∈ files.below path) :
    ∀ name ∈ names, ProperName name := by
  rw [below] at hmem
  cases hresolve : files.resolve? path with
  | none => simp [hresolve] at hmem
  | some address =>
    rw [hresolve] at hmem
    dsimp only at hmem
    split at hmem
    · exact h.proper_below (mem_belowAt.1 hmem).2
    · exact absurd hmem List.not_mem_nil

end Files

end MultiRelease
