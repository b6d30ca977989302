import MultiRelease.Proofs.Files.Order
import MultiRelease.Proofs.Files.Outline

/-!
# The order of enumeration

A file system enumerates a folder in any order that it likes.  Two states of a tree that differ in
nothing else are the `Files.SameTree`.  In a well-formed tree the order does not matter for what
stands at an address (`Files.SameTree.entryAt?_eq`), since only one thing is enumerated there.  So
it does not matter for what a path leads to (`Files.SameTree.resolve?_eq`) and what is read there
(`Files.SameTree.read?_foldl_child`).  What is found in a folder is found in some order, but it is
the same (`Files.SameTree.mem_list?`, `Files.SameTree.mem_below`), also if the folder is spelled
differently.

Everything is enumerated once (`Files.ListedOnce`), and so what is found in a folder has different
names (`Files.ListedOnce.pairwise_list?`, `Files.ListedOnce.pairwise_below`).  A well-formed tree
need not be of this kind, as it may enumerate one and the same file twice.  This is why statements
that count findings ask for it on its own.
-/

set_option autoImplicit false

namespace MultiRelease.Files

/-- The same tree, enumerated in another order. -/
structure SameTree (files other : Files) : Prop where
  entries : files.entries.Perm other.entries
  workingFolder : files.workingFolder = other.workingFolder

variable {files other : Files}

namespace SameTree

theorem refl (files : Files) : files.SameTree files := ⟨.refl _, rfl⟩

theorem symm (h : files.SameTree other) : other.SameTree files :=
  ⟨h.entries.symm, h.workingFolder.symm⟩

theorem entryAt?_eq (h : files.SameTree other) (hwf : files.WellFormed) (address : Address) :
    files.entryAt? address = other.entryAt? address := by
  by_cases hne : address = []
  · rw [entryAt?, entryAt?, if_pos hne, if_pos hne]
  · have hmem : ∀ {entry}, (address, entry) ∈ files.entries ↔ (address, entry) ∈ other.entries :=
      h.entries.mem_iff
    cases hentry : other.entryAt? address with
    | some entry => exact hwf.entryAt?_eq (hmem.2 (mem_of_entryAt? hne hentry))
    | none =>
      cases hfiles : files.entryAt? address with
      | none => rfl
      | some entry =>
        have hfound := mem_of_entryAt? hne hfiles
        rw [entryAt?_of_unique hne (hmem.1 hfound) fun found hother =>
          hwf.unique _ _ _ (hmem.2 hother) hfound] at hentry
        cases hentry

theorem wellFormed (h : files.SameTree other) (hwf : files.WellFormed) : other.WellFormed where
  root entry hmem := hwf.root entry (h.entries.mem_iff.2 hmem)
  unique address entry found hmem hfound :=
    hwf.unique address entry found (h.entries.mem_iff.2 hmem) (h.entries.mem_iff.2 hfound)
  parent folder name entry hmem := by
    rw [← h.entryAt?_eq hwf]
    exact hwf.parent folder name entry (h.entries.mem_iff.2 hmem)
  proper address entry hmem := hwf.proper address entry (h.entries.mem_iff.2 hmem)

theorem resolve?_eq (h : files.SameTree other) (hwf : files.WellFormed) (p : Path) :
    files.resolve? p = other.resolve? p := by
  refine resolve?_congr (fun address => ?_) h.workingFolder p
  rw [entryAt?_outline, entryAt?_outline, h.entryAt?_eq hwf]

theorem entry?_eq (h : files.SameTree other) (hwf : files.WellFormed) (p : Path) :
    files.entry? p = other.entry? p := by
  rw [ entry?, entry?, h.resolve?_eq hwf, funext (h.entryAt?_eq hwf)]

theorem isFile_eq (h : files.SameTree other) (hwf : files.WellFormed) (p : Path) :
    files.isFile p = other.isFile p := by
  rw [isFile, isFile, h.entry?_eq hwf]

theorem folder?_eq (h : files.SameTree other) (hwf : files.WellFormed) (p : Path) :
    files.folder? p = other.folder? p := by
  rw [folder?, folder?, h.resolve?_eq hwf, funext (h.entryAt?_eq hwf)]

/-- What is found in a folder, however the folder is spelled. -/
theorem mem_list? (h : files.SameTree other) (hwf : files.WellFormed) {p q : Path}
    (hsame : p.same q = true) {name : String} {entry : FileEntry}
    (hmem : (name, entry) ∈ (files.list? p).getD []) : (name, entry) ∈ (other.list? q).getD [] := by
  rw [list?_eq_folder?, files.folder?_of_same hsame, h.folder?_eq hwf] at hmem
  rw [list?_eq_folder?]
  cases hfolder : other.folder? q with
  | none => simp [hfolder] at hmem
  | some home =>
    rw [hfolder, Option.map_some, Option.getD_some, mem_childrenAt] at hmem
    rw [Option.map_some, Option.getD_some, mem_childrenAt]
    exact h.entries.mem_iff.1 hmem

theorem mem_below (h : files.SameTree other) (hwf : files.WellFormed) {p q : Path}
    (hsame : p.same q = true) {names : List String} {entry : FileEntry}
    (hmem : (names, entry) ∈ files.below p) : (names, entry) ∈ other.below q := by
  rw [below_eq_folder?, files.folder?_of_same hsame, h.folder?_eq hwf] at hmem
  rw [below_eq_folder?]
  cases hfolder : other.folder? q with
  | none => simp [hfolder] at hmem
  | some home =>
    rw [hfolder, Option.elim_some, mem_belowAt] at hmem
    rw [Option.elim_some, mem_belowAt]
    exact ⟨hmem.1, h.entries.mem_iff.1 hmem.2⟩

/-- **What is read below a folder**, however the folder is spelled. -/
theorem read?_foldl_child (h : files.SameTree other) (hwf : files.WellFormed) {p q : Path}
    (hsame : p.same q = true) {names : List String} (hne : names ≠ [])
    (hproper : ∀ name ∈ names, ProperName name) :
    files.read? (names.foldl Path.child p) = other.read? (names.foldl Path.child q) := by
  have hlast := hproper _ (List.getLast_mem hne)
  have hfront : (names.dropLast.foldl Path.child p).same (names.dropLast.foldl Path.child q)
      = true := by
    have hnames := fun name hname => hproper name (List.mem_of_mem_dropLast hname)
    rw [Path.same_iff, Path.components_foldl_child hnames, Path.components_foldl_child hnames,
      Path.same_iff.1 hsame]
  have hsteps : Path.steps ⟨names.getLast hne⟩ ≠ [] := by
    rw [Path.steps_of_proper hlast]
    exact List.cons_ne_nil _ _
  rw [← List.dropLast_concat_getLast hne, List.foldl_append, List.foldl_append, List.foldl_cons,
    List.foldl_nil, List.foldl_cons, List.foldl_nil, read?, read?, entry?, entry?, Path.child,
    Path.child, files.resolve?_join_of_same hfront (Path.isAbsolute_of_proper hlast) hlast.ne_empty
      hsteps, h.resolve?_eq hwf, funext (h.entryAt?_eq hwf)]

end SameTree

/-! ## Enumerating once -/

/-- Everything is enumerated once. -/
def ListedOnce (files : Files) : Prop := (files.entries.map (·.1)).Nodup

theorem ListedOnce.pairwise (h : files.ListedOnce) :
    files.entries.Pairwise fun a b => a.1 ≠ b.1 :=
  List.pairwise_map.1 h

/-- What stands in a folder has different names. -/
theorem ListedOnce.pairwise_childrenAt (h : files.ListedOnce) (folder : Address) :
    (files.childrenAt folder).Pairwise fun a b => a.1 ≠ b.1 := by
  refine List.pairwise_filterMap.2 (h.pairwise.imp fun {a b} hab first hfirst second hsecond => ?_)
  obtain ⟨name, hname, rfl⟩ := Option.map_eq_some_iff.1 hfirst
  obtain ⟨other, hother, rfl⟩ := Option.map_eq_some_iff.1 hsecond
  rintro rfl
  exact hab ((childName?_eq_some_iff.1 hname).symm.trans (childName?_eq_some_iff.1 hother))

theorem ListedOnce.pairwise_list? (h : files.ListedOnce) (path : Path) :
    ((files.list? path).getD []).Pairwise fun a b => a.1 ≠ b.1 := by
  rw [list?]
  cases files.resolve? path with
  | none => exact .nil
  | some address =>
    dsimp only
    split
    · exact h.pairwise_childrenAt address
    · exact .nil

/-- What stands below a folder has different names on the way. -/
theorem ListedOnce.pairwise_below (h : files.ListedOnce) (path : Path) :
    (files.below path).Pairwise fun a b => a.1 ≠ b.1 := by
  rw [below]
  cases files.resolve? path with
  | none => exact .nil
  | some address =>
    dsimp only
    split
    · refine List.pairwise_filterMap.2 (h.pairwise.imp fun hab first hfirst second hsecond heq => ?_)
      dsimp only at hfirst hsecond
      split at hfirst
      · rename_i hprefix
        split at hsecond
        · rename_i hotherPrefix
          cases hfirst
          cases hsecond
          refine hab ?_
          obtain ⟨rfl, rfl⟩ := List.cons.inj heq
          exact (List.append_eq_of_isPrefixOf?_eq_some hprefix).symm.trans
            (List.append_eq_of_isPrefixOf?_eq_some hotherPrefix)
        · cases hsecond
      · cases hfirst
    · exact .nil

end MultiRelease.Files
