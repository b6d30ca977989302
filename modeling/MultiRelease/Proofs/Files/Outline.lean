import MultiRelease.Location.Listing
import MultiRelease.Proofs.Files.Tree

/-!
# The outline of a tree

Where a path leads and which names a folder lists has nothing to do with what the files hold.  It
depends on the *outline* of the tree alone, in which all files are empty (`Files.outline`).

* `Files.resolve?_of_outline`: trees with one outline have the same paths lead to the same places.
  The induction is on the walk, which asks at every step whether a folder or a link stands there,
  and never for contents (`Files.walk_congr`).
* `Files.members?_of_outline` and `Files.holdsAnything_of_outline`: a folder has the same members.
* `Files.outline_putAt`: writing over a file leaves the outline as it is.  It needs that nothing
  else stands at the address, for otherwise the file that is written over is not the only one.
* `Files.read?_putAt`: so all that changes is what is read through the paths that lead to the file,
  and through these the new content is read.

Together they say what the locations of a classpath can notice when a compiler writes a class file
that was there before: nothing, unless they read this very file.
-/

set_option autoImplicit false

namespace MultiRelease

/-- What stands at a place, apart from what it holds. -/
def FileEntry.outline : FileEntry → FileEntry
  | .file _ _ => .file (.ofBytes []) false
  | entry => entry

@[simp] theorem FileEntry.isFolder_outline (entry : FileEntry) :
    entry.outline.isFolder = entry.isFolder := by
  cases entry <;> rfl

@[simp] theorem FileEntry.isFile_outline (entry : FileEntry) :
    entry.outline.isFile = entry.isFile := by
  cases entry <;> rfl

theorem FileEntry.outline_eq_link_iff {entry : FileEntry} {target : Path} :
    entry.outline = .link target ↔ entry = .link target := by
  cases entry <;> simp [outline]

namespace Files

/-- The tree without the contents of its files. -/
def outline (files : Files) : Files where
  entries := files.entries.map fun (address, entry) => (address, entry.outline)
  workingFolder := files.workingFolder

variable {files other : Files}

theorem entryAt?_outline (files : Files) (address : Address) :
    files.outline.entryAt? address = (files.entryAt? address).map FileEntry.outline := by
  rw [entryAt?, entryAt?]
  split
  · rfl
  · rw [outline, List.find?_map, Option.map_map, Option.map_map]
    rfl

/-! ## What the outline decides -/

/-- **Where a walk leads depends on the outline of what stands at each address.** -/
theorem walk_congr
    (h : ∀ address, files.outline.entryAt? address = other.outline.entryAt? address) (links : Nat)
    (here : Address) (steps : List String) :
    files.walk links here steps = other.walk links here steps := by
  have hfolders : ∀ address, (files.entryAt? address).any FileEntry.isFolder
      = (other.entryAt? address).any FileEntry.isFolder := by
    intro address
    have houtline := congrArg (Option.any FileEntry.isFolder) (h address)
    simpa [entryAt?_outline, Option.any_map, Function.comp_def] using houtline
  have hentries : ∀ address, (files.entryAt? address).map FileEntry.outline
      = (other.entryAt? address).map FileEntry.outline := by
    intro address
    rw [← entryAt?_outline, ← entryAt?_outline, h]
  have hlinks : ∀ {address target}, files.entryAt? address = some (.link target) →
      other.entryAt? address = some (.link target) := by
    intro address target hentry
    have houtline := (hentries address).symm
    rw [hentry] at houtline
    obtain ⟨entry, hother, hlink⟩ := Option.map_eq_some_iff.1 houtline
    rw [hother, FileEntry.outline_eq_link_iff.1 hlink]
  induction links, here, steps using walk.induct files with
  | case1 links here => rw [walk, walk]
  | case2 links here steps hfolder ih =>
    rw [walk, walk, ← hfolders, if_pos hfolder, if_pos hfolder, if_pos rfl, if_pos rfl, ih]
  | case3 links here steps hfolder hdot ih =>
    rw [walk, walk, ← hfolders, if_pos hfolder, if_pos hfolder, if_neg hdot, if_neg hdot,
      if_pos rfl, if_pos rfl, ih]
  | case4 links here step steps hfolder hdot hparent hentry =>
    have hother : other.entryAt? (here ++ [step]) = none := by
      simpa [hentry] using (hentries (here ++ [step])).symm
    rw [walk, walk, ← hfolders, if_pos hfolder, if_pos hfolder, if_neg hdot, if_neg hdot,
      if_neg hparent, if_neg hparent, hentry, hother]
  | case5 here step steps hfolder hdot hparent target hentry =>
    rw [walk, walk, ← hfolders, if_pos hfolder, if_pos hfolder, if_neg hdot, if_neg hdot,
      if_neg hparent, if_neg hparent, hentry, hlinks hentry]
  | case6 here step steps hfolder hdot hparent target hentry links ih =>
    rw [walk, walk, ← hfolders, if_pos hfolder, if_pos hfolder, if_neg hdot, if_neg hdot,
      if_neg hparent, if_neg hparent, hentry, hlinks hentry]
    exact ih
  | case7 links here step steps hfolder hdot hparent entry hlink hentry ih =>
    have houtline := (hentries (here ++ [step])).symm
    rw [hentry] at houtline
    obtain ⟨found, hother, heq⟩ := Option.map_eq_some_iff.1 houtline
    rw [walk, walk, ← hfolders, if_pos hfolder, if_pos hfolder, if_neg hdot, if_neg hdot,
      if_neg hparent, if_neg hparent, hentry, hother]
    -- neither of the two is a link
    cases entry with
    | link target => exact absurd rfl (hlink target)
    | folder => cases found <;> first | exact ih | cases heq
    | file content executable => cases found <;> first | exact ih | cases heq
  | case8 links here step steps hfolder =>
    rw [walk, walk, ← hfolders, if_neg hfolder, if_neg hfolder]

theorem resolve?_congr
    (h : ∀ address, files.outline.entryAt? address = other.outline.entryAt? address)
    (hfolder : files.workingFolder = other.workingFolder) (p : Path) :
    files.resolve? p = other.resolve? p := by
  rw [resolve?, resolve?, start, start, hfolder, walk_congr h]

/-- **Where a path leads depends on the outline of the tree.** -/
theorem resolve?_of_outline (h : files.outline = other.outline) (p : Path) :
    files.resolve? p = other.resolve? p := by
  have hfolder : files.workingFolder = other.workingFolder :=
    (congrArg Files.workingFolder h : files.outline.workingFolder = other.outline.workingFolder)
  exact resolve?_congr (fun _ => by rw [h]) hfolder p

theorem childrenAt_outline (files : Files) (folder : Address) :
    files.outline.childrenAt folder
      = (files.childrenAt folder).map fun (name, entry) => (name, entry.outline) := by
  rw [childrenAt, childrenAt, outline, List.filterMap_map, List.map_filterMap]
  refine List.filterMap_congr fun place _ => ?_
  simp [Function.comp_def]

/-- What a folder lists, apart from what it holds. -/
theorem list?_of_outline (h : files.outline = other.outline) (p : Path) :
    (files.list? p).map (·.map fun (name, entry) => (name, entry.outline))
      = (other.list? p).map (·.map fun (name, entry) => (name, entry.outline)) := by
  have hfolder : files.folder? p = other.folder? p := by
    rw [folder?, folder?, resolve?_of_outline h]
    refine congrArg (Option.filter · _) (funext fun there => ?_)
    have houtline := congrArg (fun tree => (tree.entryAt? there).any FileEntry.isFolder) h
    simpa [entryAt?_outline, Option.any_map, Function.comp_def] using houtline
  rw [list?_eq_folder?, list?_eq_folder?, hfolder, Option.map_map, Option.map_map]
  refine congrArg (Option.map · _) (funext fun there => ?_)
  simp only [Function.comp_apply]
  rw [← childrenAt_outline, ← childrenAt_outline, h]

/-- **Which members a folder has depends on the outline of the tree.** -/
theorem members?_of_outline (h : files.outline = other.outline) (p : Path)
    (accepts : String → Bool) : files.members? p accepts = other.members? p accepts := by
  have hmembers : ∀ tree : Files, tree.members? p accepts
      = ((tree.list? p).map (·.map fun (name, entry) => (name, entry.outline))).map
          fun entries =>
            (((entries.filter fun (name, entry) =>
                entry.isFolder || (entry.isFile && accepts name)).map (·.1)).mergeSort
                  fun a b => decide (a ≤ b),
              !(entries.filter fun (name, entry) => entry.isFile && accepts name).isEmpty) := by
    intro tree
    rw [members?, Option.map_map]
    refine congrArg (Option.map · _) (funext fun entries => ?_)
    simp [List.filter_map, Function.comp_def]
  rw [hmembers, hmembers, list?_of_outline h]

/-- Whether a folder holds anything at all depends on the outline of the tree. -/
theorem holdsAnything_of_outline (h : files.outline = other.outline) (p : Path) :
    ((files.list? p).any fun entries => !entries.isEmpty)
      = (other.list? p).any fun entries => !entries.isEmpty := by
  have houtline := congrArg (Option.any fun entries => !entries.isEmpty) (list?_of_outline h p)
  simpa [Option.any_map, Function.comp_def] using houtline

/-! ## Writing over a file -/

section

variable {address : Address} {old : Content} {executable : Bool}

/-- What is written over something stands in its place. -/
theorem entryAt?_putAt (hne : address ≠ []) {before : FileEntry}
    (hbefore : files.entryAt? address = some before) (entry : FileEntry) (place : Address) :
    (files.putAt address entry).entryAt? place
      = if place = address then some entry else files.entryAt? place := by
  have hany : files.entries.any (·.1 = address) = true :=
    List.any_eq_true.2 ⟨_, mem_of_entryAt? hne hbefore, by simp⟩
  rw [putAt, if_pos hany, entryAt?]
  by_cases hroot : place = []
  · rw [if_pos hroot, if_neg fun heq => hne (heq.symm.trans hroot), entryAt?, if_pos hroot]
  · -- the address of nothing has changed
    have haddresses : (fun other : Address × FileEntry => decide (other.1 = place)) ∘
        (fun other => if other.1 = address then (address, entry) else other)
          = fun other => decide (other.1 = place) := by
      funext other
      by_cases hother : other.1 = address
      · simp [hother]
      · simp [hother]
    rw [if_neg hroot, List.find?_map, haddresses, Option.map_map]
    by_cases hplace : place = address
    · rw [if_pos hplace, hplace]
      rw [entryAt?, if_neg hne, Option.map_eq_some_iff] at hbefore
      obtain ⟨found, hfound, -⟩ := hbefore
      have haddress : found.1 = address := by simpa using List.find?_some hfound
      rw [hfound, Option.map_some, Function.comp_apply, if_pos haddress]
    · rw [if_neg hplace, entryAt?, if_neg hroot]
      refine Option.map_congr fun found hfound => ?_
      have haddress : found.1 = place := by simpa using List.find?_some hfound
      rw [Function.comp_apply, if_neg (haddress ▸ hplace)]

theorem ne_nil_of_file (hfile : files.entryAt? address = some (.file old executable)) :
    address ≠ [] := by
  rintro rfl
  rw [entryAt?, if_pos rfl] at hfile
  cases hfile

/-- **Writing over a file leaves the outline as it is.** -/
theorem outline_putAt (hwf : files.WellFormed)
    (hfile : files.entryAt? address = some (.file old executable)) (content : Content) :
    (files.putAt address (.file content executable)).outline = files.outline := by
  have hmem := mem_of_entryAt? (ne_nil_of_file hfile) hfile
  have hany : files.entries.any (·.1 = address) = true := List.any_eq_true.2 ⟨_, hmem, by simp⟩
  rw [putAt, if_pos hany, outline, outline, List.map_map]
  refine congrArg (Files.mk · _ _) (List.map_congr_left fun place hplace => ?_)
  obtain ⟨other, entry⟩ := place
  by_cases heq : other = address
  · obtain rfl := heq
    rw [hwf.unique _ _ _ hplace hmem, Function.comp_apply, if_pos rfl]
    rfl
  · rw [Function.comp_apply, if_neg heq]

/-- **Writing over a file changes what is read through the paths that lead to it.** -/
theorem read?_putAt (hwf : files.WellFormed)
    (hfile : files.entryAt? address = some (.file old executable)) (content : Content) (p : Path) :
    (files.putAt address (.file content executable)).read? p
      = if files.resolve? p = some address then some content else files.read? p := by
  rw [read?, read?, entry?, entry?, resolve?_of_outline (outline_putAt hwf hfile content)]
  cases files.resolve? p with
  | none => rfl
  | some there =>
    rw [Option.bind_some, Option.bind_some, entryAt?_putAt (ne_nil_of_file hfile) hfile]
    by_cases hthere : there = address
    · rw [if_pos hthere, if_pos (congrArg some hthere)]
    · rw [if_neg hthere, if_neg fun heq => hthere (Option.some_inj.1 heq)]

end

end Files

end MultiRelease
