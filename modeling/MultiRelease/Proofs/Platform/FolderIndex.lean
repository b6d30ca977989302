import MultiRelease.Proofs.Platform.IndexedFiles
import MultiRelease.Proofs.Platform.OwningModule

/-!
# The folders that the symbol archive lists

The entries of an archive need not name folders, and if they do, they may leave out those above.
The index has all of them (`SymbolArchive.mem_folders_iff`), so what stands before a slash of
anything that it knows is a folder that it knows.  A slash may follow on another; then the folder
before it has a slash at its end.

The folders directly in a folder are a stretch of the sorted index.  The stretch starts where the
name of the folder with a slash after it belongs, which need not be next to the name of the folder
itself: `B-x` stands between `B` and `B/m`.  `SymbolArchive.listing_of_openFile` says that nothing
is lost by this, and that nothing else gets in.
-/

set_option autoImplicit false

namespace MultiRelease

open Text

namespace SymbolArchive

variable {archive : SymbolArchive} {name stored folder : String}

/-! ## What stands before a slash -/

/-- A folder stands above what its name and a slash begin. -/
def IsAbove (folder name : String) : Prop := ∃ rest, name = folder ++ "/" ++ rest

theorem mem_cuts_iff {front text : List Char} :
    front ∈ cuts text ↔ ∃ back, text = front ++ '/' :: back := by
  refine ⟨fun h => ?_, fun ⟨back, htext⟩ => htext ▸ mem_cuts front back⟩
  induction text generalizing front with
  | nil => exact absurd h List.not_mem_nil
  | cons c text ih =>
    have hdeeper : front ∈ (cuts text).map (c :: ·) → ∃ back, c :: text = front ++ '/' :: back := by
      intro hfront
      obtain ⟨shorter, hshorter, rfl⟩ := List.mem_map.1 hfront
      obtain ⟨back, rfl⟩ := ih hshorter
      exact ⟨back, rfl⟩
    rw [cuts] at h
    split at h
    · rename_i hslash
      rcases List.mem_cons.1 h with rfl | h
      · exact ⟨text, by rw [hslash, List.nil_append]⟩
      · exact hdeeper h
    · exact hdeeper h

theorem mem_map_cuts_iff : folder ∈ (cuts name.toList).map String.ofList ↔ IsAbove folder name := by
  rw [List.mem_map]
  constructor
  · rintro ⟨front, hfront, rfl⟩
    obtain ⟨back, hname⟩ := mem_cuts_iff.1 hfront
    refine ⟨String.ofList back, String.toList_inj.1 ?_⟩
    simp [hname]
  · rintro ⟨rest, rfl⟩
    refine ⟨folder.toList, mem_cuts_iff.2 ⟨rest.toList, ?_⟩, String.ofList_toList⟩
    simp

/-- What is above something above is above it. -/
theorem IsAbove.trans {middle : String} (hfolder : IsAbove folder middle)
    (hmiddle : IsAbove middle name) : IsAbove folder name := by
  obtain ⟨between, rfl⟩ := hfolder
  obtain ⟨rest, rfl⟩ := hmiddle
  exact ⟨between ++ "/" ++ rest, by simp only [String.append_assoc]⟩

/-! ## What the entries bring into the index -/

/-- The name of an entry without the slashes at its ends. -/
def stem (stored : String) : String :=
  String.ofList (withoutTrailingSlashes (withoutLeadingSlashes stored.toList))

/-- The names of folders end in a slash. -/
def NamesFolder (stored : String) : Prop := stored.toList.getLast? = some '/'

instance (stored : String) : Decidable (NamesFolder stored) :=
  inferInstanceAs (Decidable (stored.toList.getLast? = some '/'))

theorem getLast?_withoutLeadingSlashes {text : List Char}
    (h : withoutLeadingSlashes text ≠ []) :
    (withoutLeadingSlashes text).getLast? = text.getLast? := by
  obtain ⟨front, hfront⟩ := List.dropWhile_suffix (l := text) (· = '/')
  rw [withoutLeadingSlashes] at h ⊢
  conv_rhs => rw [← hfront]
  rw [List.getLast?_append_of_ne_nil _ h]

theorem indexName_eq (stored : String) :
    indexName stored =
      if stem stored = "" then ([], [])
      else if NamesFolder stored then
        ([], stem stored :: (cuts (stem stored).toList).map String.ofList)
      else ([stem stored], (cuts (stem stored).toList).map String.ofList) := by
  have hempty : stem stored = "" ↔
      withoutTrailingSlashes (withoutLeadingSlashes stored.toList) = [] := by
    rw [stem, ← String.toList_inj, String.toList_ofList, String.toList_empty]
  rw [indexName]
  dsimp only
  by_cases h : withoutTrailingSlashes (withoutLeadingSlashes stored.toList) = []
  · rw [if_pos h, if_pos (hempty.2 h)]
  · have hlead : withoutLeadingSlashes stored.toList ≠ [] := by
      intro hnil
      rw [hnil] at h
      exact h rfl
    rw [if_neg h, if_neg (mt hempty.1 h), getLast?_withoutLeadingSlashes hlead, stem,
      String.toList_ofList]
    rfl

/-- An entry for a file with the given path. -/
def IsFile (stored name : String) : Prop :=
  name = stem stored ∧ name ≠ "" ∧ ¬ NamesFolder stored

/-- An entry for a folder with the given path, or for something below the folder. -/
def IsAtOrBelow (stored folder : String) : Prop :=
  folder = stem stored ∧ folder ≠ "" ∧ NamesFolder stored ∨ IsAbove folder (stem stored)

theorem not_isAbove_empty : ¬ IsAbove folder "" := by
  rintro ⟨rest, h⟩
  have hlist := congrArg String.toList h
  simp at hlist

theorem mem_indexName_iff_isFile : name ∈ (indexName stored).1 ↔ IsFile stored name := by
  rw [indexName_eq, IsFile]
  split
  · rename_i hempty
    refine ⟨fun h => absurd h List.not_mem_nil, fun ⟨heq, hne, _⟩ => absurd (heq.trans hempty) hne⟩
  · rename_i hne
    split
    · rename_i hfolder
      exact ⟨fun h => absurd h List.not_mem_nil, fun ⟨_, _, hfile⟩ => absurd hfolder hfile⟩
    · rename_i hfile
      rw [List.mem_singleton]
      exact ⟨fun h => ⟨h, h ▸ hne, hfile⟩, And.left⟩

theorem mem_indexName_iff_isAtOrBelow :
    folder ∈ (indexName stored).2 ↔ IsAtOrBelow stored folder := by
  rw [indexName_eq, IsAtOrBelow]
  split
  · rename_i hempty
    refine ⟨fun h => absurd h List.not_mem_nil, ?_⟩
    rintro (⟨heq, hne, -⟩ | habove)
    · exact absurd (heq.trans hempty) hne
    · exact absurd (hempty ▸ habove) not_isAbove_empty
  · rename_i hne
    split
    · rename_i hfolder
      rw [List.mem_cons, mem_map_cuts_iff]
      simp only [hfolder, and_true]
      exact or_congr_left ⟨fun h => ⟨h, h ▸ hne⟩, And.left⟩
    · rename_i hfile
      rw [mem_map_cuts_iff]
      simp [hfile]

theorem mem_folders_iff {path : Path} {content : OpenArchive} :
    folder ∈ (ofArchive path content).folders ↔
      ∃ entry ∈ content.archive.entries, IsAtOrBelow entry.name folder := by
  rw [ofArchive]
  simp only [mem_sortedTexts, List.mem_flatMap, List.mem_map, exists_exists_and_eq_and,
    mem_indexName_iff_isAtOrBelow]

/-- What is above something that an entry brings into the index is brought into it by the same
entry. -/
theorem IsAtOrBelow.above {middle : String} (h : IsAtOrBelow stored middle)
    (habove : IsAbove folder middle) : IsAtOrBelow stored folder := by
  rcases h with ⟨rfl, -, -⟩ | h
  · exact .inr habove
  · exact .inr (habove.trans h)

/-- **The index is closed**: what is above anything in it is a folder in it. -/
theorem mem_folders_of_isAbove {path : Path} {content : OpenArchive}
    (h : name ∈ (ofArchive path content).files ∨ name ∈ (ofArchive path content).folders)
    (habove : IsAbove folder name) : folder ∈ (ofArchive path content).folders := by
  rw [mem_folders_iff] at h ⊢
  rcases h with hfile | ⟨entry, hentry, hfolder⟩
  · obtain ⟨entry, hentry, hindexed⟩ := mem_files_iff.1 hfile
    obtain ⟨rfl, -, -⟩ := mem_indexName_iff_isFile.1 hindexed
    exact ⟨entry, hentry, .inr habove⟩
  · exact ⟨entry, hentry, hfolder.above habove⟩

/-! ## The folders in a folder -/

/-- The sub-folders are listed once each. -/
theorem nodup_childFolders (h : archive.folders.Nodup) (folder : String) :
    (archive.childFolders folder).Nodup := by
  rw [childFolders]
  have hinside := h.sublist ((List.takeWhile_sublist (hasPrefix (folder ++ "/"))).trans
    (List.dropWhile_sublist fun name => decide (name < folder ++ "/")))
  refine hinside.filterMap fun a b rest ha hb => ?_
  obtain rfl := withoutPrefix?_eq_some_iff.1 (Option.filter_eq_some_iff.1 ha).1
  exact (withoutPrefix?_eq_some_iff.1 (Option.filter_eq_some_iff.1 hb).1).symm

/-- **The index of a symbol archive is closed, and its listings are exact.**  It has the files that
the entries name, the folders that they name, and all folders above these.  The sub-folders of a
folder are listed in ascending order, each once, and they are exactly those whose path is in the
index, whatever else stands between them and the folder. -/
theorem listing_of_openFile {files : Files} {path : Path}
    (h : openFile files path = .ok archive) :
    (∀ name, name ∈ archive.files ↔
      ∃ entry ∈ archive.content.archive.entries, IsFile entry.name name) ∧
    (∀ folder, folder ∈ archive.folders ↔
      ∃ entry ∈ archive.content.archive.entries, IsAtOrBelow entry.name folder) ∧
    (∀ name, name ∈ archive.files ∨ name ∈ archive.folders →
      ∀ folder, IsAbove folder name → folder ∈ archive.folders) ∧
    ∀ folder, (archive.childFolders folder).Pairwise (· ≤ ·) ∧
      (archive.childFolders folder).Nodup ∧
      ∀ name, name ∈ archive.childFolders folder ↔
        '/' ∉ name.toList ∧ folder ++ "/" ++ name ∈ archive.folders := by
  obtain ⟨content, rfl⟩ := exists_of_openFile h
  have hcomplete := complete_ofArchive path content
  refine ⟨fun name => ?_, fun folder => mem_folders_iff,
    fun name hname folder => mem_folders_of_isAbove hname, fun folder =>
      ⟨pairwise_childFolders hcomplete folder, nodup_childFolders (nodup_sortedTexts _) folder,
        fun name => (mem_childFolders hcomplete).trans and_comm⟩⟩
  simp only [mem_files_iff, mem_indexName_iff_isFile]
  rfl

/-- Symbols with a folder that stands between another and what is in it, and with a slash that
follows on another. -/
def crossedSymbols : Content :=
  ⟨Archive.pack [oneByteEntry "B/m//n/T.sig", oneByteEntry "B-x/", oneByteEntry "/B/k/T.sig"]⟩

/-- The symbols under a name. -/
def crossedFiles : Files where
  entries := [(["ct.sym"], .file crossedSymbols false)]

theorem openFile_crossedFiles : ∃ archive, openFile crossedFiles ⟨"ct.sym"⟩ = .ok archive ∧
    archive.content.archive.entries.map (·.name) = ["B/m//n/T.sig", "B-x/", "/B/k/T.sig"] := by
  have hread : (Archive.ofBytes? crossedSymbols.data).any (fun archive =>
      decide (archive.entries.map (·.name) = ["B/m//n/T.sig", "B-x/", "/B/k/T.sig"])) = true := by
    decide +kernel
  obtain ⟨archive, harchive, hnames⟩ := (Option.any_eq_true _ _).1 hread
  have hresolve : crossedFiles.resolve? ⟨"/".intercalate ["ct.sym"]⟩ = some ["ct.sym"] :=
    Files.resolve?_intercalate (Files.wellFormed_of_forall (by decide) (by decide))
      (Files.linkFree_of_forall (by decide)) (by decide) rfl
  rw [String.intercalate_singleton] at hresolve
  obtain ⟨opened, hopen, rfl, -⟩ := Files.exists_openArchive hresolve rfl harchive
  exact ⟨ofArchive ⟨"ct.sym"⟩ opened, by rw [openFile, hopen], of_decide_eq_true hnames⟩

/-- The folder `B-x` is in the index between `B` and what is in `B`, and does not get in the way.
What stands between two slashes has no name. -/
theorem listing_of_openFile_sample :
    ∃ archive, openFile crossedFiles ⟨"ct.sym"⟩ = .ok archive ∧ "B-x" ∈ archive.folders ∧
      "k" ∈ archive.childFolders "B" ∧ "m" ∈ archive.childFolders "B" ∧
      "" ∈ archive.childFolders "B/m" := by
  obtain ⟨archive, hopen, hnames⟩ := openFile_crossedFiles
  obtain ⟨-, hfolders, -, hlisted⟩ := listing_of_openFile hopen
  have hindex : ∀ stored ∈ ["B/m//n/T.sig", "B-x/", "/B/k/T.sig"], ∀ folder,
      IsAtOrBelow stored folder → folder ∈ archive.folders := by
    intro stored hstored folder hfolder
    rw [← hnames] at hstored
    obtain ⟨entry, hentry, rfl⟩ := List.mem_map.1 hstored
    exact (hfolders folder).2 ⟨entry, hentry, hfolder⟩
  refine ⟨archive, hopen, hindex "B-x/" (by decide) _ (.inl (by decide)),
    ((hlisted "B").2.2 "k").2 ⟨by decide, hindex "/B/k/T.sig" (by decide) _ (.inr ?_)⟩,
    ((hlisted "B").2.2 "m").2 ⟨by decide, hindex "B/m//n/T.sig" (by decide) _ (.inr ?_)⟩,
    ((hlisted "B/m").2.2 "").2 ⟨by decide, hindex "B/m//n/T.sig" (by decide) _ (.inr ?_)⟩⟩
  · exact ⟨"T.sig", by decide⟩
  · exact ⟨"/n/T.sig", by decide⟩
  · exact ⟨"n/T.sig", by decide⟩

end SymbolArchive

end MultiRelease
