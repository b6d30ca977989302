import Mathlib.Data.List.Infix
import MultiRelease.Platform.SymbolArchive
import MultiRelease.Proofs.Sorted
import MultiRelease.Proofs.Text.Cutting

/-!
# Where signature files are found

A signature file of a release is searched for in the top-level folders that apply to the release
(`SymbolArchive.IsReleaseRoot`), and in an archive of the per-module layout in their sub-folders.
The sub-folders are read off the sorted index, where those of one folder stand together.

* `SymbolArchive.fullPath?_eq_none_iff`: the search fails only if there is nothing to find, that is
  if no folder of the release has the file (`SymbolArchive.Records`).
* `SymbolArchive.mem_childFolders`, `SymbolArchive.mem_modulesWith`: the sub-folders of a folder,
  and those among them that have a file, are just the ones that the archive has.
* `SymbolArchive.complete_ofArchive`: the index is complete, as it is made.  The folders are in
  ascending order, and every folder on the way to a file is among them.

That texts with a common beginning stand together in a sorted list is `mem_takeWhile_dropWhile`.  It
rests on one fact of the order of texts, that whatever stands between a beginning and a text which
starts with it starts with it, too (`isPrefix_of_not_lt`).
-/

set_option autoImplicit false

namespace MultiRelease

open Text

/-! ## Beginnings and the order of texts -/

theorem hasPrefix_iff {beginning text : String} :
    hasPrefix beginning text = true ↔ beginning.toList <+: text.toList :=
  List.isPrefixOf_iff_prefix

theorem le_of_hasPrefix {beginning text : String} (h : hasPrefix beginning text = true) :
    beginning ≤ text :=
  (hasPrefix_iff.1 h).le

/-- What stands between a beginning and a text that starts with it starts with it, too. -/
theorem isPrefix_of_not_lt {beginning : List Char} :
    ∀ {a b : List Char}, ¬ a < beginning → ¬ b < a → beginning <+: b → beginning <+: a := by
  induction beginning with
  | nil => exact fun _ _ _ => List.nil_prefix
  | cons c beginning ih =>
    intro a b hfirst hlast hprefix
    obtain ⟨rest, rfl⟩ := hprefix
    cases a with
    | nil => exact absurd (List.nil_lt_cons c beginning) hfirst
    | cons d a =>
      rw [List.cons_append, List.cons_lt_cons_iff, not_or] at hlast
      rw [List.cons_lt_cons_iff, not_or] at hfirst
      obtain rfl : d = c := Char.le_antisymm (Char.not_lt.1 hlast.1) (Char.not_lt.1 hfirst.1)
      have htail : beginning <+: a :=
        ih (fun h => hfirst.2 ⟨rfl, h⟩) (fun h => hlast.2 ⟨rfl, h⟩) (List.prefix_append _ rest)
      exact List.cons_prefix_cons.2 ⟨rfl, htail⟩

theorem hasPrefix_of_le_of_le {beginning a b : String} (hle : beginning ≤ a) (hab : a ≤ b)
    (h : hasPrefix beginning b = true) : hasPrefix beginning a = true :=
  hasPrefix_iff.2 (isPrefix_of_not_lt (String.not_lt.2 hle) (String.not_lt.2 hab)
    (hasPrefix_iff.1 h))

theorem mem_takeWhile_hasPrefix {beginning text : String} :
    ∀ {texts : List String}, texts.Pairwise (· ≤ ·) → (∀ a ∈ texts, beginning ≤ a) →
      (text ∈ texts.takeWhile (hasPrefix beginning) ↔
        text ∈ texts ∧ hasPrefix beginning text = true)
  | [], _, _ => by simp
  | a :: texts, hsorted, hle => by
    obtain ⟨hfirst, hrest⟩ := List.pairwise_cons.1 hsorted
    have ih : text ∈ texts.takeWhile (hasPrefix beginning) ↔
        text ∈ texts ∧ hasPrefix beginning text = true :=
      mem_takeWhile_hasPrefix hrest fun b hb => hle b (List.mem_cons_of_mem a hb)
    rw [List.takeWhile_cons]
    by_cases ha : hasPrefix beginning a = true
    · rw [if_pos ha, List.mem_cons, ih, List.mem_cons]
      exact ⟨fun h => h.elim (fun h => ⟨.inl h, h ▸ ha⟩) fun h => ⟨.inr h.1, h.2⟩,
        fun h => h.1.imp id fun hmem => ⟨hmem, h.2⟩⟩
    · rw [if_neg ha]
      refine ⟨fun h => absurd h List.not_mem_nil, fun ⟨hmem, hprefix⟩ => absurd ?_ ha⟩
      rcases List.mem_cons.1 hmem with rfl | hmem
      · exact hprefix
      · exact hasPrefix_of_le_of_le (hle a List.mem_cons_self) (hfirst text hmem) hprefix

/-- **Texts with a common beginning stand together** in a sorted list, from where they belong. -/
theorem mem_takeWhile_dropWhile {beginning text : String} {texts : List String}
    (hsorted : texts.Pairwise (· ≤ ·)) :
    text ∈ (texts.dropWhile fun a => decide (a < beginning)).takeWhile (hasPrefix beginning) ↔
      text ∈ texts ∧ hasPrefix beginning text = true := by
  induction texts with
  | nil => simp
  | cons a texts ih =>
    obtain ⟨hfirst, hrest⟩ := List.pairwise_cons.1 hsorted
    rw [List.dropWhile_cons]
    by_cases ha : a < beginning
    · rw [if_pos (decide_eq_true ha), ih hrest, List.mem_cons]
      refine ⟨fun h => ⟨.inr h.1, h.2⟩, fun ⟨hmem, hprefix⟩ => ⟨hmem.resolve_left ?_, hprefix⟩⟩
      rintro rfl
      exact String.not_le.2 ha (le_of_hasPrefix hprefix)
    · rw [if_neg (by simpa using ha)]
      refine mem_takeWhile_hasPrefix hsorted fun b hb => ?_
      rcases List.mem_cons.1 hb with rfl | hb
      · exact String.not_lt.1 ha
      · exact String.le_trans (String.not_lt.1 ha) (hfirst b hb)

theorem pairwise_sortedTexts (texts : List String) : (sortedTexts texts).Pairwise (· ≤ ·) :=
  (pairwise_mergeSort_texts texts).sublist (dropRepeated_sublist _ _)

theorem mem_sortedTexts {text : String} {texts : List String} :
    text ∈ sortedTexts texts ↔ text ∈ texts :=
  mem_sortedDistinct fun _ _ => of_decide_eq_true

theorem nodup_sortedTexts (texts : List String) : (sortedTexts texts).Nodup := by
  have hsame : ∀ a b : String, decide (a = b) = true ↔
      decide (a ≤ b) = true ∧ decide (b ≤ a) = true := fun a b => by
    simp only [decide_eq_true_eq]
    exact ⟨fun h => h ▸ ⟨String.le_refl a, String.le_refl a⟩, fun h => String.le_antisymm h.1 h.2⟩
  exact (pairwise_sortedDistinct decide_le_trans decide_le_total hsame texts).imp of_decide_eq_false

/-- Texts in order, each once, are determined by what they are. -/
theorem eq_sortedTexts {sorted texts : List String} (hsorted : sorted.Pairwise (· ≤ ·))
    (hnodup : sorted.Nodup) (hmem : ∀ text, text ∈ sorted ↔ text ∈ texts) :
    sorted = sortedTexts texts := by
  have hperm := (List.perm_ext_iff_of_nodup hnodup (nodup_sortedTexts texts)).2 fun text =>
    (hmem text).trans mem_sortedTexts.symm
  exact hperm.eq_of_pairwise (fun _ _ _ _ => String.le_antisymm) hsorted
    (pairwise_sortedTexts texts)

/-! ## The index -/

namespace SymbolArchive

/-- An index in ascending order that has all folders on the way to its files. -/
structure Complete (archive : SymbolArchive) : Prop where
  sorted : archive.folders.Pairwise (· ≤ ·)
  parent : ∀ folder rest, folder ++ "/" ++ rest ∈ archive.files → folder ∈ archive.folders

/-- Every slash is a place to cut. -/
theorem mem_cuts (front back : List Char) : front ∈ cuts (front ++ '/' :: back) := by
  induction front with
  | nil => simp [cuts]
  | cons c front ih =>
    rw [List.cons_append, cuts]
    have hdeeper : c :: front ∈ (cuts (front ++ '/' :: back)).map (c :: ·) :=
      List.mem_map_of_mem ih
    split
    · exact List.mem_cons_of_mem _ hdeeper
    · exact hdeeper

theorem parent_of_indexName {name folder rest : String}
    (h : folder ++ "/" ++ rest ∈ (indexName name).1) : folder ∈ (indexName name).2 := by
  rw [indexName] at h ⊢
  dsimp only at h ⊢
  split at h
  · cases h
  · rename_i htrimmed
    rw [if_neg htrimmed]
    split at h
    · cases h
    · rename_i hlast
      rw [if_neg hlast]
      have hname := congrArg String.toList (List.mem_singleton.1 h)
      rw [String.toList_ofList, String.toList_append, String.toList_append, List.append_assoc]
        at hname
      refine List.mem_map.2 ⟨folder.toList, ?_, String.ofList_toList⟩
      rw [← hname]
      exact mem_cuts folder.toList rest.toList

/-- The index of an archive is complete. -/
theorem complete_ofArchive (path : Path) (content : OpenArchive) :
    (ofArchive path content).Complete where
  sorted := pairwise_sortedTexts _
  parent folder rest h := by
    have hindexed := mem_sortedTexts.1 h
    obtain ⟨indexed, hmem, hfile⟩ := List.mem_flatMap.1 hindexed
    refine mem_sortedTexts.2 (List.mem_flatMap.2 ⟨indexed, hmem, ?_⟩)
    obtain ⟨entry, -, rfl⟩ := List.mem_map.1 hmem
    exact parent_of_indexName hfile

/-- An archive that was opened has a complete index. -/
theorem complete_of_openHome {files : Files} {home : Path} {archive : SymbolArchive}
    (h : openHome files home = .ok archive) : archive.Complete := by
  rw [openHome, openFile] at h
  split at h
  · rename_i content _
    rw [← Except.ok.inj h]
    exact complete_ofArchive _ content
  · cases h

/-- The sub-folders of a folder are those that the archive has. -/
theorem mem_childFolders {archive : SymbolArchive} (h : archive.Complete) {folder name : String} :
    name ∈ archive.childFolders folder ↔
      folder ++ "/" ++ name ∈ archive.folders ∧ '/' ∉ name.toList := by
  simp only [childFolders, List.mem_filterMap, mem_takeWhile_dropWhile h.sorted,
    Option.filter_eq_some_iff, withoutPrefix?_eq_some_iff]
  constructor
  · rintro ⟨path, ⟨hpath, -⟩, rfl, hplain⟩
    exact ⟨hpath, by simpa using hplain⟩
  · rintro ⟨hfolder, hplain⟩
    exact ⟨_, ⟨hfolder, hasPrefix_iff.2 (by simp)⟩, rfl, by simpa using hplain⟩

/-! ## The search -/

/-- A folder at the top of the archive that carries data for a release. -/
structure IsReleaseRoot (archive : SymbolArchive) (code : Char) (root : String) : Prop where
  folder : root ∈ archive.folders
  top : '/' ∉ root.toList
  classes : hasSuffix legacyModulesSuffix root = false
  applies : code ∈ root.toList

/-- The folders that are searched for a release are those that carry data for it. -/
theorem mem_releaseRoots {archive : SymbolArchive} {code : Char} {root : String} :
    root ∈ archive.releaseRoots code ↔ archive.IsReleaseRoot code root := by
  simp only [releaseRoots, List.mem_filter, Bool.and_eq_true, Bool.not_eq_true',
    List.contains_eq_mem, decide_eq_false_iff_not, decide_eq_true_eq]
  exact ⟨fun ⟨hfolder, ⟨htop, hclasses⟩, happlies⟩ => ⟨hfolder, htop, hclasses, happlies⟩,
    fun h => ⟨h.folder, ⟨h.top, h.classes⟩, h.applies⟩⟩

/-- A folder of a release holds a signature file: in the per-module layout in the given module, or
directly below any folder in it if none is given, and in the legacy layout as it is. -/
def Holds (archive : SymbolArchive) (root signaturePath : String) (module : Option String) :
    Prop :=
  if archive.perModule then
    match module with
    | some module => modulePath root module signaturePath ∈ archive.files
    | none => ∃ module, '/' ∉ module.toList ∧ modulePath root module signaturePath ∈ archive.files
  else root ++ "/" ++ signaturePath ∈ archive.files

/-- A folder of the release holds the signature file. -/
def Records (archive : SymbolArchive) (code : Char) (signaturePath : String)
    (module : Option String) : Prop :=
  ∃ root, archive.IsReleaseRoot code root ∧ archive.Holds root signaturePath module

theorem hasFile_iff {archive : SymbolArchive} {path : String} :
    archive.hasFile path = true ↔ path ∈ archive.files := by
  rw [hasFile, List.contains_eq_mem, decide_eq_true_eq]

/-- The folder of a module is in the index if a file of the module is. -/
theorem mem_modulesWith {archive : SymbolArchive} (h : archive.Complete)
    {root signaturePath module : String} :
    module ∈ archive.modulesWith root signaturePath ↔
      '/' ∉ module.toList ∧ modulePath root module signaturePath ∈ archive.files := by
  rw [modulesWith, List.mem_filter, mem_childFolders h, hasFile_iff]
  constructor
  · rintro ⟨⟨-, hplain⟩, hfile⟩
    exact ⟨hplain, hfile⟩
  · rintro ⟨hplain, hfile⟩
    exact ⟨⟨h.parent _ signaturePath hfile, hplain⟩, hfile⟩

theorem pathInRoot?_eq_none_iff {archive : SymbolArchive} (h : archive.Complete)
    (root signaturePath : String) (module : Option String) :
    archive.pathInRoot? root signaturePath module = none ↔
      ¬ archive.Holds root signaturePath module := by
  unfold pathInRoot? Holds
  split
  · cases module with
    | some module => simp [hasFile_iff]
    | none =>
      dsimp only
      rw [Option.map_eq_none_iff, List.head?_eq_none_iff, List.eq_nil_iff_forall_not_mem]
      simp only [mem_modulesWith h, not_exists]
  · simp [hasFile_iff, toString]

/-- **The search for a signature file fails exactly if no folder of the release holds it.** -/
theorem fullPath?_eq_none_iff {archive : SymbolArchive} (h : archive.Complete) (code : Char)
    (signaturePath : String) (module : Option String) :
    archive.fullPath? code signaturePath module = none ↔
      ¬ archive.Records code signaturePath module := by
  rw [fullPath?, List.findSome?_eq_none_iff]
  simp only [mem_releaseRoots, pathInRoot?_eq_none_iff h]
  exact ⟨fun hnone ⟨root, hroot, hholds⟩ => hnone root hroot hholds,
    fun hnone root hroot hholds => hnone ⟨root, hroot, hholds⟩⟩

end SymbolArchive

end MultiRelease
