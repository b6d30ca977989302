import MultiRelease.Proofs.Files.Order
import MultiRelease.Proofs.Files.Tree
import MultiRelease.Proofs.NameMap
import MultiRelease.Proofs.Release
import MultiRelease.Proofs.Sorted
import MultiRelease.Proofs.Text.Number
import MultiRelease.Validation

/-!
# The variants that a validation finds

`Validation.collectVariants` puts the class files of all output folders under the names of their
types.  Here is said which these are, for output folders that lead to one place in a tree without
links:

* `getD_collectVariants`: under a name stand all variants that the output folders hold of it, and
  nothing else.
* `mem_variantsOfOutput_baseline`: a class file of the baseline is among them as an unversioned
  variant.
* `mem_variantsOfOutput_overlay`: a class file in the overlay of a release is among them as a
  variant of that release.
* `exists_of_unversioned`: an unversioned variant is the class file of the baseline with the name of
  the type.

A search below a folder is told by the addresses of what it finds (`variantsOfOutput_eq`): all that
lies below the folder, with the names that lead there.  The folder of overlays is left out of the
search through the baseline, and each of its folders with a number for a name is searched by itself.
-/

set_option autoImplicit false

namespace MultiRelease

open Text

/-! ## Class file names -/

theorem withoutSuffix?_eq_some_iff {ending text rest : String} :
    withoutSuffix? ending text = some rest ↔ text = rest ++ ending := by
  rw [withoutSuffix?, Option.map_eq_some_iff]
  constructor
  · rintro ⟨front, hfront, rfl⟩
    rw [← String.toList_inj, String.toList_append, String.toList_ofList]
    exact (List.append_eq_of_isSuffixOf?_eq_some hfront).symm
  · rintro rfl
    refine ⟨rest.toList, ?_, String.ofList_toList⟩
    rw [String.toList_append, List.isSuffixOf?_eq_some_iff_append_eq]

/-- The class files of a type are those at one and the same place below their folders. -/
theorem eq_of_withoutSuffix? {ending a b rest : String} (ha : withoutSuffix? ending a = some rest)
    (hb : withoutSuffix? ending b = some rest) : a = b :=
  (withoutSuffix?_eq_some_iff.1 ha).trans (withoutSuffix?_eq_some_iff.1 hb).symm

/-- Class files have a name. -/
theorem ne_nil_of_className {names : List String} {typeName : String}
    (h : "/".intercalate names = typeName ++ classSuffix) : names ≠ [] := by
  rintro rfl
  have hlength := congrArg (List.length ∘ String.toList) h
  simp [classSuffix] at hlength

/-- Names that make the same path are the same. -/
theorem eq_of_intercalate {names others : List String} (hnames : ∀ name ∈ names, ProperName name)
    (hothers : ∀ name ∈ others, ProperName name)
    (h : "/".intercalate names = "/".intercalate others) : names = others := by
  rw [← Path.names_intercalate hnames, ← Path.names_intercalate hothers, h]

/-! ## Groups -/

namespace NameMap

/-- Values that are added one by one stand under their names, in order. -/
theorem getD_foldl_alter {α : Type} (pairs : List (String × α)) (name : String) :
    ∀ {map : NameMap (List α)}, map.Sorted →
      ((pairs.foldl (fun map (key, value) => map.alter key fun old => old.getD [] ++ [value])
        map).get? name).getD []
        = (map.get? name).getD [] ++ (pairs.filter (·.1 = name)).map (·.2) := by
  induction pairs with
  | nil => exact fun _ => (List.append_nil _).symm
  | cons pair pairs ih =>
    intro map hmap
    obtain ⟨key, value⟩ := pair
    rw [List.foldl_cons, ih (hmap.alter key _)]
    by_cases hkey : key = name
    · rw [hkey, get?_alter_self hmap, List.filter_cons_of_pos (by simp), List.map_cons,
        Option.getD_some, List.append_assoc, List.singleton_append]
    · rw [get?_alter_of_ne (Ne.symm hkey), List.filter_cons_of_neg (by simpa using hkey)]

theorem sorted_foldl_alter {α : Type} (pairs : List (String × α)) :
    ∀ {map : NameMap (List α)}, map.Sorted →
      (pairs.foldl (fun map (key, value) => map.alter key fun old => old.getD [] ++ [value])
        map).Sorted := by
  induction pairs with
  | nil => exact fun h => h
  | cons pair pairs ih => exact fun h => ih (h.alter pair.1 _)

/-- Every name is that of a value. -/
theorem key_of_mem_foldl_alter {α : Type} (pairs : List (String × α)) {entry : String × List α} :
    ∀ {map : NameMap (List α)},
      entry ∈ (pairs.foldl (fun map (key, value) => map.alter key fun old => old.getD [] ++ [value])
        map).entries →
      entry.1 ∈ pairs.map (·.1) ∨ entry.1 ∈ map.keys := by
  induction pairs with
  | nil => exact fun h => .inr (List.mem_map_of_mem h)
  | cons pair pairs ih =>
    intro map h
    rcases ih h with hpairs | hmap
    · exact .inl (List.mem_cons_of_mem _ hpairs)
    · obtain ⟨other, hother, hname⟩ := List.mem_map.1 hmap
      rw [← hname]
      rcases key_of_mem_alterEntries hother with hkey | hold
      · exact .inl (by rw [hkey]; exact List.mem_cons_self)
      · exact .inr (List.mem_map_of_mem hold)

end NameMap

namespace Validation

variable {files : Files}

/-- All variants in the output folders, with the names of their types. -/
def allVariants (files : Files) (roots : List SourceRoot) : List (String × TypeVariant) :=
  (outputFolders roots).flatMap (variantsOfOutput files)

theorem sorted_collectVariants (files : Files) (roots : List SourceRoot) :
    (collectVariants files roots).Sorted :=
  NameMap.sorted_foldl_alter _ NameMap.sorted_empty

/-- **Under a name stand the variants of the type.** -/
theorem getD_collectVariants (files : Files) (roots : List SourceRoot) (typeName : String) :
    ((collectVariants files roots).get? typeName).getD []
      = ((allVariants files roots).filter (·.1 = typeName)).map (·.2) :=
  NameMap.getD_foldl_alter _ typeName NameMap.sorted_empty

/-- The variants that are collected of a type. -/
def variantsOf (files : Files) (roots : List SourceRoot) (typeName : String) : List TypeVariant :=
  ((collectVariants files roots).get? typeName).getD []

theorem mem_variantsOf {roots : List SourceRoot} {typeName : String} {variant : TypeVariant} :
    variant ∈ variantsOf files roots typeName ↔
      (typeName, variant) ∈ allVariants files roots := by
  rw [variantsOf, getD_collectVariants, List.mem_map]
  constructor
  · rintro ⟨⟨name, found⟩, hfound, rfl⟩
    obtain ⟨hall, hname⟩ := List.mem_filter.1 hfound
    rwa [← of_decide_eq_true hname]
  · exact fun hvariant => ⟨_, List.mem_filter.2 ⟨hvariant, by simp⟩, rfl⟩

/-- **The entries are the types that have variants.** -/
theorem mem_entries_iff {roots : List SourceRoot} {typeName : String}
    {variants : List TypeVariant} :
    (typeName, variants) ∈ (collectVariants files roots).entries ↔
      variants ≠ [] ∧ variants = variantsOf files roots typeName := by
  constructor
  · intro hentry
    have hvariants : variants = variantsOf files roots typeName := by
      rw [variantsOf, (sorted_collectVariants files roots).get?_of_mem hentry]
      rfl
    have hkey : typeName ∈ (allVariants files roots).map (·.1) :=
      (NameMap.key_of_mem_foldl_alter _ hentry).resolve_right List.not_mem_nil
    obtain ⟨⟨_, variant⟩, hfound, rfl⟩ := List.mem_map.1 hkey
    rw [hvariants]
    exact ⟨List.ne_nil_of_mem (mem_variantsOf.2 hfound), rfl⟩
  · rintro ⟨hne, rfl⟩
    cases hget : (collectVariants files roots).get? typeName with
    | none => exact absurd (by rw [variantsOf, hget]; rfl) hne
    | some variants =>
      rw [variantsOf, hget]
      exact NameMap.mem_entries_of_get? hget

theorem entry_of_mem {roots : List SourceRoot} {typeName : String} {variant : TypeVariant}
    (h : variant ∈ variantsOf files roots typeName) :
    (typeName, variantsOf files roots typeName) ∈ (collectVariants files roots).entries :=
  mem_entries_iff.2 ⟨List.ne_nil_of_mem h, rfl⟩

/-- The variants of a type that has any. -/
theorem exists_group {roots : List SourceRoot} {typeName : String} {variant : TypeVariant}
    (h : (typeName, variant) ∈ allVariants files roots) :
    ∃ variants, (typeName, variants) ∈ (collectVariants files roots).entries ∧
      ∀ other, other ∈ variants ↔ (typeName, other) ∈ allVariants files roots :=
  ⟨variantsOf files roots typeName, entry_of_mem (mem_variantsOf.2 h), fun _ => mem_variantsOf⟩

/-! ## Folders -/

section

variable {home : Address} {folder : Path} {names inner : List String} {release : Release}
  {typeName : String}

theorem variantAt?_eq_some_iff {entry : FileEntry} {variant : TypeVariant} :
    variantAt? folder release inner entry = some (typeName, variant) ↔
      ∃ content executable, entry = .file content executable ∧
        (release.isVersioned || !versionsNames.isPrefixOf inner) = true ∧
        withoutSuffix? classSuffix ("/".intercalate inner) = some typeName ∧
        variant = ⟨inner.foldl Path.child folder, release⟩ := by
  constructor
  · intro h
    rw [variantAt?] at h
    split at h
    · rename_i hfile
      rw [Bool.and_eq_true] at hfile
      obtain ⟨name, hname, heq⟩ := Option.map_eq_some_iff.1 h
      obtain ⟨rfl, rfl⟩ := Prod.mk.inj heq
      cases entry with
      | folder => cases hfile.1
      | link target => cases hfile.1
      | file content executable => exact ⟨content, executable, rfl, hfile.2, hname, rfl⟩
    · cases h
  · rintro ⟨content, executable, rfl, hkept, htype, rfl⟩
    rw [variantAt?, if_pos (by rw [hkept]; rfl), htype]
    rfl

/-- A class file below a folder is a variant. -/
theorem mem_variantsBelow (hwf : files.WellFormed) (hlf : files.LinkFree)
    (h : files.Leads home folder names) (hproper : ∀ name ∈ names, ProperName name)
    (hinner : inner ≠ []) {content : Content} {executable : Bool}
    (hmem : (home ++ names ++ inner, .file content executable) ∈ files.entries)
    (hkept : (release.isVersioned || !versionsNames.isPrefixOf inner) = true)
    (htype : withoutSuffix? classSuffix ("/".intercalate inner) = some typeName) :
    (typeName, ⟨inner.foldl Path.child folder, release⟩) ∈ variantsBelow files folder release := by
  refine List.mem_filterMap.2
    ⟨(inner, .file content executable), (h.mem_below_iff hwf hlf hproper).2 ⟨hinner, hmem⟩, ?_⟩
  exact variantAt?_eq_some_iff.2 ⟨content, executable, rfl, hkept, htype, rfl⟩

theorem release_of_mem_variantsBelow {variant : TypeVariant}
    (h : (typeName, variant) ∈ variantsBelow files folder release) : variant.release = release := by
  obtain ⟨⟨inner, entry⟩, -, hat⟩ := List.mem_filterMap.1 h
  obtain ⟨_, _, -, -, -, rfl⟩ := variantAt?_eq_some_iff.1 hat
  rfl

/-- A variant is a class file below its folder. -/
theorem exists_of_mem_variantsBelow (hwf : files.WellFormed) (hlf : files.LinkFree)
    (h : files.Leads home folder names) (hproper : ∀ name ∈ names, ProperName name)
    {variant : TypeVariant} (hvariant : (typeName, variant) ∈ variantsBelow files folder release) :
    ∃ inner content executable,
      (home ++ names ++ inner, .file content executable) ∈ files.entries ∧
        (release.isVersioned || !versionsNames.isPrefixOf inner) = true ∧
        withoutSuffix? classSuffix ("/".intercalate inner) = some typeName ∧
        variant = ⟨inner.foldl Path.child folder, release⟩ ∧
        files.read? variant.classFile = some content := by
  obtain ⟨⟨inner, entry⟩, hbelow, hat⟩ := List.mem_filterMap.1 hvariant
  obtain ⟨hinner, hmem⟩ := (h.mem_below_iff hwf hlf hproper).1 hbelow
  obtain ⟨content, executable, rfl, hkept, htype, rfl⟩ := variantAt?_eq_some_iff.1 hat
  exact ⟨inner, content, executable, hmem, hkept, htype, rfl,
    h.read?_foldl_child hwf hlf hinner hmem⟩

end

/-! ## Output folders -/

theorem properName_toString (number : Nat) : ProperName (toString number) := by
  have htext : (toString number).toList = Nat.toDigits 10 number := Nat.toList_repr
  have hdigit : ∀ c ∈ (toString number).toList, c.isDigit = true := by
    rw [htext]
    exact fun c hc => Nat.isDigit_of_mem_toDigits (by decide) (by decide) hc
  refine ⟨fun h => ?_, fun h => ?_, fun h => ?_, fun h => ?_⟩
  · rw [h] at htext
    exact Nat.toDigits_ne_nil htext.symm
  · rw [h] at hdigit
    exact absurd (hdigit '.' (by decide)) (by decide)
  · rw [h] at hdigit
    exact absurd (hdigit '.' (by decide)) (by decide)
  · exact absurd (hdigit '/' h) (by decide)

theorem properName_versions : ∀ name ∈ versionsNames, ProperName name := by
  intro name hname
  rw [versionsNames, List.mem_cons, List.mem_singleton] at hname
  rcases hname with rfl | rfl <;> exact ⟨by decide, by decide, by decide, by decide⟩

/-- The names that lead from an output folder to the overlay of a release. -/
def overlayNames (number : UInt16) : List String := versionsNames ++ [toString number.toNat]

theorem properName_overlay (number : UInt16) : ∀ name ∈ overlayNames number, ProperName name := by
  intro name hname
  rcases List.mem_append.1 hname with hname | hname
  · exact properName_versions name hname
  · rw [List.mem_singleton.1 hname]
    exact properName_toString _

section

variable {home : Address} {output : Path}

theorem mem_overlayFolders {folder : Path} {number : UInt16} :
    (folder, number) ∈ overlayFolders files output ↔
      ∃ name, (name, .folder) ∈ (files.list? (output.child versionsFolder)).getD [] ∧
        overlayOfFolderName name = some number ∧
        folder = (output.child versionsFolder).child name := by
  rw [overlayFolders, List.mem_filterMap]
  constructor
  · rintro ⟨⟨name, entry⟩, hmem, hfound⟩
    dsimp only at hfound
    split at hfound
    · rename_i hfolder
      obtain ⟨_, hnumber, heq⟩ := Option.map_eq_some_iff.1 hfound
      obtain ⟨rfl, rfl⟩ := Prod.mk.inj heq
      have hentry : (some entry).any FileEntry.isFolder = true := hfolder
      obtain rfl := Option.some_inj.1 (Files.isFolder_iff.1 hentry)
      exact ⟨name, hmem, hnumber, rfl⟩
    · cases hfound
  · rintro ⟨name, hmem, hnumber, rfl⟩
    refine ⟨_, hmem, (if_pos rfl).trans ?_⟩
    rw [hnumber]
    rfl

theorem leads_versions (h : files.Leads home output []) :
    files.Leads home (output.child versionsFolder) versionsNames :=
  h.inside properName_versions

theorem leads_overlay (h : files.Leads home output []) (number : UInt16) :
    files.Leads home ((output.child versionsFolder).child (toString number.toNat))
      (overlayNames number) :=
  (leads_versions h).child (properName_toString _)

/-- The variants in an output folder that has overlays, by the places where they stand. -/
theorem variantsOfOutput_eq (hwf : files.WellFormed) (hlf : files.LinkFree)
    (h : files.Leads home output [])
    (hversions : files.entryAt? (home ++ versionsNames) = some .folder) :
    variantsOfOutput files output
      = (files.belowAt home).filterMap
          (fun (names, entry) => variantAt? output .unversioned names entry) ++
        (files.childrenAt (home ++ versionsNames)).flatMap fun (name, entry) =>
          if entry.isFolder then
            (overlayOfFolderName name).toList.flatMap fun number =>
              (files.belowAt (home ++ versionsNames ++ [name])).filterMap fun (names, entry) =>
                variantAt? ((output.child versionsFolder).child name) (.java number) names entry
          else [] := by
  have hhome := hwf.folder_of_below (List.cons_ne_nil _ _) hversions
  have hbelow := h.below_eq hwf hlf (by rwa [List.append_nil])
  have hlist := ((leads_versions h).list?_iff hwf hlf properName_versions).2 ⟨hversions, rfl⟩
  rw [variantsOfOutput, variantsBelow, hbelow, List.append_nil, overlayFolders, hlist,
    Option.getD_some, List.filterMap_eq_flatMap_toList _ (files.childrenAt _), List.flatMap_assoc]
  congr 1
  refine List.flatMap_congr ?_
  rintro ⟨name, entry⟩ hmem
  have hstands := Files.mem_childrenAt.1 hmem
  dsimp only
  split
  · rename_i hfolder
    cases overlayOfFolderName name with
    | none => rfl
    | some number =>
      have hname := hwf.proper_below hstands name List.mem_cons_self
      have hentry := hwf.entryAt?_eq hstands
      rw [Files.isFolder_iff.1 (show (some entry).any FileEntry.isFolder = true from hfolder),
        List.append_assoc] at hentry
      have hoverlay := ((leads_versions h).child hname).below_eq hwf hlf hentry
      rw [← List.append_assoc] at hoverlay
      simp [variantsBelow, hoverlay]
  · rfl

variable {inner : List String} {content : Content} {executable : Bool} {typeName : String}

/-- **A class file of the baseline is an unversioned variant.** -/
theorem mem_variantsOfOutput_baseline (hwf : files.WellFormed) (hlf : files.LinkFree)
    (h : files.Leads home output []) (hinner : inner ≠ [])
    (hmem : (home ++ inner, .file content executable) ∈ files.entries)
    (houtside : ¬ versionsNames <+: inner)
    (htype : withoutSuffix? classSuffix ("/".intercalate inner) = some typeName) :
    (typeName, ⟨inner.foldl Path.child output, .unversioned⟩) ∈ variantsOfOutput files output := by
  rw [← List.append_nil home] at hmem
  refine List.mem_append_left _ (mem_variantsBelow hwf hlf h (by simp) hinner hmem ?_ htype)
  rw [← List.isPrefixOf_iff_prefix, Bool.not_eq_true] at houtside
  rw [houtside]
  rfl

/-- A folder among the overlays that holds something is found in the folder of overlays. -/
theorem mem_list?_versions (hwf : files.WellFormed) (hlf : files.LinkFree)
    (h : files.Leads home output []) {name : String} {entry : FileEntry} (hinner : inner ≠ [])
    (hmem : (home ++ (versionsNames ++ [name]) ++ inner, entry) ∈ files.entries) :
    (name, .folder) ∈ (files.list? (output.child versionsFolder)).getD [] := by
  have hfolder := hwf.folder_of_below hinner (hwf.entryAt?_eq hmem)
  rw [← List.append_assoc] at hfolder
  have hversions := hwf.folder_of_below (List.cons_ne_nil _ _) hfolder
  have hlist := ((leads_versions h).list?_iff hwf hlf properName_versions).2 ⟨hversions, rfl⟩
  rw [hlist]
  exact Files.mem_childrenAt.2 (Files.mem_of_entryAt? (by simp) hfolder)

/-- A class file in a folder that counts as an overlay is a variant. -/
theorem mem_variantsOfOutput_folder (hwf : files.WellFormed) (hlf : files.LinkFree)
    (h : files.Leads home output []) {name : String} {number : UInt16}
    (hname : overlayOfFolderName name = some number) (hinner : inner ≠ [])
    (hmem : (home ++ (versionsNames ++ [name]) ++ inner, .file content executable)
      ∈ files.entries)
    (htype : withoutSuffix? classSuffix ("/".intercalate inner) = some typeName) :
    (typeName, ⟨inner.foldl Path.child ((output.child versionsFolder).child name), .java number⟩)
      ∈ variantsOfOutput files output := by
  have hnames : ∀ other ∈ versionsNames ++ [name], ProperName other := fun other hother =>
    hwf.proper _ _ hmem other (List.mem_append_left _ (List.mem_append_right _ hother))
  have hleads := (leads_versions h).child (hnames name (by simp))
  refine List.mem_append_right _ (List.mem_flatMap.2 ⟨(_, number), ?_,
    mem_variantsBelow hwf hlf hleads hnames hinner hmem rfl htype⟩)
  exact mem_overlayFolders.2 ⟨name, mem_list?_versions hwf hlf h hinner hmem, hname, rfl⟩

/-- **A class file in the overlay of a release is a variant of that release.** -/
theorem mem_variantsOfOutput_overlay (hwf : files.WellFormed) (hlf : files.LinkFree)
    (h : files.Leads home output []) (hinner : inner ≠ []) (number : UInt16)
    (hmem : (home ++ overlayNames number ++ inner, .file content executable) ∈ files.entries)
    (htype : withoutSuffix? classSuffix ("/".intercalate inner) = some typeName) :
    ∃ folder, files.Leads home folder (overlayNames number) ∧
      (typeName, ⟨inner.foldl Path.child folder, .java number⟩)
        ∈ variantsOfOutput files output :=
  ⟨_, leads_overlay h number,
    mem_variantsOfOutput_folder hwf hlf h (number16?_toString number) hinner hmem htype⟩

/-- **An unversioned variant is the class file of the baseline with the name of its type.** -/
theorem exists_of_unversioned (hwf : files.WellFormed) (hlf : files.LinkFree)
    (h : files.Leads home output []) {variant : TypeVariant}
    (hvariant : (typeName, variant) ∈ variantsOfOutput files output)
    (hrelease : variant.release = .unversioned) :
    ∃ inner content executable,
      (home ++ inner, .file content executable) ∈ files.entries ∧
        withoutSuffix? classSuffix ("/".intercalate inner) = some typeName ∧
        files.read? variant.classFile = some content := by
  rcases List.mem_append.1 hvariant with hbaseline | hoverlay
  · obtain ⟨inner, content, executable, hmem, -, htype, -, hread⟩ :=
      exists_of_mem_variantsBelow hwf hlf h (by simp) hbaseline
    rw [List.append_nil] at hmem
    exact ⟨inner, content, executable, hmem, htype, hread⟩
  · obtain ⟨⟨folder, number⟩, -, hbelow⟩ := List.mem_flatMap.1 hoverlay
    have hversioned := release_of_mem_variantsBelow hbelow
    rw [hrelease] at hversioned
    cases hversioned

end

end Validation

end MultiRelease
