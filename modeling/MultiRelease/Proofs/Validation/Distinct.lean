import MultiRelease.Proofs.Files.Enumeration
import MultiRelease.Proofs.Validation.Comparison
import MultiRelease.Proofs.Validation.Variants

/-!
# No class file is found twice

Output folders may overlap, or one may be the overlay of another, and then a class file is found in
several places.  Still, no two variants of a type are bound to the same release and have the same
class file (`Validation.pairwise_variantsOf`).

* Variants are found in folders that are each bound to a release (`Validation.variantFolders`): the
  output folder, bound to none, and the folders of overlays in it.
* Within a folder different files are class files of different types
  (`Validation.pairwise_variantsBelow`).
* Folders that are bound to the same release are different (`Validation.pairwise_variantFolders`).
  Output folders are searched under one spelling each, and the folder of overlays tells by its own
  name and by where it stands which output folder it belongs to.
* So the files of one type in two such folders are different, because they have the same place in
  their folders (`Validation.pairwise_allVariants`).

A class file may well be found twice for different releases, as one of the baseline of an output
folder and as one of an overlay of another.
-/

set_option autoImplicit false

namespace MultiRelease

open Text

/-! ## Variants of one class file -/

/-- The variants are bound to the same release and have the same class file. -/
def TypeVariant.Alike (a b : TypeVariant) : Prop :=
  a.release = b.release ∧ a.classFile.components = b.classFile.components

/-- Variants that precede each other are alike. -/
theorem TypeVariant.alike_of_precedes {a b : TypeVariant} (hab : a.precedes b = true)
    (hba : b.precedes a = true) : a.Alike b := by
  rw [TypeVariant.precedes] at hab hba
  by_cases heq : a.release = b.release
  · rw [if_pos heq] at hab
    rw [if_pos heq.symm] at hba
    exact ⟨heq, Path.same_iff.1 ((Path.same_iff_precedes _ _).2 ⟨hab, hba⟩)⟩
  · rw [if_neg heq] at hab
    rw [if_neg (Ne.symm heq)] at hba
    exact absurd (Release.precedes_antisymm hab hba) heq

namespace Validation

variable {files : Files} {roots : List SourceRoot}

/-- The folders where the variants in an output folder are found, with what they are bound to. -/
def variantFolders (files : Files) (output : Path) : List (Path × Release) :=
  (output, .unversioned) ::
    (overlayFolders files output).map fun (folder, number) => (folder, .java number)

/-- All variants are found folder by folder. -/
theorem allVariants_eq (files : Files) (roots : List SourceRoot) :
    allVariants files roots
      = ((outputFolders roots).flatMap (variantFolders files)).flatMap fun (folder, release) =>
          variantsBelow files folder release := by
  rw [allVariants, List.flatMap_assoc]
  congr 1
  funext output
  rw [variantsOfOutput, variantFolders, List.flatMap_cons, List.flatMap_map]

/-- A variant is found under the name of its class file. -/
theorem exists_names_of_mem_variantsBelow (hwf : files.WellFormed) {folder : Path}
    {release : Release} {typeName : String} {variant : TypeVariant}
    (h : (typeName, variant) ∈ variantsBelow files folder release) :
    ∃ names, (∀ name ∈ names, ProperName name) ∧
      withoutSuffix? classSuffix ("/".intercalate names) = some typeName ∧
      variant.release = release ∧
      variant.classFile.components = folder.components ++ names.map .name := by
  obtain ⟨⟨names, entry⟩, hbelow, hat⟩ := List.mem_filterMap.1 h
  have hproper := hwf.proper_of_mem_below hbelow
  obtain ⟨_, _, -, -, htype, rfl⟩ := variantAt?_eq_some_iff.1 hat
  exact ⟨names, hproper, htype, rfl, Path.components_foldl_child hproper folder⟩

/-- **The class files in a folder are of different types.** -/
theorem pairwise_variantsBelow (hwf : files.WellFormed) (hlisted : files.ListedOnce) (folder : Path)
    (release : Release) :
    (variantsBelow files folder release).Pairwise fun a b => a.1 ≠ b.1 := by
  have hbelow := List.Pairwise.and_mem.1 (hlisted.pairwise_below folder)
  refine List.pairwise_filterMap.2 (hbelow.imp ?_)
  rintro ⟨names, entry⟩ ⟨others, other⟩ ⟨hnames, hothers, hne⟩ ⟨typeName, variant⟩ hvariant
    ⟨otherName, otherVariant⟩ hotherVariant
  rintro rfl
  obtain ⟨_, _, -, -, htype, -⟩ := variantAt?_eq_some_iff.1 hvariant
  obtain ⟨_, _, -, -, hotherType, -⟩ := variantAt?_eq_some_iff.1 hotherVariant
  exact hne (eq_of_intercalate (hwf.proper_of_mem_below hnames) (hwf.proper_of_mem_below hothers)
    (eq_of_withoutSuffix? htype hotherType))

/-! ## Folders of variants -/

/-- No output folder is searched under two spellings. -/
theorem pairwise_outputFolders (roots : List SourceRoot) :
    (outputFolders roots).Pairwise fun a b => a.components ≠ b.components := by
  have hpairwise := @pairwise_sortedDistinct Path Path.precedes Path.same
    (fun _ _ _ => Path.precedes_trans) (fun a b => by simpa using Path.precedes_total a b)
    Path.same_iff_precedes (roots.map (·.outputFolder))
  refine hpairwise.imp fun hne heq => ?_
  rw [Path.same_iff.2 heq] at hne
  cases hne

/-- Every output folder is searched, under some spelling. -/
theorem exists_outputFolder_same {roots : List SourceRoot} {output : Path}
    (h : output ∈ roots.map (·.outputFolder)) :
    ∃ folder ∈ outputFolders roots, output.same folder = true := by
  obtain ⟨folder, hfolder, hcomponents⟩ := exists_mem_sortedDistinct Path.components
    (fun _ _ => Path.same_iff.1) h
  exact ⟨folder, hfolder, Path.same_iff.2 hcomponents.symm⟩

theorem components_versions (output : Path) : (output.child versionsFolder).components
    = output.components ++ [.name "META-INF", .name "versions"] := by
  have hfolder : versionsFolder = "/".intercalate versionsNames := by decide
  have hne : versionsNames ≠ [] := List.cons_ne_nil _ _
  rw [hfolder, output.components_child_intercalate hne properName_versions]
  rfl

/-- An overlay folder stands in the folder of overlays. -/
theorem exists_name_of_mem_overlayFolders (hwf : files.WellFormed) {output folder : Path}
    {number : UInt16} (h : (folder, number) ∈ overlayFolders files output) :
    ∃ name, folder.components
      = output.components ++ [.name "META-INF", .name "versions", .name name] := by
  obtain ⟨name, hmem, -, rfl⟩ := mem_overlayFolders.1 h
  refine ⟨name, ?_⟩
  rw [Path.components_child _ (hwf.proper_of_mem_list? hmem), components_versions]
  simp

theorem pairwise_overlayFolders (hwf : files.WellFormed) (hlisted : files.ListedOnce)
    (output : Path) :
    (overlayFolders files output).Pairwise fun a b => a.1.components ≠ b.1.components := by
  have hlist :=
    List.Pairwise.and_mem.1 (hlisted.pairwise_list? (output.child versionsFolder))
  refine List.pairwise_filterMap.2 (hlist.imp ?_)
  rintro ⟨name, entry⟩ ⟨other, otherEntry⟩ ⟨hname, hother, hne⟩ ⟨folder, number⟩ hfolder
    ⟨otherFolder, otherNumber⟩ hotherFolder
  dsimp only at hfolder hotherFolder hne ⊢
  split at hfolder
  · split at hotherFolder
    · obtain ⟨_, -, heq⟩ := Option.map_eq_some_iff.1 hfolder
      obtain ⟨_, -, hotherEq⟩ := Option.map_eq_some_iff.1 hotherFolder
      obtain ⟨rfl, -⟩ := Prod.mk.inj heq
      obtain ⟨rfl, -⟩ := Prod.mk.inj hotherEq
      rw [Path.components_child _ (hwf.proper_of_mem_list? hname),
        Path.components_child _ (hwf.proper_of_mem_list? hother)]
      simpa using hne
    · cases hotherFolder
  · cases hfolder

theorem pairwise_variantFolders_output (hwf : files.WellFormed) (hlisted : files.ListedOnce)
    (output : Path) : (variantFolders files output).Pairwise fun a b =>
      ¬ (a.2 = b.2 ∧ a.1.components = b.1.components) := by
  refine List.pairwise_cons.2 ⟨fun place hplace => ?_, ?_⟩
  · obtain ⟨_, -, rfl⟩ := List.mem_map.1 hplace
    rintro ⟨hrelease, -⟩
    cases hrelease
  · exact List.pairwise_map.2 ((pairwise_overlayFolders hwf hlisted output).imp
      fun hne heq => hne heq.2)

/-- **Folders that are bound to the same release are different.** -/
theorem pairwise_variantFolders (hwf : files.WellFormed) (hlisted : files.ListedOnce)
    (roots : List SourceRoot) :
    ((outputFolders roots).flatMap (variantFolders files)).Pairwise fun a b =>
      ¬ (a.2 = b.2 ∧ a.1.components = b.1.components) := by
  refine List.pairwise_flatMap.2 ⟨fun output _ => pairwise_variantFolders_output hwf hlisted output,
    (pairwise_outputFolders roots).imp fun {output other} hne => ?_⟩
  rintro ⟨folder, release⟩ hfolder ⟨otherFolder, otherRelease⟩ hother ⟨hrelease, hcomponents⟩
  dsimp only at hrelease hcomponents
  rcases List.mem_cons.1 hfolder with heq | hoverlay
  · obtain ⟨rfl, rfl⟩ := Prod.mk.inj heq
    rcases List.mem_cons.1 hother with hotherEq | hotherOverlay
    · obtain ⟨rfl, -⟩ := Prod.mk.inj hotherEq
      exact hne hcomponents
    · obtain ⟨_, -, hotherEq⟩ := List.mem_map.1 hotherOverlay
      obtain ⟨-, rfl⟩ := Prod.mk.inj hotherEq
      cases hrelease
  · obtain ⟨⟨_, number⟩, hmem, heq⟩ := List.mem_map.1 hoverlay
    obtain ⟨rfl, rfl⟩ := Prod.mk.inj heq
    rcases List.mem_cons.1 hother with hotherEq | hotherOverlay
    · obtain ⟨-, rfl⟩ := Prod.mk.inj hotherEq
      cases hrelease
    · obtain ⟨⟨_, otherNumber⟩, hotherMem, hotherEq⟩ := List.mem_map.1 hotherOverlay
      obtain ⟨rfl, rfl⟩ := Prod.mk.inj hotherEq
      -- both are three steps below their output folders
      obtain ⟨name, hname⟩ := exists_name_of_mem_overlayFolders hwf hmem
      obtain ⟨otherName, hotherName⟩ := exists_name_of_mem_overlayFolders hwf hotherMem
      rw [hname, hotherName] at hcomponents
      exact hne (List.append_inj_left' hcomponents rfl)

/-! ## All variants -/

/-- **No class file is found twice** for the same type and release. -/
theorem pairwise_allVariants (hwf : files.WellFormed) (hlisted : files.ListedOnce)
    (roots : List SourceRoot) :
    (allVariants files roots).Pairwise fun a b => ¬ (a.1 = b.1 ∧ a.2.Alike b.2) := by
  rw [allVariants_eq]
  refine List.pairwise_flatMap.2 ⟨?_, (pairwise_variantFolders hwf hlisted roots).imp ?_⟩
  · rintro ⟨folder, release⟩ -
    exact (pairwise_variantsBelow hwf hlisted folder release).imp fun hne heq => hne heq.1
  · rintro ⟨folder, release⟩ ⟨otherFolder, otherRelease⟩ hne ⟨typeName, variant⟩ hvariant
      ⟨_, other⟩ hother ⟨rfl, hrelease, hcomponents⟩
    obtain ⟨names, hnames, htype, rfl, hclass⟩ := exists_names_of_mem_variantsBelow hwf hvariant
    obtain ⟨others, hothers, hotherType, rfl, hotherClass⟩ :=
      exists_names_of_mem_variantsBelow hwf hother
    -- class files of one type have the same place in their folders
    obtain rfl := eq_of_intercalate hnames hothers (eq_of_withoutSuffix? htype hotherType)
    dsimp only at hrelease hcomponents
    rw [hclass, hotherClass] at hcomponents
    exact hne ⟨hrelease, List.append_cancel_right hcomponents⟩

/-- **No variant of a type is found twice.** -/
theorem pairwise_variantsOf (hwf : files.WellFormed) (hlisted : files.ListedOnce)
    (roots : List SourceRoot) (typeName : String) :
    (variantsOf files roots typeName).Pairwise fun a b => ¬ a.Alike b := by
  have hpairwise := List.Pairwise.and_mem.1
    ((pairwise_allVariants hwf hlisted roots).filter (·.1 = typeName))
  rw [variantsOf, getD_collectVariants]
  refine List.pairwise_map.2 (hpairwise.imp ?_)
  rintro a b ⟨ha, hb, hne⟩ halike
  have hname := of_decide_eq_true (List.mem_filter.1 ha).2
  have hother := of_decide_eq_true (List.mem_filter.1 hb).2
  exact hne ⟨hname.trans hother.symm, halike⟩

end Validation

end MultiRelease
