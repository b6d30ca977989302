import MultiRelease.Proofs.Files.Enumeration
import MultiRelease.Proofs.Validation.Exactness

/-!
# The order of roots and files does not matter

A build may list its roots in any order, and a file system may enumerate its folders in any order
(`Reordered`).  A validation reports the same problems in the same order, and counts the same
(`validate_reordered`).

The argument follows a validation from step to step, and relates what is found in one order to what
is found in the other:

* Up to the spelling of their paths, the same variants are found (`Reordered.exists_match`).
* Sorting brings them into the same order, as no two of them are alike (`Reordered.forall₂_sorted`).
  Types are in order anyway, since they are collected by name (`Reordered.forall₂_entries`).
* From there on, a validation goes through both in step: comparisons and losses are related one by
  one (`forall₂_comparisons`, `forall₂_losses`).

What a problem is reported against is the only place where the order of the roots is seen, because
the first root that has a source file is taken.  That is why roots of one release that have the
source file of the same type must have the same source folder (`Unrivalled`).  Then it does not
matter which of them is the first (`same_findSourceFile`).
-/

set_option autoImplicit false

namespace MultiRelease

/-- The problems say the same, except that their resources may be spelled in different ways. -/
structure Problem.Same (a b : Problem) : Prop where
  resource : a.resource.same b.resource = true
  range : a.range = b.range
  message : a.message = b.message
  severity : a.severity = b.severity

/-! ## Variants that are alike -/

namespace TypeVariant

theorem Alike.symm {a b : TypeVariant} (h : a.Alike b) : b.Alike a := ⟨h.1.symm, h.2.symm⟩

theorem Alike.trans {a b c : TypeVariant} (hab : a.Alike b) (hbc : b.Alike c) : a.Alike c :=
  ⟨hab.1.trans hbc.1, hab.2.trans hbc.2⟩

/-- How paths are spelled does not count for the order of variants. -/
theorem precedes_congr {a b a' b' : TypeVariant} (h : a.Alike b) (h' : a'.Alike b') :
    a.precedes a' = b.precedes b' := by
  rw [precedes, precedes, Path.precedes, Path.precedes, h.1, h'.1, h.2, h'.2]

/-- The variants are alike, and their class files hold the same. -/
structure Matches (files other : Files) (a b : TypeVariant) : Prop where
  alike : a.Alike b
  read : files.read? a.classFile = other.read? b.classFile

theorem Matches.symm {files other : Files} {a b : TypeVariant} (h : Matches files other a b) :
    Matches other files b a :=
  ⟨h.alike.symm, h.read.symm⟩

/-- Variants that match are read as the same type. -/
theorem Matches.typeOf?_eq {files other : Files} {a b : TypeVariant}
    (h : Matches files other a b) : Validation.typeOf? files a = Validation.typeOf? other b := by
  rw [Validation.typeOf?, Validation.typeOf?, h.read]

end TypeVariant

namespace Validation

variable {files other : Files} {roots others : List SourceRoot}

/-- The same tree and the same roots, each in some order. -/
structure Reordered (files other : Files) (roots others : List SourceRoot) : Prop where
  tree : files.SameTree other
  roots : roots.Perm others

/-- The same type in two trees, with its variants in whatever order. -/
structure TypesMatch (files other : Files) (a b : String × List TypeVariant) : Prop where
  typeName : a.1 = b.1
  variants : List.Forall₂ (TypeVariant.Matches files other)
    (a.2.mergeSort TypeVariant.precedes) (b.2.mergeSort TypeVariant.precedes)

/-- The same comparison of variants that are alike. -/
structure Comparison.Matches (a b : Comparison) : Prop where
  typeName : a.typeName = b.typeName
  variant : a.variant.Alike b.variant
  baseline : a.baseline = b.baseline
  type : a.type = b.type

/-- The same loss in variants that are alike. -/
structure Loss.Matches (a b : Loss) : Prop where
  typeName : a.typeName = b.typeName
  variant : a.variant.Alike b.variant
  kind : a.kind = b.kind
  key : a.key = b.key

/-! ## The same variants are found -/

/-- Folders that are searched in one tree are searched in the other one. -/
theorem exists_variantFolder (h : files.SameTree other) (hwf : files.WellFormed)
    {output output' folder : Path} {release : Release} (hsame : output.same output' = true)
    (hfolder : (folder, release) ∈ variantFolders files output) :
    ∃ folder', (folder', release) ∈ variantFolders other output' ∧ folder.same folder' = true := by
  rcases List.mem_cons.1 hfolder with heq | hoverlay
  · obtain ⟨rfl, rfl⟩ := Prod.mk.inj heq
    exact ⟨output', List.mem_cons_self, hsame⟩
  · obtain ⟨⟨_, number⟩, hmem, heq⟩ := List.mem_map.1 hoverlay
    obtain ⟨rfl, rfl⟩ := Prod.mk.inj heq
    obtain ⟨name, hlisted, hnumber, rfl⟩ := mem_overlayFolders.1 hmem
    have hversions : (output.child versionsFolder).same (output'.child versionsFolder) = true :=
      Path.same_iff.2 (Path.components_join_congr (Path.same_iff.1 hsame) _)
    refine ⟨(output'.child versionsFolder).child name, List.mem_cons_of_mem _ (List.mem_map.2
      ⟨(_, number), mem_overlayFolders.2 ⟨name, ?_, hnumber, rfl⟩, rfl⟩), ?_⟩
    · exact h.mem_list? hwf hversions hlisted
    · exact Path.same_iff.2 (Path.components_join_congr (Path.same_iff.1 hversions) _)

/-- Class files that are found in one tree are found in the other one. -/
theorem exists_variantBelow (h : files.SameTree other) (hwf : files.WellFormed)
    {folder folder' : Path} {release : Release} (hsame : folder.same folder' = true)
    {typeName : String} {variant : TypeVariant}
    (hvariant : (typeName, variant) ∈ variantsBelow files folder release) :
    ∃ variant', (typeName, variant') ∈ variantsBelow other folder' release ∧
      variant.Matches files other variant' := by
  obtain ⟨⟨names, entry⟩, hbelow, hat⟩ := List.mem_filterMap.1 hvariant
  have hproper := hwf.proper_of_mem_below hbelow
  obtain ⟨content, executable, rfl, hkept, htype, rfl⟩ := variantAt?_eq_some_iff.1 hat
  refine ⟨⟨names.foldl Path.child folder', release⟩, List.mem_filterMap.2
    ⟨_, h.mem_below hwf hsame hbelow,
      variantAt?_eq_some_iff.2 ⟨content, executable, rfl, hkept, htype, rfl⟩⟩, ⟨rfl, ?_⟩, ?_⟩
  · rw [Path.components_foldl_child hproper, Path.components_foldl_child hproper,
      Path.same_iff.1 hsame]
  · exact h.read?_foldl_child hwf hsame
      (ne_nil_of_className (withoutSuffix?_eq_some_iff.1 htype)) hproper

namespace Reordered

theorem symm (h : Reordered files other roots others) : Reordered other files others roots :=
  ⟨h.tree.symm, h.roots.symm⟩

theorem listedOnce (h : Reordered files other roots others) (hlisted : files.ListedOnce) :
    other.ListedOnce :=
  (h.tree.entries.map _).nodup_iff.1 hlisted

/-- The same output folders are searched. -/
theorem exists_outputFolder (h : Reordered files other roots others) {output : Path}
    (houtput : output ∈ outputFolders roots) :
    ∃ output' ∈ outputFolders others, output.same output' = true := by
  have hmem : output ∈ others.map (·.outputFolder) :=
    (h.roots.map _).mem_iff.1 (mem_of_mem_sortedDistinct houtput)
  exact exists_outputFolder_same hmem

section

variable (h : Reordered files other roots others) (hwf : files.WellFormed)
  (hlisted : files.ListedOnce) {typeName : String}
include h hwf

/-- **Whatever is found of a type is found in any order.** -/
theorem exists_match {variant : TypeVariant}
    (hvariant : variant ∈ variantsOf files roots typeName) :
    ∃ variant' ∈ variantsOf other others typeName, variant.Matches files other variant' := by
  rw [mem_variantsOf, allVariants_eq] at hvariant
  obtain ⟨⟨folder, release⟩, hfolder, hvariant⟩ := List.mem_flatMap.1 hvariant
  obtain ⟨output, houtput, hfolder⟩ := List.mem_flatMap.1 hfolder
  obtain ⟨output', houtput', hsame⟩ := h.exists_outputFolder houtput
  obtain ⟨folder', hfolder', hsame'⟩ := exists_variantFolder h.tree hwf hsame hfolder
  obtain ⟨variant', hvariant', hmatches⟩ := exists_variantBelow h.tree hwf hsame' hvariant
  refine ⟨variant', mem_variantsOf.2 ?_, hmatches⟩
  rw [allVariants_eq]
  exact List.mem_flatMap.2 ⟨(folder', release),
    List.mem_flatMap.2 ⟨output', houtput', hfolder'⟩, hvariant'⟩

omit h in
include hlisted in
theorem pairwise_sorted :
    ((variantsOf files roots typeName).mergeSort TypeVariant.precedes).Pairwise
      fun a b => a.precedes b = true ∧ ¬ a.Alike b := by
  have hsymm : ∀ {a b : TypeVariant}, ¬ a.Alike b → ¬ b.Alike a := fun hne h => hne h.symm
  exact (List.pairwise_mergeSort TypeVariant.precedes_trans TypeVariant.precedes_total _).and
    (((List.mergeSort_perm _ _).pairwise_iff hsymm).2
      (pairwise_variantsOf hwf hlisted roots typeName))

include hlisted in
/-- **Sorting brings the variants of a type into the same order.** -/
theorem forall₂_sorted : List.Forall₂ (TypeVariant.Matches files other)
    ((variantsOf files roots typeName).mergeSort TypeVariant.precedes)
    ((variantsOf other others typeName).mergeSort TypeVariant.precedes) := by
  have hwf' := h.tree.wellFormed hwf
  refine forall₂_of_sorted (fun a b hab hba => ?_) (fun a b a' b' hab hab' => ?_)
    (pairwise_sorted hwf hlisted) (pairwise_sorted hwf' (h.listedOnce hlisted))
    (fun variant hvariant => ?_) fun variant hvariant => ?_
  · exact hab.2 (TypeVariant.alike_of_precedes hab.1 hba.1)
  · have hiff : a.Alike a' ↔ b.Alike b' :=
      ⟨fun halike => hab.alike.symm.trans (halike.trans hab'.alike),
        fun halike => hab.alike.trans (halike.trans hab'.alike.symm)⟩
    rw [TypeVariant.precedes_congr hab.alike hab'.alike, hiff]
  · obtain ⟨variant', hvariant', hmatches⟩ :=
      h.exists_match hwf (List.mem_mergeSort.1 hvariant)
    exact ⟨variant', List.mem_mergeSort.2 hvariant', hmatches⟩
  · obtain ⟨variant', hvariant', hmatches⟩ :=
      h.symm.exists_match hwf' (List.mem_mergeSort.1 hvariant)
    exact ⟨variant', List.mem_mergeSort.2 hvariant', hmatches.symm⟩

theorem mem_entries {variants : List TypeVariant}
    (hentry : (typeName, variants) ∈ (collectVariants files roots).entries) :
    (typeName, variantsOf other others typeName) ∈ (collectVariants other others).entries := by
  obtain ⟨hne, rfl⟩ := mem_entries_iff.1 hentry
  obtain ⟨variant, hvariant⟩ := List.exists_mem_of_ne_nil _ hne
  obtain ⟨variant', hvariant', -⟩ := h.exists_match hwf hvariant
  exact entry_of_mem hvariant'

include hlisted in
/-- **The same types are found, in the same order.** -/
theorem forall₂_entries : List.Forall₂ (TypesMatch files other)
    (collectVariants files roots).entries (collectVariants other others).entries := by
  have hwf' := h.tree.wellFormed hwf
  refine forall₂_of_sorted (fun a b hab hba => String.lt_irrefl _ (String.lt_trans hab hba))
    (fun a b a' b' hab hab' => by rw [hab.typeName, hab'.typeName])
    (sorted_collectVariants files roots) (sorted_collectVariants other others)
    (fun entry hentry => ?_) fun entry hentry => ?_
  · refine ⟨_, h.mem_entries hwf hentry, rfl, ?_⟩
    rw [(mem_entries_iff.1 hentry).2]
    exact h.forall₂_sorted hwf hlisted
  · refine ⟨_, h.symm.mem_entries hwf' hentry, rfl, ?_⟩
    rw [(mem_entries_iff.1 hentry).2]
    exact h.forall₂_sorted hwf hlisted

end

end Reordered

/-! ## The same comparisons are made -/

/-- Variants that match are compared alike, or neither of them is. -/
theorem rel_comparison? {variant variant' : TypeVariant} (h : variant.Matches files other variant')
    (typeName : String) (baseline : BinaryType) :
    Option.Rel Comparison.Matches (comparison? files typeName baseline variant)
      (comparison? other typeName baseline variant') := by
  rw [comparison?, comparison?, h.alike.1, h.typeOf?_eq]
  cases variant'.release with
  | unversioned => exact .none
  | java number =>
    cases typeOf? other variant' with
    | none => exact .none
    | some type => exact .some ⟨rfl, h.alike, rfl, rfl⟩

theorem forall₂_comparisonsOfType {typeName : String} {variants variants' : List TypeVariant}
    (h : List.Forall₂ (TypeVariant.Matches files other) (variants.mergeSort TypeVariant.precedes)
      (variants'.mergeSort TypeVariant.precedes)) :
    List.Forall₂ Comparison.Matches (comparisonsOfType files typeName variants)
      (comparisonsOfType other typeName variants') := by
  rw [comparisonsOfType, comparisonsOfType]
  generalize variants.mergeSort TypeVariant.precedes = sorted at h ⊢
  generalize variants'.mergeSort TypeVariant.precedes = sorted' at h ⊢
  cases h with
  | nil => exact .nil
  | cons hanchor hlater =>
    dsimp only
    rw [hanchor.typeOf?_eq]
    cases typeOf? other _ with
    | none => exact .nil
    | some baseline =>
      refine List.rel_filterMap ?_ hlater
      exact fun _ _ hmatches => rel_comparison? hmatches typeName baseline

namespace Reordered

/-- **The same comparisons are made.** -/
theorem forall₂_comparisons (h : Reordered files other roots others) (hwf : files.WellFormed)
    (hlisted : files.ListedOnce) :
    List.Forall₂ Comparison.Matches (comparisonsOf files roots) (comparisonsOf other others) := by
  refine List.rel_flatMap (h.forall₂_entries hwf hlisted) ?_
  rintro ⟨typeName, variants⟩ ⟨_, variants'⟩ ⟨rfl, hvariants⟩
  exact forall₂_comparisonsOfType hvariants

end Reordered

/-- Comparisons of variants that are alike show the same. -/
theorem Comparison.Matches.forall₂_losses {a b : Comparison} (h : a.Matches b) :
    List.Forall₂ Loss.Matches a.losses b.losses := by
  have hlosses : b.losses = a.losses.map fun loss => { loss with variant := b.variant } := by
    simp only [Comparison.losses, h.typeName, h.baseline, h.type, List.map_flatMap, List.map_map,
      Function.comp_def]
  rw [hlosses, List.forall₂_map_right_iff]
  refine List.forall₂_same.2 fun loss hloss => ⟨rfl, ?_, rfl, rfl⟩
  rw [(mem_losses.1 hloss).2.1]
  exact h.variant

namespace Reordered

/-- **The same is lost.** -/
theorem forall₂_losses (h : Reordered files other roots others) (hwf : files.WellFormed)
    (hlisted : files.ListedOnce) :
    List.Forall₂ Loss.Matches (lossesOf files roots) (lossesOf other others) :=
  List.rel_flatMap (h.forall₂_comparisons hwf hlisted) fun _ _ => Comparison.Matches.forall₂_losses

end Reordered

/-! ## The same source files are found -/

/-- Roots that are bound to the release of a loss and contain the source file of its type have the
same source folder. -/
def Loss.Unrivalled (files : Files) (roots : List SourceRoot) (loss : Loss) : Prop :=
  ∀ root ∈ roots, ∀ rival ∈ roots,
    hasSource files loss.typeName loss.variant.release root = true →
    hasSource files loss.typeName loss.variant.release rival = true →
    root.sourceFolder.same rival.sourceFolder = true

namespace Reordered

/-- **A loss is reported against the same file.** -/
theorem same_findSourceFile (h : Reordered files other roots others) (hwf : files.WellFormed)
    {a b : Loss} (hmatches : a.Matches b) (hunrivalled : a.Unrivalled files roots) {number : UInt16}
    (hnumber : a.variant.release = .java number) :
    ((findSourceFile files roots a.typeName a.variant.release).getD a.variant.classFile).same
      ((findSourceFile other others b.typeName b.variant.release).getD b.variant.classFile)
      = true := by
  have htests : hasSource other = hasSource files := by
    funext typeName release root
    rw [hasSource, hasSource, h.tree.isFile_eq hwf]
  rw [← hmatches.typeName, ← hmatches.variant.1, findSourceFile_eq hnumber,
    findSourceFile_eq hnumber, htests]
  cases hfind : roots.find? (hasSource files a.typeName a.variant.release) with
  | none =>
    have hnone : others.find? (hasSource files a.typeName a.variant.release) = none :=
      List.find?_eq_none.2 fun root hroot =>
        List.find?_eq_none.1 hfind root (h.roots.mem_iff.2 hroot)
    rw [hnone]
    exact Path.same_iff.2 hmatches.variant.2
  | some root =>
    have hroot := List.mem_of_find?_eq_some hfind
    have hsome : (others.find? (hasSource files a.typeName a.variant.release)).isSome :=
      List.find?_isSome.2 ⟨root, h.roots.mem_iff.1 hroot, List.find?_some hfind⟩
    obtain ⟨rival, hrival⟩ := Option.isSome_iff_exists.1 hsome
    have hsame := hunrivalled root hroot rival
      (h.roots.mem_iff.2 (List.mem_of_find?_eq_some hrival)) (List.find?_some hfind)
      (List.find?_some hrival)
    rw [hrival]
    exact Path.same_iff.2 (Path.components_join_congr (Path.same_iff.1 hsame) _)

/-- Losses of variants that are alike are reported the same. -/
theorem same_report (h : Reordered files other roots others) (hwf : files.WellFormed)
    {a b : Loss} (hmatches : a.Matches b) (hunrivalled : a.Unrivalled files roots) {number : UInt16}
    (hnumber : a.variant.release = .java number) :
    (a.report files roots).Same (b.report other others) where
  resource := h.same_findSourceFile hwf hmatches hunrivalled hnumber
  range := rfl
  message := by
    rw [Loss.report, Loss.report, hmatches.typeName, hmatches.kind, hmatches.key,
      hmatches.variant.1]
  severity := rfl

end Reordered

/-! ## Validation -/

/-- How many types have several variants. -/
theorem multiReleaseTypes_validateTypes {entries : List (String × List TypeVariant)} :
    ∀ {session : Session}, (validateTypes files roots entries session).1.multiReleaseTypes
      = (entries.map (·.2.length)).countP (2 ≤ ·) := by
  induction entries with
  | nil => exact fun {_} => rfl
  | cons entry entries ih =>
    intro session
    obtain ⟨typeName, variants⟩ := entry
    rw [validateTypes, List.map_cons, List.countP_cons]
    split
    · rename_i hsingle
      have hcount : ¬ decide (2 ≤ variants.length) = true := by
        rw [decide_eq_true_eq]
        exact Nat.not_le.2 hsingle
      rw [ih, if_neg hcount, Nat.add_zero]
    · rename_i hseveral
      rw [if_pos (decide_eq_true (Nat.not_lt.1 hseveral))]
      exact congrArg (· + 1) ih

theorem Summary.eq_of_counts {a b : Summary}
    (htypes : a.multiReleaseTypes = b.multiReleaseTypes)
    (hcomparisons : a.comparisons = b.comparisons) (hproblems : a.problems = b.problems) :
    a = b := by
  cases a
  cases b
  simp_all

/-- **The order of roots and files does not matter for a validation.** -/
theorem validate_reordered (htree : files.SameTree other) (hroots : roots.Perm others)
    (hwf : files.WellFormed) (hlisted : files.ListedOnce)
    (hsources : ∀ loss : Loss, loss.Holds files roots → loss.Unrivalled files roots)
    (session session' : Session) :
    List.Forall₂ Problem.Same (validate files roots session).2.1
        (validate other others session').2.1 ∧
      (validate files roots session).1 = (validate other others session').1 := by
  have h : Reordered files other roots others := ⟨htree, hroots⟩
  have hproblems : List.Forall₂ Problem.Same (validate files roots session).2.1
      (validate other others session').2.1 := by
    rw [problems_eq_map_losses, problems_eq_map_losses, List.forall₂_map_left_iff,
      List.forall₂_map_right_iff]
    have hlosses := (List.forall₂_and_left _ _).2
      ⟨fun loss hloss => (mem_lossesOf hwf hlisted).1 hloss, h.forall₂_losses hwf hlisted⟩
    refine hlosses.imp fun a b ⟨hholds, hmatches⟩ => ?_
    obtain ⟨_, _, hcompared, -⟩ := id hholds
    obtain ⟨number, hnumber⟩ := hcompared.versioned
    exact h.same_report hwf hmatches (hsources a hholds) hnumber
  have htypes : (validate files roots session).1.multiReleaseTypes
      = (validate other others session').1.multiReleaseTypes := by
    have hlengths : (collectVariants files roots).entries.map (·.2.length)
        = (collectVariants other others).entries.map (·.2.length) := by
      rw [← List.forall₂_eq_eq_eq, List.forall₂_map_left_iff, List.forall₂_map_right_iff]
      refine (h.forall₂_entries hwf hlisted).imp fun a b hmatches => ?_
      simpa using hmatches.variants.length_eq
    rw [validate, validate, multiReleaseTypes_validateTypes, multiReleaseTypes_validateTypes,
      hlengths]
  have hcomparisons : (validate files roots session).1.comparisons
      = (validate other others session').1.comparisons := by
    rw [comparisons_validate, comparisons_validate, (h.forall₂_comparisons hwf hlisted).length_eq]
  have hcount : (validate files roots session).1.problems
      = (validate other others session').1.problems := by
    rw [validate, validate, summary_validateTypes.2, summary_validateTypes.2]
    exact hproblems.length_eq
  exact ⟨hproblems, Summary.eq_of_counts htypes hcomparisons hcount⟩

/-- The output folder with a loss, enumerated backwards. -/
def reversedOutput : Files := { lossyOutput with entries := lossyOutput.entries.reverse }

theorem validate_reordered_sample :
    lossyOutput.SameTree reversedOutput ∧ sampleRoots.Perm sampleRoots.reverse ∧
      lossyOutput.WellFormed ∧ lossyOutput.ListedOnce ∧
      (∀ loss : Loss, loss.Holds lossyOutput sampleRoots →
        loss.Unrivalled lossyOutput sampleRoots) ∧
      List.Forall₂ Problem.Same (validate lossyOutput sampleRoots {}).2.1
        (validate reversedOutput sampleRoots.reverse {}).2.1 ∧
      (validate lossyOutput sampleRoots {}).1
        = (validate reversedOutput sampleRoots.reverse {}).1 := by
  have htree : lossyOutput.SameTree reversedOutput := ⟨(List.reverse_perm _).symm, rfl⟩
  have hroots : sampleRoots.Perm sampleRoots.reverse := (List.reverse_perm _).symm
  have hsources : ∀ loss : Loss, loss.Holds lossyOutput sampleRoots →
      loss.Unrivalled lossyOutput sampleRoots := by
    intro loss _ root hroot rival hrival htest hrivalTest
    -- the roots have different releases
    have hdistinct : ∀ root ∈ sampleRoots, ∀ rival ∈ sampleRoots, root.release = rival.release →
        root.sourceFolder.same rival.sourceFolder = true := by decide
    rw [hasSource, Bool.and_eq_true, decide_eq_true_eq] at htest hrivalTest
    exact hdistinct root hroot rival hrival (htest.1.trans hrivalTest.1.symm)
  exact ⟨htree, hroots, wellFormed_lossyOutput, listedOnce_lossyOutput, hsources,
    validate_reordered htree hroots wellFormed_lossyOutput listedOnce_lossyOutput hsources {} {}⟩

end Validation

end MultiRelease
