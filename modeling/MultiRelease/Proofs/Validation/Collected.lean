import Mathlib.Data.List.Forall2
import MultiRelease.Proofs.Validation.Distinct

/-!
# Every class file is collected once

The roots of a build may share an output folder, and then the folder is searched once.  What stands
there as a class file is said here without the search (`ClassPlace.Stands`): every class file
outside the folder of overlays, and every class file in a folder of overlays whose name is a number.
Anything else that the output folder holds does not count.

`collectVariants_exact` matches these places with the variants that are collected, one by one:

* whatever is found stands at such a place (`exists_place`);
* whatever stands at such a place is found (`ClassPlace.Stands.exists_found`);
* a variant that is found comes from one place only (`ClassPlace.IsFoundAs.unique`), and nothing is
  found twice (`pairwise_collected`).

That nothing is found twice was shown for any output folders.  What is left is to follow the search
through the one that there is, and to put the four together (`exists_matching`).  The output folder
may be spelled in several ways, of which one is used for the search, so places and what is found at
them are carried from one spelling to another (`ClassPlace.Stands.of_same`,
`ClassPlace.IsFoundAs.of_same`).
-/

set_option autoImplicit false

namespace MultiRelease

/-- A list is matched with all that has some property, if every member stands for one such thing,
every such thing has a member, and no two members stand for the same. -/
theorem exists_matching {α β : Type} {p : α → Prop} {r : α → β → Prop} {ys : List β}
    (hsound : ∀ y ∈ ys, ∃ x, p x ∧ r x y) (hcomplete : ∀ x, p x → ∃ y ∈ ys, r x y)
    (hunique : ∀ x x' y, r x y → r x' y → x = x')
    (honce : ys.Pairwise fun y y' => ∀ x, r x y → ¬ r x y') :
    ∃ xs : List α, xs.Nodup ∧ (∀ x, x ∈ xs ↔ p x) ∧ List.Forall₂ r xs ys := by
  choose f hp hr using hsound
  have hys : ys.attach.map (·.1) = ys := ys.attach_map_subtype_val
  refine ⟨ys.attach.map fun y => f y.1 y.2, ?_, fun x => ⟨fun hmem => ?_, fun hx => ?_⟩, ?_⟩
  · rw [← hys, List.pairwise_map] at honce
    refine List.pairwise_map.2 (honce.imp fun {y y'} hne heq => ?_)
    exact hne _ (hr y.1 y.2) (heq ▸ hr y'.1 y'.2)
  · obtain ⟨y, -, rfl⟩ := List.mem_map.1 hmem
    exact hp y.1 y.2
  · obtain ⟨y, hy, hxy⟩ := hcomplete x hx
    exact List.mem_map.2 ⟨⟨y, hy⟩, List.mem_attach _ _, hunique _ _ y (hr y hy) hxy⟩
  · have hsame : List.Forall₂ (fun y y' => r (f y.1 y.2) y'.1) ys.attach ys.attach :=
      List.forall₂_same.2 fun y _ => hr y.1 y.2
    rwa [← List.forall₂_map_right_iff, hys, ← List.forall₂_map_left_iff] at hsame

namespace Validation

variable {files : Files} {roots : List SourceRoot} {output : Path}

/-! ## Places -/

/-- A place in an output folder: the names that lead there, the type whose class file stands there,
and what the place binds it to. -/
structure ClassPlace where
  typeName : String
  release : Release
  names : List String

/-- There is a class file at the place. -/
inductive ClassPlace.Stands (files : Files) (output : Path) : ClassPlace → Prop
  | baseline {typeName : String} {names : List String} {content : Content}
      (hfile : files.Holds output names content)
      (hname : "/".intercalate names = typeName ++ classSuffix)
      (houtside : ¬ versionsNames <+: names) :
      Stands files output ⟨typeName, .unversioned, names⟩
  | overlay {typeName folder : String} {inner : List String} {content : Content} {number : UInt16}
      (hfile : files.Holds output (versionsNames ++ folder :: inner) content)
      (hfolder : overlayOfFolderName folder = some number)
      (hname : "/".intercalate inner = typeName ++ classSuffix) :
      Stands files output ⟨typeName, .java number, versionsNames ++ folder :: inner⟩

/-- The class file at the place is collected as this variant, under this name. -/
structure ClassPlace.IsFoundAs (files : Files) (output : Path) (place : ClassPlace)
    (found : String × TypeVariant) : Prop where
  typeName : found.1 = place.typeName
  release : found.2.release = place.release
  classFile : found.2.classFile.components = output.components ++ place.names.map .name
  content : ∃ content, files.Holds output place.names content ∧
    files.read? found.2.classFile = some content

/-- All that is collected, type by type. -/
def collected (files : Files) (roots : List SourceRoot) : List (String × TypeVariant) :=
  (collectVariants files roots).entries.flatMap fun (typeName, variants) =>
    variants.map (typeName, ·)

/-- A place tells all about the variant other than the spelling of its path. -/
theorem ClassPlace.IsFoundAs.alike {place : ClassPlace} {a b : String × TypeVariant}
    (ha : place.IsFoundAs files output a) (hb : place.IsFoundAs files output b) :
    a.1 = b.1 ∧ a.2.Alike b.2 :=
  ⟨ha.typeName.trans hb.typeName.symm, ha.release.trans hb.release.symm,
    ha.classFile.trans hb.classFile.symm⟩

/-- No variant is found at two places. -/
theorem ClassPlace.IsFoundAs.unique {place other : ClassPlace} {found : String × TypeVariant}
    (h : place.IsFoundAs files output found) (hother : other.IsFoundAs files output found) :
    place = other := by
  have hnames := List.append_cancel_left (h.classFile.symm.trans hother.classFile)
  obtain ⟨typeName, release, names⟩ := place
  obtain ⟨otherName, otherRelease, others⟩ := other
  obtain rfl : typeName = otherName := h.typeName.symm.trans hother.typeName
  obtain rfl : release = otherRelease := h.release.symm.trans hother.release
  obtain rfl : names = others :=
    List.map_injective_iff.2 (fun _ _ => Path.Component.name.inj) hnames
  rfl

/-! ## The search through one output folder -/

/-- A folder that does not exist has no overlays, either. -/
theorem variantsOfOutput_eq_nil (hlf : files.LinkFree) (hne : output.text ≠ "")
    (h : files.resolve? output = none) : variantsOfOutput files output = [] := by
  have hfolder : files.folder? output = none := by rw [Files.folder?, h, Option.filter_none]
  have hversions : files.folder? (output.child versionsFolder) = none := by
    rw [Files.folder?, Path.child,
      hlf.resolve?_join hne (by decide) (by decide) (by decide), hfolder]
    rfl
  rw [variantsOfOutput, variantsBelow, overlayFolders, files.below_eq_folder?, hfolder,
    files.list?_eq_folder?, hversions]
  rfl

/-- **Whatever is found in an output folder stands there.** -/
theorem exists_place (hwf : files.WellFormed) (hlf : files.LinkFree) (hne : output.text ≠ "")
    {found : String × TypeVariant} (h : found ∈ variantsOfOutput files output) :
    ∃ place : ClassPlace, place.Stands files output ∧ place.IsFoundAs files output found := by
  obtain ⟨typeName, variant⟩ := found
  obtain ⟨home, hhome⟩ : ∃ home, files.resolve? output = some home := by
    refine Option.ne_none_iff_exists'.1 fun hnone => ?_
    rw [variantsOfOutput_eq_nil hlf hne hnone] at h
    exact List.not_mem_nil h
  have hleads := hlf.leads hhome
  rcases List.mem_append.1 h with hbaseline | hoverlay
  · obtain ⟨inner, content, executable, hmem, hkept, htype, rfl, hread⟩ :=
      exists_of_mem_variantsBelow hwf hlf hleads (by simp) hbaseline
    rw [List.append_nil] at hmem
    have hfile : files.Holds output inner content := ⟨home, executable, hhome, hmem⟩
    refine ⟨_, .baseline hfile (withoutSuffix?_eq_some_iff.1 htype) ?_, rfl, rfl,
      Path.components_foldl_child (hwf.proper_below hmem) output, content, hfile, hread⟩
    rw [← List.isPrefixOf_iff_prefix, Bool.not_eq_true]
    simpa [Release.isVersioned] using hkept
  · obtain ⟨⟨folder, number⟩, hfolder, hbelow⟩ := List.mem_flatMap.1 hoverlay
    obtain ⟨name, hlisted, hnumber, rfl⟩ := mem_overlayFolders.1 hfolder
    have hname := hwf.proper_of_mem_list? hlisted
    have hnames : ∀ other ∈ versionsNames ++ [name], ProperName other :=
      List.forall_mem_append.2 ⟨properName_versions, List.forall_mem_singleton.2 hname⟩
    obtain ⟨inner, content, executable, hmem, -, htype, rfl, hread⟩ :=
      exists_of_mem_variantsBelow hwf hlf ((leads_versions hleads).child hname) hnames hbelow
    have hinner := hwf.proper_below hmem
    have hfile : files.Holds output (versionsNames ++ name :: inner) content :=
      ⟨home, executable, hhome, by simpa using hmem⟩
    refine ⟨_, .overlay hfile hnumber (withoutSuffix?_eq_some_iff.1 htype), rfl, rfl, ?_, content,
      hfile, hread⟩
    rw [Path.components_foldl_child hinner, Path.components_child _ hname, components_versions]
    simp [versionsNames]

/-- **Whatever stands in an output folder is found there.** -/
theorem ClassPlace.Stands.exists_found (hwf : files.WellFormed) (hlf : files.LinkFree)
    {place : ClassPlace} (h : place.Stands files output) :
    ∃ found ∈ variantsOfOutput files output, place.IsFoundAs files output found := by
  cases h with
  | @baseline typeName names content hfile hname houtside =>
    obtain ⟨home, executable, hhome, hmem⟩ := hfile
    have hne := ne_nil_of_className hname
    have hleads := hlf.leads hhome
    refine ⟨_, mem_variantsOfOutput_baseline hwf hlf hleads hne hmem houtside
      (withoutSuffix?_eq_some_iff.2 hname), rfl, rfl,
      Path.components_foldl_child (hwf.proper_below hmem) output, content,
      ⟨home, executable, hhome, hmem⟩, ?_⟩
    exact hleads.read?_foldl_child hwf hlf hne (by rwa [List.append_nil])
  | @overlay typeName folder inner content number hfile hfolder hname =>
    obtain ⟨home, executable, hhome, hmem⟩ := hfile
    have hne := ne_nil_of_className hname
    have hleads := hlf.leads hhome
    have hproper := hwf.proper_below hmem
    have hfolderName : ProperName folder := hproper folder (by simp)
    have hmem' : (home ++ (versionsNames ++ [folder]) ++ inner, .file content executable)
        ∈ files.entries := by simpa using hmem
    refine ⟨_, mem_variantsOfOutput_folder hwf hlf hleads hfolder hne hmem'
      (withoutSuffix?_eq_some_iff.2 hname), rfl, rfl, ?_, content,
      ⟨home, executable, hhome, hmem⟩, ?_⟩
    · rw [Path.components_foldl_child (hwf.proper_below hmem'), Path.components_child _ hfolderName,
        components_versions]
      simp [versionsNames]
    · exact ((leads_versions hleads).child hfolderName).read?_foldl_child hwf hlf hne hmem'

/-! ## What is collected -/

theorem mem_collected {found : String × TypeVariant} :
    found ∈ collected files roots ↔ found ∈ allVariants files roots := by
  obtain ⟨typeName, variant⟩ := found
  rw [← mem_variantsOf, collected, List.mem_flatMap]
  constructor
  · rintro ⟨⟨name, variants⟩, hentry, hmem⟩
    obtain ⟨_, hvariant, heq⟩ := List.mem_map.1 hmem
    obtain ⟨rfl, rfl⟩ := Prod.mk.inj heq
    rwa [← (mem_entries_iff.1 hentry).2]
  · intro hvariant
    exact ⟨_, entry_of_mem hvariant, List.mem_map.2 ⟨variant, hvariant, rfl⟩⟩

/-- Nothing is collected twice. -/
theorem pairwise_collected (hwf : files.WellFormed) (hlisted : files.ListedOnce)
    (roots : List SourceRoot) :
    (collected files roots).Pairwise fun a b => ¬ (a.1 = b.1 ∧ a.2.Alike b.2) := by
  have hkeys := List.pairwise_map.1 (sorted_collectVariants files roots).nodup_keys
  refine List.pairwise_flatMap.2 ⟨?_, hkeys.imp ?_⟩
  · rintro ⟨typeName, variants⟩ hentry
    obtain ⟨-, rfl⟩ := mem_entries_iff.1 hentry
    exact List.pairwise_map.2
      ((pairwise_variantsOf hwf hlisted roots typeName).imp fun hne heq => hne heq.2)
  · rintro ⟨typeName, variants⟩ ⟨otherName, others⟩ hne a ha b hb ⟨heq, -⟩
    obtain ⟨_, -, rfl⟩ := List.mem_map.1 ha
    obtain ⟨_, -, rfl⟩ := List.mem_map.1 hb
    exact hne heq

/-- A folder that is shared is searched once. -/
theorem exists_outputFolders_eq (hroots : roots ≠ [])
    (houtput : ∀ root ∈ roots, root.outputFolder.same output = true) :
    ∃ folder : Path, outputFolders roots = [folder] ∧ folder.same output = true := by
  have hsame : ∀ folder ∈ outputFolders roots, folder.same output = true := by
    intro folder hfolder
    obtain ⟨root, hroot, rfl⟩ := List.mem_map.1 (mem_of_mem_sortedDistinct hfolder)
    exact houtput root hroot
  have hne : outputFolders roots ≠ [] := sortedDistinct_ne_nil (by simpa using hroots)
  have hdistinct := pairwise_outputFolders roots
  match hfolders : outputFolders roots with
  | [] => exact absurd hfolders hne
  | [folder] => exact ⟨folder, rfl, hsame folder (by simp [hfolders])⟩
  | first :: second :: others =>
    rw [hfolders] at hsame hdistinct
    have hfirst := Path.same_iff.1 (hsame first (by simp))
    have hsecond := Path.same_iff.1 (hsame second (by simp))
    exact absurd (hfirst.trans hsecond.symm)
      ((List.pairwise_cons.1 hdistinct).1 second List.mem_cons_self)

theorem ClassPlace.Stands.names_ne_nil {place : ClassPlace} (h : place.Stands files output) :
    place.names ≠ [] := by
  cases h with
  | baseline _ hname _ => exact ne_nil_of_className hname
  | overlay => simp

theorem ClassPlace.Stands.of_same (hwf : files.WellFormed) {other : Path}
    (hsame : output.same other = true) {place : ClassPlace} (h : place.Stands files output) :
    place.Stands files other := by
  have hfiles : ∀ content, files.Holds output place.names content →
      files.Holds other place.names content :=
    fun _ => hwf.holds_of_same hsame h.names_ne_nil
  cases h with
  | baseline hfile hname houtside => exact .baseline (hfiles _ hfile) hname houtside
  | overlay hfile hfolder hname => exact .overlay (hfiles _ hfile) hfolder hname

theorem ClassPlace.IsFoundAs.of_same (hwf : files.WellFormed) {other : Path}
    (hsame : output.same other = true) {place : ClassPlace} (hne : place.names ≠ [])
    {found : String × TypeVariant} (h : place.IsFoundAs files output found) :
    place.IsFoundAs files other found := by
  obtain ⟨content, hfile, hread⟩ := h.content
  refine ⟨h.typeName, h.release, ?_, content, hwf.holds_of_same hsame hne hfile, hread⟩
  rw [h.classFile, Path.same_iff.1 hsame]

/-- **Every class file of a shared output folder is collected once, and nothing else is.** -/
theorem collectVariants_exact (hwf : files.WellFormed) (hlf : files.LinkFree)
    (hlisted : files.ListedOnce) (hroots : roots ≠ []) (hne : output.text ≠ "")
    (houtput : ∀ root ∈ roots, root.outputFolder.same output = true) :
    ∃ places : List ClassPlace, places.Nodup ∧
      (∀ place : ClassPlace, place ∈ places ↔ place.Stands files output) ∧
      List.Forall₂ (ClassPlace.IsFoundAs files output) places (collected files roots) := by
  obtain ⟨folder, hfolders, hsame⟩ := exists_outputFolders_eq hroots houtput
  have hsame' : output.same folder = true := Path.same_iff.2 (Path.same_iff.1 hsame).symm
  have hfolder : folder.text ≠ "" := by
    rwa [Ne, ← Path.components_eq_nil_iff, Path.same_iff.1 hsame, Path.components_eq_nil_iff]
  have hmem : ∀ found, found ∈ collected files roots ↔ found ∈ variantsOfOutput files folder := by
    intro found
    rw [mem_collected, allVariants, hfolders, List.flatMap_singleton]
  refine exists_matching (fun found hfound => ?_) (fun place hplace => ?_)
    (fun _ _ _ h hother => h.unique hother) ?_
  · obtain ⟨place, hstands, hplace⟩ := exists_place hwf hlf hfolder ((hmem found).1 hfound)
    exact ⟨place, hstands.of_same hwf hsame, hplace.of_same hwf hsame hstands.names_ne_nil⟩
  · obtain ⟨found, hfound, hplace'⟩ := (hplace.of_same hwf hsame').exists_found hwf hlf
    exact ⟨found, (hmem found).2 hfound, hplace'.of_same hwf hsame hplace.names_ne_nil⟩
  · exact (pairwise_collected hwf hlisted roots).imp fun hne place ha hb => hne (ha.alike hb)

/-- An output folder with much that does not count: a class file among the overlay folders, a
folder of overlays that has no number, and one inside another overlay.  Two folders have the same
number. -/
def mixedOutput : Files where
  entries := [(["out"], .folder),
    (["out", "T.class"], .file (.ofBytes []) false),
    (["out", "T.txt"], .file (.ofBytes []) false),
    (["out", "META-INF"], .folder),
    (["out", "META-INF", "versions"], .folder),
    (["out", "META-INF", "versions", "T.class"], .file (.ofBytes []) false),
    (["out", "META-INF", "versions", "latest"], .folder),
    (["out", "META-INF", "versions", "latest", "T.class"], .file (.ofBytes []) false),
    (["out", "META-INF", "versions", "09"], .folder),
    (["out", "META-INF", "versions", "09", "T.class"], .file (.ofBytes []) false),
    (["out", "META-INF", "versions", "9"], .folder),
    (["out", "META-INF", "versions", "9", "T.class"], .file (.ofBytes []) false),
    (["out", "META-INF", "versions", "9", "META-INF"], .folder),
    (["out", "META-INF", "versions", "9", "META-INF", "versions"], .folder),
    (["out", "META-INF", "versions", "9", "META-INF", "versions", "11"], .folder),
    (["out", "META-INF", "versions", "9", "META-INF", "versions", "11", "T.class"],
      .file (.ofBytes []) false)]

/-- Two roots that spell it in different ways. -/
def mixedRoots : List SourceRoot :=
  [.ofFolders ⟨"src"⟩ ⟨"out"⟩ none, .ofFolders ⟨"src9"⟩ ⟨"out/"⟩ (some 9)]

theorem collectVariants_exact_sample :
    mixedOutput.WellFormed ∧ mixedOutput.LinkFree ∧ mixedOutput.ListedOnce ∧ mixedRoots ≠ [] ∧
      "out" ≠ "" ∧ (∀ root ∈ mixedRoots, root.outputFolder.same ⟨"out"⟩ = true) ∧
      ∃ places : List ClassPlace, places.Nodup ∧
        (∀ place : ClassPlace, place ∈ places ↔ place.Stands mixedOutput ⟨"out"⟩) ∧
        List.Forall₂ (ClassPlace.IsFoundAs mixedOutput ⟨"out"⟩) places
          (collected mixedOutput mixedRoots) := by
  have hnodup : (mixedOutput.entries.map (·.1)).Nodup := by decide
  have hwf : mixedOutput.WellFormed := Files.wellFormed_of_forall hnodup (by decide)
  have hlf : mixedOutput.LinkFree := Files.linkFree_of_forall (by decide)
  have houtput : ∀ root ∈ mixedRoots, root.outputFolder.same ⟨"out"⟩ = true := by decide
  exact ⟨hwf, hlf, hnodup, List.cons_ne_nil _ _, by decide, houtput,
    collectVariants_exact hwf hlf hnodup (List.cons_ne_nil _ _) (by decide) houtput⟩

end Validation

end MultiRelease
