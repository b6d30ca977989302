import MultiRelease.Proofs.Files.Enumeration
import MultiRelease.Proofs.Validation.Distinct

/-!
# Overlay folders, written and collected

Two sides have to agree on where the overlays of an output folder are.  A source root that is
created for a release writes to the folder with the canonical name of the release, and only from
release 9 on.  The validation goes the other way: it reads the name of whatever folder there is as a
number, and takes any name that writes one (`Text.Writes`), whichever release that is.

So what is written is collected, but not only what is written.  `collected_and_written_iff` says of
every folder of overlays:

* its class files are bound to a release exactly if its name writes the number of the release
  (`isCollectedFor_iff`);
* it is where roots for a release write exactly if its name is the canonical one and the release is
  9 or later (`isWrittenFor_iff`).

In `exists_collected_not_written` the two differ: class files in a folder `8` or `+9` are bound to a
release, though no root writes there.
-/

set_option autoImplicit false

namespace MultiRelease.Validation

variable {files : Files} {roots : List SourceRoot} {output : Path} {name typeName : String}
  {inner : List String} {number : UInt16}

/-- A folder directly in the folder of overlays. -/
def overlayFolder (output : Path) (name : String) : Path :=
  (output.child versionsFolder).child name

/-- There is a folder of this name among the overlays, and in it, behind the inner names, a class
file of the type. -/
structure HoldsOverlayClass (files : Files) (output : Path) (name : String) (inner : List String)
    (typeName : String) : Prop where
  folder : (name, .folder) ∈ (files.list? (output.child versionsFolder)).getD []
  file : ∃ content executable,
    (inner, .file content executable) ∈ files.below (overlayFolder output name)
  named : "/".intercalate inner = typeName ++ classSuffix

/-- The class file behind the inner names is collected as a variant of the type that is bound to the
release. -/
def IsCollectedFor (files : Files) (roots : List SourceRoot) (output : Path) (name : String)
    (inner : List String) (typeName : String) (number : UInt16) : Prop :=
  ∃ variant ∈ variantsOf files roots typeName, variant.release = .java number ∧
    variant.classFile.same (inner.foldl Path.child (overlayFolder output name)) = true

/-- The folder is where a root writes that is created on the output for the release and is bound to
it. -/
def IsWrittenFor (output : Path) (name : String) (number : UInt16) : Prop :=
  ∃ sourceFolder root, root = SourceRoot.ofFolders sourceFolder output (some number) ∧
    root.release = .java number ∧ root.binaryFolder.same (overlayFolder output name) = true

theorem components_overlayFolder (hname : ProperName name) :
    (overlayFolder output name).components
      = output.components ++ [.name "META-INF", .name "versions"] ++ [.name name] := by
  rw [overlayFolder, Path.components_child _ hname, components_versions]

/-! ## What is collected -/

/-- A class file in one folder of overlays and one in another are the same file only if their
folders have the same name. -/
theorem name_eq_of_same {other : Path} {otherName : String} (hname : ProperName name)
    (hotherName : ProperName otherName) (hinner : ∀ name ∈ inner, ProperName name)
    (h : (inner.foldl Path.child (overlayFolder other otherName)).same
      (inner.foldl Path.child (overlayFolder output name)) = true) : otherName = name := by
  have hcomponents := Path.same_iff.1 h
  rw [Path.components_foldl_child hinner, Path.components_foldl_child hinner,
    components_overlayFolder hname, components_overlayFolder hotherName] at hcomponents
  have hfront := List.append_cancel_right hcomponents
  exact Path.Component.name.inj (List.singleton_inj.1 (List.append_inj_right' hfront rfl))

/-- **A class file in a folder of overlays is bound to what the name of the folder is read as.** -/
theorem isCollectedFor_iff (hwf : files.WellFormed) {root : SourceRoot} (hroot : root ∈ roots)
    (houtput : root.outputFolder.same output = true)
    (h : HoldsOverlayClass files output name inner typeName) :
    IsCollectedFor files roots output name inner typeName number ↔
      overlayOfFolderName name = some number := by
  have hname := hwf.proper_of_mem_list? h.folder
  obtain ⟨content, executable, hbelow⟩ := h.file
  have hinner := hwf.proper_of_mem_below hbelow
  constructor
  · rintro ⟨variant, hvariant, hrelease, hsame⟩
    rw [mem_variantsOf, allVariants_eq] at hvariant
    obtain ⟨⟨folder, release⟩, hfolder, hvariant⟩ := List.mem_flatMap.1 hvariant
    obtain ⟨other, -, hfolder⟩ := List.mem_flatMap.1 hfolder
    obtain rfl : release = .java number :=
      (release_of_mem_variantsBelow hvariant).symm.trans hrelease
    -- it was found in an overlay of some output folder, behind the same inner names
    rcases List.mem_cons.1 hfolder with heq | hoverlay
    · cases (Prod.mk.inj heq).2
    · obtain ⟨⟨_, _⟩, hmem, heq⟩ := List.mem_map.1 hoverlay
      obtain ⟨rfl, hnumber⟩ := Prod.mk.inj heq
      obtain rfl := Release.java.inj hnumber
      obtain ⟨otherName, hlisted, hread, rfl⟩ := mem_overlayFolders.1 hmem
      obtain ⟨⟨names, entry⟩, hnames, hat⟩ := List.mem_filterMap.1 hvariant
      obtain ⟨_, _, -, -, htype, rfl⟩ := variantAt?_eq_some_iff.1 hat
      obtain rfl : names = inner := eq_of_intercalate (hwf.proper_of_mem_below hnames) hinner
        ((withoutSuffix?_eq_some_iff.1 htype).trans h.named.symm)
      rwa [← name_eq_of_same hname (hwf.proper_of_mem_list? hlisted) hinner hsame]
  · intro hread
    obtain ⟨other, hother, hrootSame⟩ := exists_outputFolder_same
      (List.mem_map.2 ⟨root, hroot, rfl⟩ : root.outputFolder ∈ roots.map (·.outputFolder))
    have hsame : output.same other = true :=
      Path.same_iff.2 ((Path.same_iff.1 houtput).symm.trans (Path.same_iff.1 hrootSame))
    have hversions : (output.child versionsFolder).same (other.child versionsFolder) = true :=
      Path.same_iff.2 (Path.components_join_congr (Path.same_iff.1 hsame) _)
    have hfolders : (overlayFolder output name).same (overlayFolder other name) = true :=
      Path.same_iff.2 (Path.components_join_congr (Path.same_iff.1 hversions) _)
    have htree : files.SameTree files := .refl files
    have hoverlay : (overlayFolder other name, number) ∈ overlayFolders files other :=
      mem_overlayFolders.2 ⟨name, htree.mem_list? hwf hversions h.folder, hread, rfl⟩
    refine ⟨⟨inner.foldl Path.child (overlayFolder other name), .java number⟩, ?_, rfl, ?_⟩
    · rw [mem_variantsOf]
      refine List.mem_flatMap.2 ⟨other, hother, List.mem_append_right _
        (List.mem_flatMap.2 ⟨_, hoverlay, List.mem_filterMap.2
          ⟨_, htree.mem_below hwf hfolders hbelow, ?_⟩⟩)⟩
      exact variantAt?_eq_some_iff.2
        ⟨content, executable, rfl, rfl, withoutSuffix?_eq_some_iff.2 h.named, rfl⟩
    · rw [Path.same_iff, Path.components_foldl_child hinner, Path.components_foldl_child hinner,
        Path.same_iff.1 hfolders]

/-! ## What is written -/

/-- **A root writes to the canonical name of its release, from release 9 on.** -/
theorem isWrittenFor_iff (hname : ProperName name) :
    IsWrittenFor output name number ↔
      name = toString number.toNat ∧ firstMultiRelease ≤ number := by
  have hbound : Release.overlay (some number) = .java number ↔ firstMultiRelease ≤ number := by
    rw [Release.overlay_some]
    split
    · rename_i hle
      exact iff_of_true rfl hle
    · rename_i hlt
      exact iff_of_false (fun h => nomatch h) hlt
  have hfolder : ∀ sourceFolder, (SourceRoot.ofFolders sourceFolder output (some number)).release
      = .java number → (SourceRoot.ofFolders sourceFolder output (some number)).binaryFolder
        = overlayFolder output (toString number.toNat) := by
    intro sourceFolder hrelease
    change Release.overlay (some number) = _ at hrelease
    change SourceRoot.binaryFolderOf output (Release.overlay (some number)) = _
    rw [hrelease]
    rfl
  constructor
  · rintro ⟨sourceFolder, root, rfl, hrelease, hsame⟩
    rw [hfolder sourceFolder hrelease] at hsame
    have hnone : ∀ inner ∈ ([] : List String), ProperName inner :=
      fun _ hmem => absurd hmem List.not_mem_nil
    exact ⟨(name_eq_of_same hname (properName_toString _) hnone hsame).symm, hbound.1 hrelease⟩
  · rintro ⟨rfl, hle⟩
    refine ⟨⟨""⟩, _, rfl, hbound.2 hle, ?_⟩
    rw [hfolder _ (hbound.2 hle), Path.same_iff]

/-! ## Both sides -/

/-- **Which folders count as the overlay of a release, and which of them is written to.**  The class
files in a folder of overlays are bound to a release exactly if the name of the folder writes its
number.  Of all these folders, only the one with the canonical name is where roots for the release
write, and only from release 9 on. -/
theorem collected_and_written_iff (hwf : files.WellFormed) {root : SourceRoot}
    (hroot : root ∈ roots) (houtput : root.outputFolder.same output = true)
    (h : HoldsOverlayClass files output name inner typeName) (number : UInt16) :
    (IsCollectedFor files roots output name inner typeName number ↔ Text.Writes name number) ∧
      (IsWrittenFor output name number ↔
        IsCollectedFor files roots output name inner typeName number ∧
          name = toString number.toNat ∧ firstMultiRelease ≤ number) := by
  have hcollected : IsCollectedFor files roots output name inner typeName number ↔
      overlayOfFolderName name = some number := isCollectedFor_iff hwf hroot houtput h
  refine ⟨hcollected.trans Text.number16?_eq_some_iff, ?_⟩
  rw [isWrittenFor_iff (hwf.proper_of_mem_list? h.folder), hcollected]
  refine ⟨fun hwritten => ⟨?_, hwritten⟩, And.right⟩
  rw [hwritten.1]
  exact Text.number16?_toString number

/-- Where there are no links, a class file in a folder of overlays is known from its place. -/
theorem holdsOverlayClass_of_mem (hwf : files.WellFormed) (hlf : files.LinkFree) {home : Address}
    (h : files.Leads home output []) (hinner : inner ≠ []) {content : Content} {executable : Bool}
    (hmem : (home ++ (versionsNames ++ [name]) ++ inner, .file content executable) ∈ files.entries)
    (hnamed : "/".intercalate inner = typeName ++ classSuffix) :
    HoldsOverlayClass files output name inner typeName := by
  have hnames : ∀ other ∈ versionsNames ++ [name], ProperName other := fun other hother =>
    hwf.proper _ _ hmem other (List.mem_append_left _ (List.mem_append_right _ hother))
  have hleads := (leads_versions h).child (hnames name (by simp))
  exact ⟨mem_list?_versions hwf hlf h hinner hmem,
    ⟨content, executable, (hleads.mem_below_iff hwf hlf hnames).2 ⟨hinner, hmem⟩⟩, hnamed⟩

/-- Folders of overlays that write numbers in different ways. -/
def numberedFolders : Files where
  entries := [(["out"], .folder),
    (["out", "META-INF"], .folder),
    (["out", "META-INF", "versions"], .folder),
    (["out", "META-INF", "versions", "8"], .folder),
    (["out", "META-INF", "versions", "8", "T.class"], .file (.ofBytes []) false),
    (["out", "META-INF", "versions", "+9"], .folder),
    (["out", "META-INF", "versions", "+9", "T.class"], .file (.ofBytes []) false)]

/-- The root for release 8 writes to the output folder itself. -/
def numberedRoot8 : SourceRoot := .ofFolders ⟨"src8"⟩ ⟨"out"⟩ (some 8)

/-- The root for release 9 would write to another folder than there is. -/
def numberedRoots : List SourceRoot := [numberedRoot8, .ofFolders ⟨"src9"⟩ ⟨"out"⟩ (some 9)]

theorem wellFormed_numberedFolders : numberedFolders.WellFormed :=
  Files.wellFormed_of_forall (by decide) (by decide)

theorem holds_numberedFolders : ∀ name ∈ ["8", "+9"],
    HoldsOverlayClass numberedFolders ⟨"out"⟩ name ["T.class"] "T" := by
  intro name hname
  have hlf : numberedFolders.LinkFree := Files.linkFree_of_forall (by decide)
  have hleads : numberedFolders.Leads ["out"] ⟨"out"⟩ [] :=
    Files.leads_name wellFormed_numberedFolders hlf
      (rfl : numberedFolders.entryAt? (numberedFolders.workingFolder ++ ["out"]) = some .folder)
  have hmem : (["out"] ++ (versionsNames ++ [name]) ++ ["T.class"],
      FileEntry.file (.ofBytes []) false) ∈ numberedFolders.entries := by
    rcases List.mem_pair.1 hname with rfl | rfl <;> simp [numberedFolders, versionsNames]
  exact holdsOverlayClass_of_mem wellFormed_numberedFolders hlf hleads (List.cons_ne_nil _ _) hmem
    (by decide)

theorem collected_and_written_iff_sample :
    numberedFolders.WellFormed ∧ numberedRoot8 ∈ numberedRoots ∧
      numberedRoot8.outputFolder.same ⟨"out"⟩ = true ∧
      HoldsOverlayClass numberedFolders ⟨"out"⟩ "+9" ["T.class"] "T" ∧
      (IsCollectedFor numberedFolders numberedRoots ⟨"out"⟩ "+9" ["T.class"] "T" 9 ↔
        Text.Writes "+9" 9) ∧
      (IsWrittenFor ⟨"out"⟩ "+9" 9 ↔
        IsCollectedFor numberedFolders numberedRoots ⟨"out"⟩ "+9" ["T.class"] "T" 9 ∧
          "+9" = toString (9 : UInt16).toNat ∧ firstMultiRelease ≤ 9) := by
  have hholds := holds_numberedFolders "+9" (by decide)
  have houtput : numberedRoot8.outputFolder.same ⟨"out"⟩ = true := by decide
  exact ⟨wellFormed_numberedFolders, List.mem_cons_self, houtput, hholds,
    collected_and_written_iff wellFormed_numberedFolders List.mem_cons_self houtput hholds 9⟩

/-- **Not all that is collected is written.**  The class files in folder `8` are bound to release 8,
and those in folder `+9` to release 9, but no root writes there. -/
theorem exists_collected_not_written :
    ∃ files roots output, files.WellFormed ∧ (∀ root ∈ roots, root.outputFolder = output) ∧
      ∀ written ∈ [("8", (8 : UInt16)), ("+9", 9)],
        HoldsOverlayClass files output written.1 ["T.class"] "T" ∧
          IsCollectedFor files roots output written.1 ["T.class"] "T" written.2 ∧
          ¬ IsWrittenFor output written.1 written.2 := by
  refine ⟨numberedFolders, numberedRoots, ⟨"out"⟩, wellFormed_numberedFolders, ?_, ?_⟩
  · intro root hroot
    simp only [numberedRoots, List.mem_cons, List.not_mem_nil, or_false] at hroot
    rcases hroot with rfl | rfl <;> rfl
  · have hread : ∀ written ∈ [("8", (8 : UInt16)), ("+9", 9)], written.1 ∈ ["8", "+9"] ∧
        overlayOfFolderName written.1 = some written.2 ∧ ProperName written.1 ∧
          ¬ (written.1 = toString written.2.toNat ∧ firstMultiRelease ≤ written.2) := by decide
    intro written hwritten
    obtain ⟨hname, hnumber, hproper, hforeign⟩ := hread written hwritten
    have hholds := holds_numberedFolders written.1 hname
    have houtput : numberedRoot8.outputFolder.same ⟨"out"⟩ = true := by decide
    refine ⟨hholds, ?_, fun h => hforeign ((isWrittenFor_iff hproper).1 h)⟩
    exact (isCollectedFor_iff wellFormed_numberedFolders List.mem_cons_self houtput hholds).2
      hnumber

end MultiRelease.Validation
