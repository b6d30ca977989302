import Mathlib.Data.List.Forall2
import Mathlib.Data.List.Pairwise
import MultiRelease.Proofs.Validation.Losses
import MultiRelease.Proofs.Validation.Substitution

/-!
# A validation reports what is lost, and nothing else

The main statement is `Validation.validate_exact`.  There is a list of all losses, each of them
once, which matches the list of reports one by one: every loss is reported, no report is about
anything else, and no loss is reported twice.  The summary counts the variants that are compared and
the problems that are reported.

* The comparisons that a validation makes are those that there are to make
  (`Validation.mem_comparisonsOf`).  This goes from the types that are found to the variants of one
  type: sorting puts the anchor first (`Validation.isAnchor_of_first`), and the others that can be
  read are compared with it (`Validation.mem_comparisonsOfType`).
* It makes none of them twice (`Validation.pairwise_comparisonsOf`), because no variant of a type is
  found twice.
* For the same reason there is one anchor only (`Validation.IsAnchor.unique`): two variants that
  precede each other have the same release and the same class file.
* What the comparisons show is what is lost (`Validation.mem_lossesOf`), and it is lost once
  (`Validation.nodup_lossesOf`).

That a folder lists no name twice (`Files.ListedOnce`) is all that is asked of how the file system
enumerates folders.  In which order it does so makes no difference to what is lost.
-/

set_option autoImplicit false

namespace MultiRelease

namespace Validation

variable {files : Files} {roots : List SourceRoot}

/-! ## What is compared -/

section

variable (hwf : files.WellFormed) (hlisted : files.ListedOnce) {typeName : String}
  {anchor : TypeVariant} {later : List TypeVariant}

include hwf hlisted in
/-- No variant of a type is found twice. -/
theorem nodup_variantsOf : (variantsOf files roots typeName).Nodup :=
  (pairwise_variantsOf hwf hlisted roots typeName).imp fun hne heq => by
    rw [heq] at hne
    exact hne ⟨rfl, rfl⟩

include hwf hlisted in
theorem eq_of_alike {a b : TypeVariant} (ha : a ∈ variantsOf files roots typeName)
    (hb : b ∈ variantsOf files roots typeName) (h : a.Alike b) : a = b := by
  have hsymm : Std.Symm fun a b : TypeVariant => ¬ a.Alike b :=
    ⟨fun _ _ hne halike => hne ⟨halike.1.symm, halike.2.symm⟩⟩
  exact Decidable.byContradiction fun hne =>
    (pairwise_variantsOf hwf hlisted roots typeName).forall ha hb hne h

/-- **The anchor stands first.** -/
theorem isAnchor_of_first
    (hsorted : (variantsOf files roots typeName).mergeSort TypeVariant.precedes = anchor :: later) :
    IsAnchor files roots typeName anchor := by
  have hpairwise := List.pairwise_mergeSort TypeVariant.precedes_trans TypeVariant.precedes_total
    (variantsOf files roots typeName)
  have hmem : ∀ {variant}, variant ∈ anchor :: later ↔ variant ∈ variantsOf files roots typeName :=
    by
      intro variant
      rw [← hsorted]
      exact List.mem_mergeSort
  rw [hsorted, List.pairwise_cons] at hpairwise
  refine ⟨hmem.1 List.mem_cons_self, fun other hother => ?_⟩
  rcases List.mem_cons.1 (hmem.2 hother) with rfl | hlater
  · simpa using TypeVariant.precedes_total other other
  · exact hpairwise.1 other hlater

include hwf hlisted in
theorem IsAnchor.unique {other : TypeVariant} (h : IsAnchor files roots typeName anchor)
    (hother : IsAnchor files roots typeName other) : anchor = other :=
  eq_of_alike hwf hlisted h.collected hother.collected
    (TypeVariant.alike_of_precedes (h.first other hother.collected)
      (hother.first anchor h.collected))

include hwf hlisted in
/-- The others stand behind it. -/
theorem mem_later_iff
    (hsorted : (variantsOf files roots typeName).mergeSort TypeVariant.precedes = anchor :: later)
    {variant : TypeVariant} :
    variant ∈ later ↔ variant ∈ variantsOf files roots typeName ∧ anchor ≠ variant := by
  have hnodup : (anchor :: later).Nodup := by
    rw [← hsorted]
    exact (List.mergeSort_perm _ _).nodup_iff.2 (nodup_variantsOf hwf hlisted)
  have hmem : variant ∈ variantsOf files roots typeName ↔ variant ∈ anchor :: later := by
    rw [← hsorted]
    exact List.mem_mergeSort.symm
  rw [hmem, List.mem_cons]
  constructor
  · intro hlater
    refine ⟨.inr hlater, ?_⟩
    rintro rfl
    exact (List.nodup_cons.1 hnodup).1 hlater
  · rintro ⟨heq | hlater, hne⟩
    · exact absurd heq.symm hne
    · exact hlater

include hwf hlisted in
/-- The comparisons of a type are those of its other variants with the anchor. -/
theorem mem_comparisonsOfType {c : Comparison} :
    c ∈ comparisonsOfType files typeName (variantsOf files roots typeName) ↔
      c.typeName = typeName ∧ Compared files roots typeName c.variant c.baseline c.type := by
  rw [comparisonsOfType]
  cases hsorted : (variantsOf files roots typeName).mergeSort TypeVariant.precedes with
  | nil =>
    have hnil : variantsOf files roots typeName = [] := by
      have hperm := List.mergeSort_perm (variantsOf files roots typeName) TypeVariant.precedes
      rw [hsorted] at hperm
      exact hperm.nil_eq.symm
    refine ⟨fun h => absurd h List.not_mem_nil, fun h => ?_⟩
    have hcollected := h.2.collected
    rw [hnil] at hcollected
    exact absurd hcollected List.not_mem_nil
  | cons anchor later =>
    have hanchor := isAnchor_of_first hsorted
    dsimp only
    constructor
    · intro h
      cases htype : typeOf? files anchor with
      | none => simp [htype] at h
      | some baseline =>
        rw [htype] at h
        obtain ⟨variant, hvariant, hc⟩ := List.mem_filterMap.1 h
        obtain ⟨hversioned, hreadable, hc⟩ := comparison?_eq_some_iff.1 hc
        obtain ⟨hcollected, hne⟩ := (mem_later_iff hwf hlisted hsorted).1 hvariant
        rw [hc]
        exact ⟨rfl, ⟨anchor, hanchor, hne, htype⟩, hcollected, hversioned, hreadable⟩
    · rintro ⟨rfl, ⟨other, hother, hne, hbaseline⟩, hcollected, hversioned, hreadable⟩
      obtain rfl := hanchor.unique hwf hlisted hother
      rw [hbaseline]
      exact List.mem_filterMap.2 ⟨c.variant, (mem_later_iff hwf hlisted hsorted).2
        ⟨hcollected, hne⟩, comparison?_eq_some_iff.2 ⟨hversioned, hreadable, rfl⟩⟩

end

/-- **All comparisons are made.** -/
theorem mem_comparisonsOf (hwf : files.WellFormed) (hlisted : files.ListedOnce) {c : Comparison} :
    c ∈ comparisonsOf files roots ↔
      Compared files roots c.typeName c.variant c.baseline c.type := by
  rw [comparisonsOf, List.mem_flatMap]
  constructor
  · rintro ⟨⟨typeName, variants⟩, hentry, hmem⟩
    obtain ⟨-, rfl⟩ := mem_entries_iff.1 hentry
    obtain ⟨rfl, hcompared⟩ := (mem_comparisonsOfType hwf hlisted).1 hmem
    exact hcompared
  · intro hcompared
    exact ⟨_, entry_of_mem hcompared.collected,
      (mem_comparisonsOfType hwf hlisted).2 ⟨rfl, hcompared⟩⟩

theorem typeName_of_mem_comparisonsOfType {typeName : String} {variants : List TypeVariant}
    {c : Comparison} (h : c ∈ comparisonsOfType files typeName variants) :
    c.typeName = typeName := by
  rw [comparisonsOfType] at h
  split at h
  · exact absurd h List.not_mem_nil
  · split at h
    · exact absurd h List.not_mem_nil
    · obtain ⟨variant, -, hc⟩ := List.mem_filterMap.1 h
      rw [(comparison?_eq_some_iff.1 hc).2.2]

/-- No variant of one type is compared twice. -/
theorem pairwise_comparisonsOfType {typeName : String} {variants : List TypeVariant}
    (h : variants.Nodup) : (comparisonsOfType files typeName variants).Pairwise fun a b =>
      a.variant ≠ b.variant := by
  have hnodup := (List.mergeSort_perm variants TypeVariant.precedes).nodup_iff.2 h
  rw [comparisonsOfType]
  split
  · exact .nil
  · rename_i anchor later hsorted
    split
    · exact .nil
    · rw [hsorted] at hnodup
      refine List.pairwise_filterMap.2 ((List.nodup_cons.1 hnodup).2.imp ?_)
      intro a b hne c hc d hd
      rw [(comparison?_eq_some_iff.1 hc).2.2, (comparison?_eq_some_iff.1 hd).2.2]
      exact hne

/-- **No variant is compared twice.** -/
theorem pairwise_comparisonsOf (hwf : files.WellFormed) (hlisted : files.ListedOnce)
    (roots : List SourceRoot) : (comparisonsOf files roots).Pairwise fun a b =>
      (a.typeName, a.variant) ≠ (b.typeName, b.variant) := by
  have hkeys := List.pairwise_map.1 (sorted_collectVariants files roots).nodup_keys
  refine List.pairwise_flatMap.2 ⟨?_, hkeys.imp ?_⟩
  · rintro ⟨typeName, variants⟩ hentry
    obtain ⟨-, rfl⟩ := mem_entries_iff.1 hentry
    exact (pairwise_comparisonsOfType (nodup_variantsOf hwf hlisted)).imp
      fun hne heq => hne (Prod.mk.inj heq).2
  · rintro ⟨typeName, variants⟩ ⟨otherName, others⟩ hne c hc d hd heq
    rw [typeName_of_mem_comparisonsOfType hc, typeName_of_mem_comparisonsOfType hd] at heq
    exact hne (Prod.mk.inj heq).1

/-! ## Exactness -/

/-- **What the comparisons show is what is lost.** -/
theorem mem_lossesOf (hwf : files.WellFormed) (hlisted : files.ListedOnce) {loss : Loss} :
    loss ∈ lossesOf files roots ↔ loss.Holds files roots := by
  rw [lossesOf, List.mem_flatMap]
  constructor
  · rintro ⟨c, hc, hloss⟩
    obtain ⟨hname, hvariant, hbaseline, htype⟩ := mem_losses.1 hloss
    refine ⟨c.baseline, c.type, ?_, hbaseline, htype⟩
    rw [hname, hvariant]
    exact (mem_comparisonsOf hwf hlisted).1 hc
  · rintro ⟨baseline, type, hcompared, hbaseline, htype⟩
    exact ⟨⟨loss.typeName, loss.variant, baseline, type⟩,
      (mem_comparisonsOf hwf hlisted).2 hcompared, mem_losses.2 ⟨rfl, rfl, hbaseline, htype⟩⟩

/-- Nothing is lost twice. -/
theorem nodup_lossesOf (hwf : files.WellFormed) (hlisted : files.ListedOnce)
    (roots : List SourceRoot) : (lossesOf files roots).Nodup := by
  refine List.pairwise_flatMap.2 ⟨fun c _ => nodup_losses c,
    (pairwise_comparisonsOf hwf hlisted roots).imp ?_⟩
  rintro a b hne loss hloss other hother rfl
  obtain ⟨hname, hvariant, -⟩ := mem_losses.1 hloss
  obtain ⟨hname', hvariant', -⟩ := mem_losses.1 hother
  exact hne (Prod.ext (hname.symm.trans hname') (hvariant.symm.trans hvariant'))

/-- A loss is reported as it should be. -/
theorem Loss.Holds.reported {loss : Loss} (h : loss.Holds files roots) :
    loss.Reported files roots (loss.report files roots) := by
  obtain ⟨_, _, hcompared, -⟩ := h
  obtain ⟨number, hnumber⟩ := hcompared.versioned
  exact loss.reported_report hnumber

/-- **A validation reports each loss once, and nothing else.**  It counts the variants that are
compared and the problems that it reports. -/
theorem validate_exact (files : Files) (hwf : files.WellFormed) (hlisted : files.ListedOnce)
    (roots : List SourceRoot) (session : Session) :
    (∃ losses : List Loss, losses.Nodup ∧ (∀ loss, loss ∈ losses ↔ loss.Holds files roots) ∧
      List.Forall₂ (Loss.Reported files roots) losses (validate files roots session).2.1) ∧
    (∃ compared : List (String × TypeVariant), compared.Nodup ∧
      (∀ typeName variant, (typeName, variant) ∈ compared ↔
        ∃ baseline type, Compared files roots typeName variant baseline type) ∧
      (validate files roots session).1.comparisons = compared.length) ∧
    (validate files roots session).1.problems = (validate files roots session).2.1.length := by
  refine ⟨⟨lossesOf files roots, nodup_lossesOf hwf hlisted roots,
      fun _ => mem_lossesOf hwf hlisted, ?_⟩,
    ⟨(comparisonsOf files roots).map fun c => (c.typeName, c.variant),
      List.pairwise_map.2 (pairwise_comparisonsOf hwf hlisted roots), fun typeName variant => ?_, ?_⟩,
    summary_validateTypes.2⟩
  · rw [problems_eq_map_losses, List.forall₂_map_right_iff]
    exact List.forall₂_same.2 fun loss hloss => ((mem_lossesOf hwf hlisted).1 hloss).reported
  · rw [List.mem_map]
    constructor
    · rintro ⟨c, hc, heq⟩
      obtain ⟨rfl, rfl⟩ := Prod.mk.inj heq
      exact ⟨c.baseline, c.type, (mem_comparisonsOf hwf hlisted).1 hc⟩
    · rintro ⟨baseline, type, hcompared⟩
      exact ⟨⟨typeName, variant, baseline, type⟩, (mem_comparisonsOf hwf hlisted).2 hcompared, rfl⟩
  · rw [List.length_map]
    exact comparisons_validate session

/-- An output folder with a type that loses a method in release 9, and with a broken class file in
release 11. -/
def lossyOutput : Files where
  entries := [(["src9"], .folder),
    (["src9", "T.java"], .file (.ofBytes []) false),
    (["out"], .folder),
    (["out", "T.class"], .file (.ofBytes (sampleStub ["run", "stop"]).encode) false),
    (["out", "META-INF"], .folder),
    (["out", "META-INF", "versions"], .folder),
    (["out", "META-INF", "versions", "9"], .folder),
    (["out", "META-INF", "versions", "9", "T.class"],
      .file (.ofBytes (sampleStub ["run"]).encode) false),
    (["out", "META-INF", "versions", "11"], .folder),
    (["out", "META-INF", "versions", "11", "T.class"], .file (.ofBytes [0xCA, 0xFE]) false)]

theorem wellFormed_lossyOutput : lossyOutput.WellFormed :=
  Files.wellFormed_of_forall (by decide) (by decide)

theorem linkFree_lossyOutput : lossyOutput.LinkFree := Files.linkFree_of_forall (by decide)

theorem listedOnce_lossyOutput : lossyOutput.ListedOnce := by
  rw [Files.ListedOnce]
  decide

theorem ofType_sampleStub : ∀ methods ∈ [["run"], ["run", "stop"]],
    ApiSignature.ofType (sampleStub methods).type
      = ⟨methods.map fun name => (name, "()V"), []⟩ := by
  intro methods hmethods
  simp only [List.mem_cons, List.not_mem_nil, or_false] at hmethods
  rcases hmethods with rfl | rfl <;>
  · rw [ApiSignature.ofType, ApiSignature.keysOf, ApiSignature.keysOf, sortedDistinct, sortedDistinct,
      List.mergeSort_of_pairwise (by decide), List.mergeSort_of_pairwise (by decide)]
    decide

theorem signatureOf_sampleStub {files : Files} (hwf : files.WellFormed) (hlf : files.LinkFree)
    {text : String} {release : Release} (names methods : List String)
    (htext : "/".intercalate names = text) (hnames : names ≠ [])
    (hentry : files.entryAt? (files.workingFolder ++ names)
      = some (.file (.ofBytes (sampleStub methods).encode) false))
    (hmethods : methods ∈ [["run"], ["run", "stop"]]) :
    signatureOf files ⟨⟨text⟩, release⟩ = some ⟨methods.map fun name => (name, "()V"), []⟩ := by
  rw [← ofType_sampleStub methods hmethods, ← htext]
  exact signatureOf_of_read? (Files.read?_intercalate hwf hlf hnames hentry)
    (parse_sampleStub methods hmethods)

/-- The source file of the type `T` is found in the only root that may have it. -/
theorem findSourceFile_sample {files : Files} {roots : List SourceRoot} (hwf : files.WellFormed)
    (hlf : files.LinkFree) {release : Release} {text : String} (names : List String)
    (htext : "/".intercalate names = text) (hnames : names ≠ [])
    (hentry : files.entryAt? (files.workingFolder ++ names) = some (.file (.ofBytes []) false))
    (hpaths : (roots.filter fun root => release = .unversioned || root.release = release).map
      (fun root => root.sourceFolder.child (sourceFileOf "T")) = [⟨text⟩]) :
    findSourceFile files roots "T" release = some ⟨text⟩ := by
  have hfile := Files.isFile_intercalate hwf hlf hnames hentry
  rw [htext] at hfile
  rw [findSourceFile, hpaths, List.find?_cons, hfile]

theorem variantsOfOutput_lossyOutput : variantsOfOutput lossyOutput ⟨"out"⟩
    = [("T", ⟨⟨"out/T.class"⟩, .unversioned⟩),
        ("T", ⟨⟨"out/META-INF/versions/9/T.class"⟩, .java 9⟩),
        ("T", ⟨⟨"out/META-INF/versions/11/T.class"⟩, .java 11⟩)] := by
  rw [variantsOfOutput_eq wellFormed_lossyOutput linkFree_lossyOutput
    (Files.leads_name wellFormed_lossyOutput linkFree_lossyOutput rfl) rfl]
  decide

theorem collectVariants_lossyOutput : (collectVariants lossyOutput sampleRoots).entries
    = [("T", [⟨⟨"out/T.class"⟩, .unversioned⟩,
        ⟨⟨"out/META-INF/versions/9/T.class"⟩, .java 9⟩,
        ⟨⟨"out/META-INF/versions/11/T.class"⟩, .java 11⟩])] := by
  rw [collectVariants, outputFolders_sampleRoots, List.flatMap_singleton,
    variantsOfOutput_lossyOutput]
  decide

theorem problems_lossyOutput : (validate lossyOutput sampleRoots {}).2.1
    = [⟨⟨"src9/T.java"⟩, none, "Multi-Release type 'T': public method 'stop' from base version is " ++
        "missing in version 9", .error⟩] := by
  have hwf := wellFormed_lossyOutput
  have hlf := linkFree_lossyOutput
  have hbaseline : signatureOf lossyOutput ⟨⟨"out/T.class"⟩, .unversioned⟩
      = some ⟨[("run", "()V"), ("stop", "()V")], []⟩ :=
    signatureOf_sampleStub hwf hlf ["out", "T.class"] ["run", "stop"] (by decide) (by decide)
      rfl (by decide)
  have hoverlay : signatureOf lossyOutput ⟨⟨"out/META-INF/versions/9/T.class"⟩, .java 9⟩
      = some ⟨[("run", "()V")], []⟩ :=
    signatureOf_sampleStub hwf hlf ["out", "META-INF", "versions", "9", "T.class"] ["run"]
      (by decide) (by decide) rfl (by decide)
  have hbroken : signatureOf lossyOutput ⟨⟨"out/META-INF/versions/11/T.class"⟩, .java 11⟩
      = none := by
    have hread := Files.read?_intercalate hwf hlf
      (List.cons_ne_nil "out" ["META-INF", "versions", "11", "T.class"])
      (show lossyOutput.entryAt? _ = some (.file (.ofBytes [0xCA, 0xFE]) false) from rfl)
    rw [show "/".intercalate ["out", "META-INF", "versions", "11", "T.class"]
      = "out/META-INF/versions/11/T.class" by decide] at hread
    rw [signatureOf, hread, Option.bind_some]
    decide
  have hsource : findSourceFile lossyOutput sampleRoots "T" (.java 9) = some ⟨"src9/T.java"⟩ :=
    findSourceFile_sample hwf hlf ["src9", "T.java"] (by decide) (by decide) rfl
      (by decide)
  rw [problems_validate, collectVariants_lossyOutput, List.flatMap_singleton]
  dsimp only
  rw [reportsOfType, List.mergeSort_of_pairwise (by decide)]
  simp only [hbaseline, hoverlay, hbroken, hsource, List.flatMap_cons, List.flatMap_nil,
    reportsOfVariant, Option.getD_some, List.append_nil]
  decide

theorem validate_exact_sample : lossyOutput.WellFormed ∧ lossyOutput.ListedOnce ∧
    ∃ losses : List Loss, losses.Nodup ∧
      (∀ loss, loss ∈ losses ↔ loss.Holds lossyOutput sampleRoots) ∧
      List.Forall₂ (Loss.Reported lossyOutput sampleRoots) losses
        [⟨⟨"src9/T.java"⟩, none, "Multi-Release type 'T': public method 'stop' from base version " ++
          "is missing in version 9", .error⟩] := by
  obtain ⟨⟨losses, hnodup, hmem, hreported⟩, -, -⟩ :=
    validate_exact lossyOutput wellFormed_lossyOutput listedOnce_lossyOutput sampleRoots {}
  rw [problems_lossyOutput] at hreported
  exact ⟨wellFormed_lossyOutput, listedOnce_lossyOutput, losses, hnodup, hmem, hreported⟩

end Validation

end MultiRelease
