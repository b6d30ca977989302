import MultiRelease.Proofs.Validation.Exactness

/-!
# Reports that speak of a baseline

A report says that something is missing that the base version has.  The variant that a validation
compares with is the anchor of the type, the first of all that were found in any output folder.  It
is the baseline beside the class file at fault if there is one and no other output folder has a
baseline of the type (`Validation.Based`).  Then what is reported is declared by that baseline
(`Validation.baselineDeclares_of_reported`).

Both conditions are needed.  An unversioned variant stands in front of all others, so that with two
baselines the path decides between them, and without any the first overlay takes its place.  The
latter is shown by example: a type that is new in release 9 and loses a method in release 11 is
reported, although there is no base version (`Validation.exists_reported_without_baseline`).
-/

set_option autoImplicit false

namespace MultiRelease

namespace Validation

variable {files : Files} {roots : List SourceRoot}

/-- The output folder holds an unversioned class file of the type, which can be read and declares
the member. -/
def BaselineDeclares (files : Files) (output : Path) (typeName : String) (kind : MemberKind)
    (key : MemberKey) : Prop :=
  ∃ base type, (typeName, base) ∈ variantsOfOutput files output ∧ base.release = .unversioned ∧
    typeOf? files base = some type ∧ type.Declares kind key

/-- The output folder holds a baseline of the type, and no other output folder holds one. -/
structure Based (files : Files) (roots : List SourceRoot) (output : Path) (typeName : String) :
    Prop where
  baseline : ∃ base, (typeName, base) ∈ variantsOfOutput files output ∧ base.release = .unversioned
  only : ∀ other ∈ outputFolders roots, ∀ base, (typeName, base) ∈ variantsOfOutput files other →
    base.release = .unversioned → other = output

/-- The variants of a type are those that some output folder holds. -/
theorem mem_variantsOf_iff {typeName : String} {variant : TypeVariant} :
    variant ∈ variantsOf files roots typeName ↔
      ∃ output ∈ outputFolders roots, (typeName, variant) ∈ variantsOfOutput files output := by
  rw [mem_variantsOf, allVariants, List.mem_flatMap]

/-- The anchor of a type is its baseline. -/
theorem Based.anchor {output : Path} {typeName : String} (h : Based files roots output typeName)
    (houtput : output ∈ outputFolders roots) {anchor : TypeVariant}
    (hanchor : IsAnchor files roots typeName anchor) :
    (typeName, anchor) ∈ variantsOfOutput files output ∧ anchor.release = .unversioned := by
  obtain ⟨base, hbase, hrelease⟩ := h.baseline
  have hfirst := hanchor.first base (mem_variantsOf_iff.2 ⟨output, houtput, hbase⟩)
  have hunversioned := TypeVariant.release_of_precedes hfirst hrelease
  obtain ⟨other, hother, hfound⟩ := mem_variantsOf_iff.1 hanchor.collected
  obtain rfl := h.only other hother anchor hfound hunversioned
  exact ⟨hfound, hunversioned⟩

/-- **What is reported to be missing is declared by the baseline** in the output folder of the class
file that lacks it, provided that this folder has the baseline of the type and no other has. -/
theorem baselineDeclares_of_reported (hwf : files.WellFormed) (hlisted : files.ListedOnce)
    (session : Session) :
    ∀ problem ∈ (validate files roots session).2.1, ∃ loss : Loss, ∃ output ∈ outputFolders roots,
      loss.Reported files roots problem ∧
        (loss.typeName, loss.variant) ∈ variantsOfOutput files output ∧
        (∃ number, loss.variant.release = .java number) ∧
        (Based files roots output loss.typeName →
          BaselineDeclares files output loss.typeName loss.kind loss.key) := by
  intro problem hproblem
  rw [problems_eq_map_losses] at hproblem
  obtain ⟨loss, hloss, rfl⟩ := List.mem_map.1 hproblem
  have hholds := (mem_lossesOf hwf hlisted).1 hloss
  have hreported := hholds.reported
  obtain ⟨baseline, type, hcompared, hdeclares, -⟩ := hholds
  obtain ⟨anchor, hanchor, -, hbaseline⟩ := hcompared.anchor
  obtain ⟨output, houtput, hvariant⟩ := mem_variantsOf_iff.1 hcompared.collected
  refine ⟨loss, output, houtput, hreported, hvariant, hcompared.versioned, fun hbased => ?_⟩
  obtain ⟨hfound, hrelease⟩ := hbased.anchor houtput hanchor
  exact ⟨anchor, baseline, hfound, hrelease, hbaseline, hdeclares⟩

theorem based_lossyOutput {output : Path} (houtput : output ∈ outputFolders sampleRoots)
    {typeName : String} {variant : TypeVariant}
    (hvariant : (typeName, variant) ∈ variantsOfOutput lossyOutput output) :
    Based lossyOutput sampleRoots output typeName := by
  rw [outputFolders_sampleRoots, List.mem_singleton] at houtput
  rw [houtput, variantsOfOutput_lossyOutput] at hvariant
  have hname : typeName = "T" := by
    simp only [List.mem_cons, Prod.mk.injEq, List.not_mem_nil, or_false] at hvariant
    rcases hvariant with ⟨rfl, -⟩ | ⟨rfl, -⟩ | ⟨rfl, -⟩ <;> rfl
  rw [houtput, hname]
  refine ⟨?_, fun other hother _ _ _ => ?_⟩
  · rw [variantsOfOutput_lossyOutput]
    exact ⟨_, List.mem_cons_self, rfl⟩
  · rwa [outputFolders_sampleRoots, List.mem_singleton] at hother

theorem baselineDeclares_of_reported_sample :
    lossyOutput.WellFormed ∧ lossyOutput.ListedOnce ∧
      ∃ loss : Loss, ∃ output ∈ outputFolders sampleRoots,
        loss.Reported lossyOutput sampleRoots ⟨⟨"src9/T.java"⟩, none, "Multi-Release type 'T': " ++
            "public method 'stop' from base version is missing in version 9", .error⟩ ∧
          (loss.typeName, loss.variant) ∈ variantsOfOutput lossyOutput output ∧
          BaselineDeclares lossyOutput output loss.typeName loss.kind loss.key := by
  refine ⟨wellFormed_lossyOutput, listedOnce_lossyOutput, ?_⟩
  obtain ⟨loss, output, houtput, hreported, hvariant, -, hdeclares⟩ :=
    baselineDeclares_of_reported wellFormed_lossyOutput listedOnce_lossyOutput {} _
      (problems_lossyOutput ▸ List.mem_cons_self)
  exact ⟨loss, output, houtput, hreported, hvariant, hdeclares (based_lossyOutput houtput hvariant)⟩

/-! ## Overlays without a baseline -/

/-- An output folder with a type that is new in release 9 and loses a method in release 11. -/
def overlaysOnly : Files where
  entries := [(["src11"], .folder),
    (["src11", "T.java"], .file (.ofBytes []) false),
    (["out"], .folder),
    (["out", "META-INF"], .folder),
    (["out", "META-INF", "versions"], .folder),
    (["out", "META-INF", "versions", "9"], .folder),
    (["out", "META-INF", "versions", "9", "T.class"],
      .file (.ofBytes (sampleStub ["run", "stop"]).encode) false),
    (["out", "META-INF", "versions", "11"], .folder),
    (["out", "META-INF", "versions", "11", "T.class"],
      .file (.ofBytes (sampleStub ["run"]).encode) false)]

/-- The overlays of the two releases. -/
def overlayRoots : List SourceRoot :=
  [.ofFolders ⟨"src9"⟩ ⟨"out"⟩ (some 9), .ofFolders ⟨"src11"⟩ ⟨"out"⟩ (some 11)]

theorem wellFormed_overlaysOnly : overlaysOnly.WellFormed :=
  Files.wellFormed_of_forall (by decide) (by decide)

theorem linkFree_overlaysOnly : overlaysOnly.LinkFree := Files.linkFree_of_forall (by decide)

theorem variantsOfOutput_overlaysOnly : variantsOfOutput overlaysOnly ⟨"out"⟩
    = [("T", ⟨⟨"out/META-INF/versions/9/T.class"⟩, .java 9⟩),
        ("T", ⟨⟨"out/META-INF/versions/11/T.class"⟩, .java 11⟩)] := by
  rw [variantsOfOutput_eq wellFormed_overlaysOnly linkFree_overlaysOnly
    (Files.leads_name wellFormed_overlaysOnly linkFree_overlaysOnly rfl) rfl]
  decide

theorem outputFolders_overlayRoots : outputFolders overlayRoots = [⟨"out"⟩] := by
  rw [outputFolders, sortedDistinct, List.mergeSort_of_pairwise (by decide)]
  decide

theorem problems_overlaysOnly : (validate overlaysOnly overlayRoots {}).2.1
    = [⟨⟨"src11/T.java"⟩, none, "Multi-Release type 'T': public method 'stop' from base version " ++
        "is missing in version 11", .error⟩] := by
  have hwf := wellFormed_overlaysOnly
  have hlf := linkFree_overlaysOnly
  have hfirst : signatureOf overlaysOnly ⟨⟨"out/META-INF/versions/9/T.class"⟩, .java 9⟩
      = some ⟨[("run", "()V"), ("stop", "()V")], []⟩ :=
    signatureOf_sampleStub hwf hlf ["out", "META-INF", "versions", "9", "T.class"] ["run", "stop"]
      (by decide) (by decide) rfl (by decide)
  have hlater : signatureOf overlaysOnly ⟨⟨"out/META-INF/versions/11/T.class"⟩, .java 11⟩
      = some ⟨[("run", "()V")], []⟩ :=
    signatureOf_sampleStub hwf hlf ["out", "META-INF", "versions", "11", "T.class"] ["run"]
      (by decide) (by decide) rfl (by decide)
  have hsource : findSourceFile overlaysOnly overlayRoots "T" (.java 11)
      = some ⟨"src11/T.java"⟩ :=
    findSourceFile_sample hwf hlf ["src11", "T.java"] (by decide) (by decide) rfl
      (by decide)
  have hgroups : (collectVariants overlaysOnly overlayRoots).entries
      = [("T", [⟨⟨"out/META-INF/versions/9/T.class"⟩, .java 9⟩,
          ⟨⟨"out/META-INF/versions/11/T.class"⟩, .java 11⟩])] := by
    rw [collectVariants, outputFolders_overlayRoots, List.flatMap_singleton,
      variantsOfOutput_overlaysOnly]
    decide
  rw [problems_validate, hgroups, List.flatMap_singleton]
  dsimp only
  rw [reportsOfType, List.mergeSort_of_pairwise (by decide)]
  simp only [hfirst, hlater, hsource, List.flatMap_cons, List.flatMap_nil, reportsOfVariant,
    Option.getD_some, List.append_nil]
  decide

/-- **The overlay of a later release is compared with that of an earlier one**, where the type has
no baseline. -/
theorem exists_reported_without_baseline :
    (validate overlaysOnly overlayRoots {}).2.1
        = [⟨⟨"src11/T.java"⟩, none, "Multi-Release type 'T': public method 'stop' from base " ++
            "version is missing in version 11", .error⟩] ∧
      ∀ output ∈ outputFolders overlayRoots, ∀ variant,
        ("T", variant) ∈ variantsOfOutput overlaysOnly output →
          variant.release ≠ .unversioned := by
  refine ⟨problems_overlaysOnly, fun output houtput variant hvariant => ?_⟩
  rw [outputFolders_overlayRoots, List.mem_singleton] at houtput
  rw [houtput, variantsOfOutput_overlaysOnly] at hvariant
  simp only [List.mem_cons, Prod.mk.injEq, true_and, List.not_mem_nil, or_false] at hvariant
  rcases hvariant with rfl | rfl <;> exact fun h => by cases h

end Validation

end MultiRelease
