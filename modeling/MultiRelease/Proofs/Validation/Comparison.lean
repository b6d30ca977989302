import MultiRelease.Proofs.Files.Order
import MultiRelease.Proofs.Release
import MultiRelease.Proofs.Sorted
import MultiRelease.Validation

/-!
# What a validation reports

A validation works its way through types and variants in a session, but what is read from a class
file does not depend on what was read before (`Validation.readSignature_fst`).  So what is reported
can be said without a session, variant by variant (`Validation.reportsOfVariant`) and type by type
(`Validation.reportsOfType`).  That this is what a validation reports is
`Validation.problems_validate`, which goes along its loops.

If nothing is reported, then no variant of a release lacks a public member of the unversioned
variant of its type (`Validation.covers_of_clean`).  The variants of a type are sorted before they
are compared, by release and then by path, which puts an unversioned one in front of all others
(`Validation.release_of_first`).  That sorting does so takes an order that is transitive and total.
-/

set_option autoImplicit false

namespace MultiRelease

/-! ## Signatures -/

namespace ApiSignature

/-- The keys of members are their names with their descriptors. -/
theorem mem_keysOf {members : List Member} {key : MemberKey} :
    key ∈ keysOf members ↔ ∃ m ∈ members, m.name = key.1 ∧ m.descriptor = key.2 := by
  rw [keysOf, mem_sortedDistinct fun a b h => of_decide_eq_true h, List.mem_map]
  exact exists_congr fun m => and_congr_right fun _ => Prod.ext_iff

/-- The signature has all the members of another one. -/
structure Covers (signature baseline : ApiSignature) : Prop where
  methods : ∀ m ∈ baseline.methods, m ∈ signature.methods
  fields : ∀ m ∈ baseline.fields, m ∈ signature.fields

end ApiSignature

/-! ## The order of variants -/

namespace TypeVariant

theorem precedes_trans (a b c : TypeVariant) (hab : a.precedes b = true)
    (hbc : b.precedes c = true) : a.precedes c = true := by
  rw [precedes] at hab hbc ⊢
  by_cases hab' : a.release = b.release
  · rw [if_pos hab'] at hab
    by_cases hbc' : b.release = c.release
    · rw [if_pos hbc'] at hbc
      rw [if_pos (hab'.trans hbc')]
      exact Path.precedes_trans hab hbc
    · rw [if_neg hbc'] at hbc
      rwa [hab', if_neg hbc']
  · rw [if_neg hab'] at hab
    by_cases hbc' : b.release = c.release
    · rwa [← hbc', if_neg hab']
    · rw [if_neg hbc'] at hbc
      have hac : a.release ≠ c.release := fun hac =>
        hab' (Release.precedes_antisymm hab (hac ▸ hbc))
      rw [if_neg hac]
      exact Release.precedes_trans _ _ _ hab hbc

theorem precedes_total (a b : TypeVariant) : (a.precedes b || b.precedes a) = true := by
  rw [precedes, precedes]
  by_cases hab : a.release = b.release
  · rw [if_pos hab, if_pos hab.symm, Bool.or_eq_true]
    exact Path.precedes_total _ _
  · rw [if_neg hab, if_neg (Ne.symm hab)]
    exact Release.precedes_total _ _

theorem release_of_precedes {a b : TypeVariant} (h : a.precedes b = true)
    (hb : b.release = .unversioned) : a.release = .unversioned := by
  rw [precedes] at h
  split at h
  · rename_i hab
    rw [hab, hb]
  · rw [hb] at h
    cases hrelease : a.release with
    | unversioned => rfl
    | java n => rw [hrelease] at h; cases h

end TypeVariant

namespace Validation

variable {files : Files} {roots : List SourceRoot}

/-- **An unversioned variant comes first.** -/
theorem release_of_first {variants later : List TypeVariant} {first base : TypeVariant}
    (hsorted : variants.mergeSort TypeVariant.precedes = first :: later) (hbase : base ∈ variants)
    (hrelease : base.release = .unversioned) : first.release = .unversioned := by
  have hpairwise := List.pairwise_mergeSort TypeVariant.precedes_trans TypeVariant.precedes_total
    variants
  have hmem : base ∈ variants.mergeSort TypeVariant.precedes := List.mem_mergeSort.2 hbase
  rw [hsorted] at hmem
  rw [hsorted, List.pairwise_cons] at hpairwise
  rcases List.mem_cons.1 hmem with rfl | hlater
  · exact hrelease
  · exact TypeVariant.release_of_precedes (hpairwise.1 base hlater) hrelease

/-! ## Comparisons -/

/-- The public members in the class file of a variant. -/
def signatureOf (files : Files) (variant : TypeVariant) : Option ApiSignature :=
  (files.read? variant.classFile).bind fun content =>
    (parseBinaryType content.bytes).toOption.map ApiSignature.ofType

/-- What is read from a class file does not depend on the session. -/
theorem readSignature_fst (files : Files) (session : Session) (variant : TypeVariant) :
    (readSignature files session variant).1 = signatureOf files variant := by
  rw [readSignature, signatureOf]
  cases files.read? variant.classFile with
  | none => rfl
  | some content =>
    dsimp only [Session.decode, Option.bind_some]
    cases parseBinaryType content.bytes <;> rfl

/-- Nothing is missing if and only if all members are there. -/
theorem missingMembers_eq_nil_iff {resource : Path} {typeName : String} {number : UInt16}
    {baseline signature : ApiSignature} :
    missingMembers resource typeName number baseline signature = [] ↔
      signature.Covers baseline := by
  simp only [missingMembers, List.append_eq_nil_iff, List.map_eq_nil_iff, List.filter_eq_nil_iff,
    Bool.not_eq_true', Bool.not_eq_false, List.contains_iff_mem]
  exact ⟨fun ⟨methods, fields⟩ => ⟨methods, fields⟩, fun h => ⟨h.methods, h.fields⟩⟩

/-! ## Reports -/

section

variable (files roots) (typeName : String)

/-- What is reported of a variant that is compared with a baseline. -/
def reportsOfVariant (baseline : ApiSignature) (variant : TypeVariant) : List Problem :=
  match variant.release, signatureOf files variant with
  | .java number, some signature =>
    missingMembers ((findSourceFile files roots typeName variant.release).getD variant.classFile)
      typeName number baseline signature
  | _, _ => []

/-- What is reported of a type with the given variants. -/
def reportsOfType (variants : List TypeVariant) : List Problem :=
  match variants.mergeSort TypeVariant.precedes with
  | [] => []
  | first :: later =>
    match signatureOf files first with
    | none => []
    | some baseline => later.flatMap (reportsOfVariant files roots typeName baseline)

end

/-- The reports on the variants of a type, one variant after the other. -/
theorem problems_compareVariants {typeName : String} {baseline : ApiSignature}
    {variants : List TypeVariant} :
    ∀ {session : Session},
      (compareVariants files roots typeName baseline variants session).2.1
        = variants.flatMap (reportsOfVariant files roots typeName baseline) := by
  induction variants with
  | nil => exact fun {_} => rfl
  | cons variant variants ih =>
    intro session
    rw [compareVariants, List.flatMap_cons, reportsOfVariant]
    cases hrelease : variant.release with
    | unversioned => exact ih
    | java number =>
      have hread := readSignature_fst files session variant
      cases hresult : readSignature files session variant with
      | mk found after =>
        rw [hresult] at hread
        obtain rfl : found = signatureOf files variant := hread
        cases signatureOf files variant with
        | none => exact ih
        | some signature => simp only [ih]

theorem problems_validateType {typeName : String} {variants : List TypeVariant}
    {session : Session} :
    (validateType files roots typeName (variants.mergeSort TypeVariant.precedes) session).2.1
      = reportsOfType files roots typeName variants := by
  rw [reportsOfType]
  cases variants.mergeSort TypeVariant.precedes with
  | nil => rfl
  | cons first later =>
    have hread := readSignature_fst files session first
    rw [validateType]
    cases hresult : readSignature files session first with
    | mk found after =>
      rw [hresult] at hread
      obtain rfl : found = signatureOf files first := hread
      dsimp only
      cases signatureOf files first with
      | none => rfl
      | some baseline => exact problems_compareVariants

/-- A single variant is compared with nothing. -/
theorem reportsOfType_eq_nil {typeName : String} {variants : List TypeVariant}
    (h : variants.length < 2) : reportsOfType files roots typeName variants = [] := by
  have hlength : (variants.mergeSort TypeVariant.precedes).length < 2 := by
    rwa [List.length_mergeSort]
  rw [reportsOfType]
  cases hsorted : variants.mergeSort TypeVariant.precedes with
  | nil => rfl
  | cons first later =>
    rw [hsorted, List.length_cons] at hlength
    obtain rfl : later = [] := List.length_eq_zero_iff.1 (by omega)
    dsimp only
    cases signatureOf files first <;> rfl

theorem problems_validateTypes {entries : List (String × List TypeVariant)} :
    ∀ {session : Session}, (validateTypes files roots entries session).2.1
      = entries.flatMap fun (typeName, variants) =>
          reportsOfType files roots typeName variants := by
  induction entries with
  | nil => exact fun {_} => rfl
  | cons entry entries ih =>
    intro session
    obtain ⟨typeName, variants⟩ := entry
    rw [validateTypes, List.flatMap_cons]
    dsimp only
    split
    · rename_i hsingle
      rw [ih, reportsOfType_eq_nil hsingle, List.nil_append]
    · dsimp only
      rw [ih, problems_validateType]

/-- **What a validation reports**, whatever the session it works in. -/
theorem problems_validate (session : Session) : (validate files roots session).2.1
    = (collectVariants files roots).entries.flatMap fun (typeName, variants) =>
        reportsOfType files roots typeName variants :=
  problems_validateTypes

/-! ## Clean validations -/

/-- **A clean validation says that no variant lacks what the unversioned one has.** -/
theorem covers_of_clean {session : Session} (hclean : (validate files roots session).2.1 = [])
    {typeName : String} {variants : List TypeVariant}
    (hgroup : (typeName, variants) ∈ (collectVariants files roots).entries)
    {base overlay : TypeVariant} (hbase : base ∈ variants) (hoverlay : overlay ∈ variants)
    (hunversioned : base.release = .unversioned) {number : UInt16}
    (hnumber : overlay.release = .java number) {baseline signature : ApiSignature}
    (hbaseline : ∀ variant ∈ variants, variant.release = .unversioned →
      signatureOf files variant = some baseline)
    (hsignature : signatureOf files overlay = some signature) : signature.Covers baseline := by
  rw [problems_validate, List.flatMap_eq_nil_iff] at hclean
  have hreports : reportsOfType files roots typeName variants = [] := hclean _ hgroup
  rw [reportsOfType] at hreports
  have hmem : ∀ {variant}, variant ∈ variants.mergeSort TypeVariant.precedes ↔
      variant ∈ variants := List.mem_mergeSort
  cases hsorted : variants.mergeSort TypeVariant.precedes with
  | nil =>
    rw [hsorted] at hmem
    exact absurd (hmem.2 hbase) List.not_mem_nil
  | cons first later =>
    rw [hsorted] at hmem
    have hfirst := release_of_first hsorted hbase hunversioned
    simp only [hsorted, hbaseline first (hmem.1 List.mem_cons_self) hfirst,
      List.flatMap_eq_nil_iff] at hreports
    -- the overlay is not what comes first, as that is unversioned
    rcases List.mem_cons.1 (hmem.2 hoverlay) with rfl | hlater
    · cases hfirst.symm.trans hnumber
    · have hvariant := hreports overlay hlater
      rw [reportsOfVariant, hnumber, hsignature] at hvariant
      exact missingMembers_eq_nil_iff.1 hvariant

end Validation

end MultiRelease
