import Mathlib.Data.List.Nodup
import MultiRelease.Proofs.Text.Cutting
import MultiRelease.Proofs.Validation.Distinct

/-!
# What is lost in a variant

The first variant of a type, by release and then by path, is its anchor (`Validation.IsAnchor`).
Every other variant of a release that can be read is compared with it (`Validation.Compared`), and
what is lost there are the public members that the anchor has and the variant has not
(`Validation.Loss.Holds`).  How a loss is reported is said by `Validation.Loss.Reported`: against
the source file in the first root of the release that has one, or else against the class file
(`Validation.Loss.BlamedOn`).

These notions do not speak of how a validation proceeds.  What it does is said here by a list, of
all the comparisons that it makes (`Validation.comparisonsOf`):

* `Validation.comparisons_validate`: a validation counts them.
* `Validation.problems_eq_map_losses`: its reports are the losses of one comparison after the other,
  methods before fields (`Validation.Comparison.losses`).
* `Validation.Loss.reported_report`: each of these reports is that of its loss.

A validation goes through types and variants with a session, and the list of comparisons does
without one.  So the two are related loop by loop, by induction on the variants of a type and then
on the types.
-/

set_option autoImplicit false

namespace MultiRelease

open Text

/-! ## Public members -/

/-- The kinds of members. -/
inductive MemberKind where
  | method
  | field
deriving Repr, DecidableEq

/-- The word for a kind of members. -/
def MemberKind.word : MemberKind → String
  | .method => "method"
  | .field => "field"

/-- The public members of a kind. -/
def BinaryType.publicMembers (type : BinaryType) : MemberKind → List Member
  | .method => type.publicMethods
  | .field => type.publicFields

/-- The type has a public member of a kind with a name and a descriptor. -/
def BinaryType.Declares (type : BinaryType) (kind : MemberKind) (key : MemberKey) : Prop :=
  ∃ m ∈ type.publicMembers kind, m.name = key.1 ∧ m.descriptor = key.2

namespace MemberKey

/-- Members are ordered by name and then by descriptor. -/
theorem precedes_iff {a b : MemberKey} :
    precedes a b = true ↔ a.1 ≠ b.1 ∧ a.1 ≤ b.1 ∨ a.1 = b.1 ∧ a.2 ≤ b.2 := by
  rw [precedes]
  split
  · rename_i heq
    simp [heq]
  · rename_i hne
    simp [hne]

theorem precedes_trans (a b c : MemberKey) (hab : precedes a b = true)
    (hbc : precedes b c = true) : precedes a c = true := by
  rw [precedes_iff] at hab hbc ⊢
  rcases hab with ⟨hab, hab'⟩ | ⟨hab, hab'⟩
  · rcases hbc with ⟨hbc, hbc'⟩ | ⟨hbc, -⟩
    · refine .inl ⟨fun hac => ?_, String.le_trans hab' hbc'⟩
      rw [hac] at hab hab'
      exact hab (String.le_antisymm hab' hbc')
    · exact .inl ⟨hbc ▸ hab, hbc ▸ hab'⟩
  · rcases hbc with ⟨hbc, hbc'⟩ | ⟨hbc, hbc'⟩
    · exact .inl ⟨hab ▸ hbc, hab ▸ hbc'⟩
    · exact .inr ⟨hab.trans hbc, String.le_trans hab' hbc'⟩

theorem precedes_total (a b : MemberKey) : (precedes a b || precedes b a) = true := by
  rw [Bool.or_eq_true, precedes_iff, precedes_iff]
  by_cases heq : a.1 = b.1
  · exact (String.le_total a.2 b.2).imp (fun h => .inr ⟨heq, h⟩) fun h => .inr ⟨heq.symm, h⟩
  · exact (String.le_total a.1 b.1).imp (fun h => .inl ⟨heq, h⟩) fun h => .inl ⟨Ne.symm heq, h⟩

theorem eq_iff_precedes (a b : MemberKey) :
    decide (a = b) = true ↔ precedes a b = true ∧ precedes b a = true := by
  rw [decide_eq_true_eq, precedes_iff, precedes_iff]
  constructor
  · rintro rfl
    exact ⟨.inr ⟨rfl, String.le_refl _⟩, .inr ⟨rfl, String.le_refl _⟩⟩
  · rintro ⟨⟨hne, hab⟩ | ⟨heq, hab⟩, ⟨hne', hba⟩ | ⟨heq', hba⟩⟩
    · exact absurd (String.le_antisymm hab hba) hne
    · exact absurd heq'.symm hne
    · exact absurd heq.symm hne'
    · exact Prod.ext heq (String.le_antisymm hab hba)

end MemberKey

namespace ApiSignature

/-- The members of a kind. -/
def keys (signature : ApiSignature) : MemberKind → List MemberKey
  | .method => signature.methods
  | .field => signature.fields

theorem keys_ofType (type : BinaryType) (kind : MemberKind) :
    (ofType type).keys kind = keysOf (type.publicMembers kind) := by
  cases kind <;> rfl

/-- The signature of a type has what the type declares. -/
theorem mem_keys_ofType {type : BinaryType} {kind : MemberKind} {key : MemberKey} :
    key ∈ (ofType type).keys kind ↔ type.Declares kind key := by
  rw [keys_ofType]
  exact mem_keysOf

/-- The signature of a type has every member once. -/
theorem nodup_keys_ofType (type : BinaryType) (kind : MemberKind) :
    ((ofType type).keys kind).Nodup := by
  rw [keys_ofType, keysOf]
  refine (pairwise_sortedDistinct MemberKey.precedes_trans MemberKey.precedes_total
    MemberKey.eq_iff_precedes _).imp ?_
  exact fun hne => of_decide_eq_false hne

end ApiSignature

namespace Validation

variable (files : Files) (roots : List SourceRoot)

/-! ## Comparisons and losses -/

/-- The type in the class file of a variant, if it can be read. -/
def typeOf? (variant : TypeVariant) : Option BinaryType :=
  (files.read? variant.classFile).bind fun content => (parseBinaryType content.bytes).toOption

/-- The variant of a type that the others are compared with. -/
structure IsAnchor (typeName : String) (anchor : TypeVariant) : Prop where
  collected : anchor ∈ variantsOf files roots typeName
  first : ∀ other ∈ variantsOf files roots typeName, anchor.precedes other = true

/-- A variant of a type that is compared with the anchor. -/
structure Compared (typeName : String) (variant : TypeVariant) (baseline type : BinaryType) :
    Prop where
  anchor : ∃ anchor, IsAnchor files roots typeName anchor ∧ anchor ≠ variant ∧
    typeOf? files anchor = some baseline
  collected : variant ∈ variantsOf files roots typeName
  versioned : ∃ number, variant.release = .java number
  readable : typeOf? files variant = some type

/-- A public member that is missing in a variant of a type. -/
structure Loss where
  typeName : String
  variant : TypeVariant
  kind : MemberKind
  key : MemberKey

/-- The member is lost: the anchor of the type has it. -/
def Loss.Holds (loss : Loss) : Prop :=
  ∃ baseline type, Compared files roots loss.typeName loss.variant baseline type ∧
    baseline.Declares loss.kind loss.key ∧ ¬ type.Declares loss.kind loss.key

/-! ## Source files -/

/-- The place of the source file of a type below a source folder.  The name of the package ends at
the last slash, and the name of the outermost type at the first `$` behind it. -/
def IsSourceFileOf (typeName file : String) : Prop :=
  ∃ package outer inner : List Char, typeName.toList = package ++ (outer ++ inner) ∧
    (package = [] ∨ package.getLast? = some '/') ∧ '/' ∉ outer ++ inner ∧
    '$' ∉ outer ∧ (inner = [] ∨ inner.head? = some '$') ∧
    file.toList = package ++ outer ++ ".java".toList

/-- The file that a loss is reported against: the source file in the first root of the release that
has one, or else the class file. -/
inductive Loss.BlamedOn (loss : Loss) : Path → Prop
  | source {file : String} {before after : List SourceRoot} {root : SourceRoot}
      (hfile : IsSourceFileOf loss.typeName file) (hroots : roots = before ++ root :: after)
      (hrelease : root.release = loss.variant.release)
      (hexists : files.isFile (root.sourceFolder.child file) = true)
      (hbefore : ∀ other ∈ before, other.release = loss.variant.release →
        files.isFile (other.sourceFolder.child file) = false) :
      BlamedOn loss (root.sourceFolder.child file)
  | classFile {file : String} (hfile : IsSourceFileOf loss.typeName file)
      (hnone : ∀ root ∈ roots, root.release = loss.variant.release →
        files.isFile (root.sourceFolder.child file) = false) :
      BlamedOn loss loss.variant.classFile

/-- What is reported of a loss. -/
structure Loss.Reported (loss : Loss) (problem : Problem) : Prop where
  resource : loss.BlamedOn files roots problem.resource
  message : problem.message = "Multi-Release type '" ++ replaceChar '/' '.' loss.typeName ++
    "': public " ++ loss.kind.word ++ " '" ++ loss.key.1 ++
    "' from base version is missing in version " ++ loss.variant.release.text
  severity : problem.severity = .error
  range : problem.range = none

variable {files roots}

/-- The source file of a type is where it should be. -/
theorem isSourceFileOf_sourceFileOf (typeName : String) :
    IsSourceFileOf typeName (sourceFileOf typeName) := by
  rw [sourceFileOf]
  cases hcut : cutLast '/' typeName with
  | none =>
    have hnone : cutAtLast '/' typeName.toList = none := Option.map_eq_none_iff.1 hcut
    obtain ⟨outer, inner, houter, htext, hdollar, hinner⟩ :=
      exists_of_headD_segments '$' typeName typeName
    refine ⟨[], outer, inner, htext, .inl rfl, ?_, hdollar, hinner, ?_⟩
    · rw [← htext]
      exact notMem_of_cutAtLast hnone
    · dsimp only
      rw [houter]
      simp [sourceSuffix]
  | some parts =>
    obtain ⟨⟨front, back⟩, hfound, rfl⟩ := Option.map_eq_some_iff.1 hcut
    obtain ⟨htext, hback⟩ := eq_of_cutAtLast hfound
    obtain ⟨outer, inner, houter, hsimple, hdollar, hinner⟩ :=
      exists_of_headD_segments '$' (String.ofList back) (String.ofList back)
    rw [String.toList_ofList] at hsimple
    refine ⟨front ++ ['/'], outer, inner, ?_, .inr (by simp), ?_, hdollar, hinner, ?_⟩
    · rw [htext, ← hsimple, List.append_assoc]
      rfl
    · rwa [← hsimple]
    · dsimp only
      rw [houter]
      simp [sourceSuffix]

/-- Whether the root is bound to the release and has the source file of the type. -/
def hasSource (files : Files) (typeName : String) (release : Release) (root : SourceRoot) : Bool :=
  decide (root.release = release) &&
    files.isFile (root.sourceFolder.child (sourceFileOf typeName))

/-- The search for a source file stops at the first root of the release that has it. -/
theorem findSourceFile_eq {typeName : String} {release : Release} {number : UInt16}
    (hnumber : release = .java number) : findSourceFile files roots typeName release
      = (roots.find? (hasSource files typeName release)).map fun root =>
          root.sourceFolder.child (sourceFileOf typeName) := by
  rw [findSourceFile, List.find?_map, List.find?_filter, hnumber]
  congr 2
  funext root
  simp [hasSource]

/-- **The source file comes from the first root of the release that has it.** -/
theorem blamedOn_findSourceFile (loss : Loss) {number : UInt16}
    (hnumber : loss.variant.release = .java number) : loss.BlamedOn files roots
      ((findSourceFile files roots loss.typeName loss.variant.release).getD
        loss.variant.classFile) := by
  have hfile := isSourceFileOf_sourceFileOf loss.typeName
  rw [findSourceFile_eq hnumber]
  cases hfind : roots.find? (hasSource files loss.typeName loss.variant.release) with
  | none =>
    refine .classFile hfile fun root hroot hrelease => ?_
    simpa [hasSource, hrelease] using List.find?_eq_none.1 hfind root hroot
  | some root =>
    obtain ⟨hroot, before, after, hroots, hbefore⟩ := List.find?_eq_some_iff_append.1 hfind
    rw [hasSource, Bool.and_eq_true, decide_eq_true_eq] at hroot
    refine .source hfile hroots hroot.1 hroot.2 fun other hother hrelease => ?_
    simpa [hasSource, hrelease] using hbefore other hother

/-! ## All comparisons -/

/-- A comparison of a variant with the anchor of its type. -/
structure Comparison where
  typeName : String
  variant : TypeVariant
  baseline : BinaryType
  type : BinaryType

/-- The comparison of a variant, if it is bound to a release and can be read. -/
def comparison? (files : Files) (typeName : String) (baseline : BinaryType)
    (variant : TypeVariant) : Option Comparison :=
  match variant.release, typeOf? files variant with
  | .java _, some type => some ⟨typeName, variant, baseline, type⟩
  | _, _ => none

/-- The comparisons of the given variants of a type. -/
def comparisonsOfType (files : Files) (typeName : String) (variants : List TypeVariant) :
    List Comparison :=
  match variants.mergeSort TypeVariant.precedes with
  | [] => []
  | anchor :: later =>
    match typeOf? files anchor with
    | none => []
    | some baseline => later.filterMap (comparison? files typeName baseline)

/-- All comparisons. -/
def comparisonsOf (files : Files) (roots : List SourceRoot) : List Comparison :=
  (collectVariants files roots).entries.flatMap fun (typeName, variants) =>
    comparisonsOfType files typeName variants

/-- What is lost in a comparison, methods first. -/
def Comparison.losses (c : Comparison) : List Loss :=
  [MemberKind.method, .field].flatMap fun kind =>
    (((ApiSignature.ofType c.baseline).keys kind).filter fun key =>
      !((ApiSignature.ofType c.type).keys kind).contains key).map (⟨c.typeName, c.variant, kind, ·⟩)

/-- All losses, comparison by comparison. -/
def lossesOf (files : Files) (roots : List SourceRoot) : List Loss :=
  (comparisonsOf files roots).flatMap Comparison.losses

/-- The signature of a variant is that of its type. -/
theorem signatureOf_eq (variant : TypeVariant) :
    signatureOf files variant = (typeOf? files variant).map ApiSignature.ofType := by
  rw [signatureOf, typeOf?]
  cases files.read? variant.classFile <;> rfl

theorem comparison?_eq_some_iff {typeName : String} {baseline : BinaryType} {variant : TypeVariant}
    {c : Comparison} : comparison? files typeName baseline variant = some c ↔
      (∃ number, variant.release = .java number) ∧ typeOf? files variant = some c.type ∧
        c = ⟨typeName, variant, baseline, c.type⟩ := by
  rw [comparison?]
  cases variant.release with
  | unversioned => simp
  | java number =>
    cases typeOf? files variant with
    | none => simp
    | some type =>
      simp only [Option.some_inj]
      constructor
      · rintro rfl
        exact ⟨⟨number, rfl⟩, rfl, rfl⟩
      · rintro ⟨-, rfl, hc⟩
        exact hc.symm

/-! ### Counting -/

theorem comparisons_compareVariants {typeName : String} {signature : ApiSignature}
    {baseline : BinaryType} {variants : List TypeVariant} :
    ∀ {session : Session},
      (compareVariants files roots typeName signature variants session).1
        = (variants.filterMap (comparison? files typeName baseline)).length := by
  induction variants with
  | nil => exact fun {_} => rfl
  | cons variant variants ih =>
    intro session
    rw [compareVariants, List.filterMap_cons, comparison?]
    cases hrelease : variant.release with
    | unversioned => exact ih
    | java number =>
      have hread := readSignature_fst files session variant
      rw [signatureOf_eq] at hread
      cases hresult : readSignature files session variant with
      | mk found after =>
        rw [hresult] at hread
        obtain rfl : found = (typeOf? files variant).map ApiSignature.ofType := hread
        cases typeOf? files variant with
        | none => exact ih
        | some type => exact congrArg (· + 1) ih

theorem comparisons_validateType {typeName : String} {variants : List TypeVariant}
    {session : Session} :
    (validateType files roots typeName (variants.mergeSort TypeVariant.precedes) session).1
      = (comparisonsOfType files typeName variants).length := by
  rw [comparisonsOfType]
  cases variants.mergeSort TypeVariant.precedes with
  | nil => rfl
  | cons first later =>
    have hread := readSignature_fst files session first
    rw [signatureOf_eq] at hread
    rw [validateType]
    cases hresult : readSignature files session first with
    | mk found after =>
      rw [hresult] at hread
      obtain rfl : found = (typeOf? files first).map ApiSignature.ofType := hread
      dsimp only
      cases typeOf? files first with
      | none => rfl
      | some baseline => exact comparisons_compareVariants

theorem comparisonsOfType_eq_nil {typeName : String} {variants : List TypeVariant}
    (h : variants.length < 2) : comparisonsOfType files typeName variants = [] := by
  have hlength : (variants.mergeSort TypeVariant.precedes).length < 2 := by
    rwa [List.length_mergeSort]
  rw [comparisonsOfType]
  cases hsorted : variants.mergeSort TypeVariant.precedes with
  | nil => rfl
  | cons first later =>
    rw [hsorted, List.length_cons] at hlength
    obtain rfl : later = [] := List.length_eq_zero_iff.1 (by omega)
    dsimp only
    cases typeOf? files first <;> rfl

theorem summary_validateTypes {entries : List (String × List TypeVariant)} :
    ∀ {session : Session},
      (validateTypes files roots entries session).1.comparisons
          = (entries.flatMap fun (typeName, variants) =>
              comparisonsOfType files typeName variants).length ∧
        (validateTypes files roots entries session).1.problems
          = (validateTypes files roots entries session).2.1.length := by
  induction entries with
  | nil => exact fun {_} => ⟨rfl, rfl⟩
  | cons entry entries ih =>
    intro session
    obtain ⟨typeName, variants⟩ := entry
    rw [validateTypes, List.flatMap_cons, List.length_append]
    dsimp only
    split
    · rename_i hsingle
      rw [comparisonsOfType_eq_nil hsingle, List.length_nil, Nat.zero_add]
      exact ih
    · dsimp only
      rw [(ih).1, (ih).2, comparisons_validateType, List.length_append]
      exact ⟨rfl, rfl⟩

/-- **What a validation counts.** -/
theorem comparisons_validate (session : Session) :
    (validate files roots session).1.comparisons = (comparisonsOf files roots).length :=
  summary_validateTypes.1

/-! ### Losses -/

/-- The report of a loss. -/
def Loss.report (files : Files) (roots : List SourceRoot) (loss : Loss) : Problem where
  resource := (findSourceFile files roots loss.typeName loss.variant.release).getD
    loss.variant.classFile
  message := "Multi-Release type '" ++ replaceChar '/' '.' loss.typeName ++ "': public " ++
    loss.kind.word ++ " '" ++ loss.key.1 ++ "' from base version is missing in version " ++
    loss.variant.release.text

/-- What is missing in a variant are the losses that a comparison shows. -/
theorem missingMembers_eq (files : Files) (roots : List SourceRoot) (typeName : String)
    (baseline type : BinaryType) {variant : TypeVariant} {number : UInt16}
    (hnumber : variant.release = .java number) :
    missingMembers ((findSourceFile files roots typeName variant.release).getD variant.classFile)
        typeName number (.ofType baseline) (.ofType type)
      = (Comparison.losses ⟨typeName, variant, baseline, type⟩).map
          (Loss.report files roots) := by
  have hreport : ∀ kind key, (Loss.report files roots ⟨typeName, variant, kind, key⟩)
      = missingMember ((findSourceFile files roots typeName variant.release).getD
          variant.classFile) typeName kind.word key.1 number := by
    intro kind key
    have htext : ∀ shown : String, "' from base version is missing in version " ++ shown
        = "' " ++ ("from base version is missing in version " ++ shown) :=
      fun _ => by rw [← String.append_assoc]; rfl
    simp only [Loss.report, missingMember, hnumber, Release.text, toString, String.append_assoc,
      htext]
  simp only [missingMembers, Comparison.losses, List.flatMap_cons, List.flatMap_nil,
    List.append_nil, List.map_append, List.map_map, Function.comp_def, hreport]
  rfl

theorem reportsOfVariant_eq {typeName : String} {baseline : BinaryType} {variant : TypeVariant} :
    reportsOfVariant files roots typeName (.ofType baseline) variant
      = (comparison? files typeName baseline variant).toList.flatMap fun c =>
          c.losses.map (Loss.report files roots) := by
  rw [reportsOfVariant, comparison?, signatureOf_eq]
  cases hrelease : variant.release with
  | unversioned => rfl
  | java number =>
    cases typeOf? files variant with
    | none => rfl
    | some type =>
      have hmissing := missingMembers_eq files roots typeName baseline type hrelease
      rw [hrelease] at hmissing
      exact hmissing.trans (List.append_nil _).symm

theorem reportsOfType_eq {typeName : String} {variants : List TypeVariant} :
    reportsOfType files roots typeName variants
      = (comparisonsOfType files typeName variants).flatMap fun c =>
          c.losses.map (Loss.report files roots) := by
  rw [reportsOfType, comparisonsOfType]
  cases variants.mergeSort TypeVariant.precedes with
  | nil => rfl
  | cons first later =>
    dsimp only
    rw [signatureOf_eq]
    cases typeOf? files first with
    | none => rfl
    | some baseline =>
      dsimp only [Option.map_some]
      rw [List.filterMap_eq_flatMap_toList, List.flatMap_assoc]
      exact List.flatMap_congr fun variant _ => reportsOfVariant_eq

/-- **The reports are the losses of one comparison after the other.** -/
theorem problems_eq_map_losses (session : Session) : (validate files roots session).2.1
    = (lossesOf files roots).map (Loss.report files roots) := by
  rw [problems_validate, lossesOf, comparisonsOf, List.map_flatMap, List.flatMap_assoc]
  exact List.flatMap_congr fun entry _ => reportsOfType_eq

/-- **The report of a loss is one that should be made of it.** -/
theorem Loss.reported_report {loss : Loss} {number : UInt16}
    (hnumber : loss.variant.release = .java number) :
    loss.Reported files roots (loss.report files roots) :=
  ⟨blamedOn_findSourceFile loss hnumber, rfl, rfl, rfl⟩

/-- What a comparison shows is what the baseline declares and the variant does not. -/
theorem mem_losses {c : Comparison} {loss : Loss} : loss ∈ c.losses ↔
    loss.typeName = c.typeName ∧ loss.variant = c.variant ∧
      c.baseline.Declares loss.kind loss.key ∧ ¬ c.type.Declares loss.kind loss.key := by
  obtain ⟨typeName, variant, kind, key⟩ := loss
  have hkind : kind ∈ [MemberKind.method, .field] := by cases kind <;> decide
  simp only [Comparison.losses, List.mem_flatMap, List.mem_map, List.mem_filter,
    ApiSignature.mem_keys_ofType, Bool.not_eq_true', ← Bool.not_eq_true, List.contains_iff_mem]
  constructor
  · rintro ⟨_, -, _, ⟨hbaseline, htype⟩, hloss⟩
    cases hloss
    exact ⟨rfl, rfl, hbaseline, htype⟩
  · rintro ⟨rfl, rfl, hbaseline, htype⟩
    exact ⟨kind, hkind, key, ⟨hbaseline, htype⟩, rfl⟩

/-- A comparison shows nothing twice. -/
theorem nodup_losses (c : Comparison) : c.losses.Nodup := by
  refine List.pairwise_flatMap.2 ⟨fun kind _ => ?_, ?_⟩
  · refine List.Nodup.map (fun a b hab => ?_) ((ApiSignature.nodup_keys_ofType _ _).filter _)
    cases hab
    rfl
  · refine List.pairwise_cons.2 ⟨fun kind hkind first hfirst second hsecond => ?_,
      List.pairwise_singleton _ _⟩
    rw [List.mem_singleton.1 hkind] at hsecond
    obtain ⟨_, -, rfl⟩ := List.mem_map.1 hfirst
    obtain ⟨_, -, rfl⟩ := List.mem_map.1 hsecond
    intro heq
    cases heq

end Validation

end MultiRelease
