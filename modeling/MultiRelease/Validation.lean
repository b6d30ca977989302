import MultiRelease.Location.SourceRoot
import MultiRelease.Problem
import MultiRelease.Sorted

/-!
# Validating overlays

An overlay may replace types of the baseline, but it may not take public members away: code compiled
against the baseline runs against the overlay.

`collectVariants` finds the class files of every output folder, grouped by type.  Those outside the
overlays count as unversioned, those in an overlay folder as bound to its number.  `validate` sorts
the variants of each type, takes the first as the baseline, and reports for each later variant of a
release the public methods and fields of the baseline that it lacks.  A class file that cannot be
decoded is passed over; if it is the baseline of a type, so is the type.
-/

set_option autoImplicit false

namespace MultiRelease

open Text

/-! ## Signatures -/

/-- A member as others refer to it: its name and its descriptor. -/
abbrev MemberKey := String × String

/-- The order of members: by name, then by descriptor. -/
def MemberKey.precedes (a b : MemberKey) : Bool :=
  if a.1 = b.1 then decide (a.2 ≤ b.2) else decide (a.1 ≤ b.1)

/-- The public members of a type, in ascending order. -/
structure ApiSignature where
  methods : List MemberKey
  fields : List MemberKey
deriving Repr, DecidableEq, Inhabited

namespace ApiSignature

/-- Members in ascending order, each once. -/
def keysOf (members : List Member) : List MemberKey :=
  sortedDistinct MemberKey.precedes (fun a b => decide (a = b))
    (members.map fun m => (m.name, m.descriptor))

/-- The public members of a type. -/
def ofType (type : BinaryType) : ApiSignature :=
  ⟨keysOf type.publicMethods, keysOf type.publicFields⟩

end ApiSignature

/-! ## Variants -/

/-- A class file of a type and what it is bound to. -/
structure TypeVariant where
  classFile : Path
  release : Release
deriving Repr, DecidableEq, Inhabited

namespace TypeVariant

/-- The order of variants: by release, then by path. -/
def precedes (a b : TypeVariant) : Bool :=
  if a.release = b.release then a.classFile.precedes b.classFile else a.release.precedes b.release

end TypeVariant

/-- The release that the name of an overlay folder stands for. -/
def overlayOfFolderName (name : String) : Option UInt16 := number16? name

namespace Validation

/-- The folder of overlays, as the names that lead there from an output folder. -/
def versionsNames : List String := ["META-INF", "versions"]

/-- The type and the variant of something below an output folder, if it is a class file.  Of the
baseline, the overlays are not part. -/
def variantAt? (folder : Path) (release : Release) (names : List String) (entry : FileEntry) :
    Option (String × TypeVariant) :=
  if entry.isFile && (release.isVersioned || !versionsNames.isPrefixOf names) then
    (withoutSuffix? classSuffix ("/".intercalate names)).map fun typeName =>
      (typeName, ⟨names.foldl Path.child folder, release⟩)
  else none

/-- The variants in the class files below a folder. -/
def variantsBelow (files : Files) (folder : Path) (release : Release) :
    List (String × TypeVariant) :=
  (files.below folder).filterMap fun (names, entry) => variantAt? folder release names entry

/-- The overlay folders of an output folder with their releases. -/
def overlayFolders (files : Files) (output : Path) : List (Path × UInt16) :=
  let versions := output.child versionsFolder
  ((files.list? versions).getD []).filterMap fun (name, entry) =>
    if entry.isFolder then
      (overlayOfFolderName name).map fun number => (versions.child name, number)
    else none

/-- The variants in one output folder. -/
def variantsOfOutput (files : Files) (output : Path) : List (String × TypeVariant) :=
  variantsBelow files output .unversioned ++
    (overlayFolders files output).flatMap fun (folder, number) =>
      variantsBelow files folder (.java number)

/-- The output folders of some roots, each once, in ascending order.  Of the spellings of one path,
that of the last root is kept. -/
def outputFolders (roots : List SourceRoot) : List Path :=
  sortedDistinct Path.precedes Path.same (roots.map (·.outputFolder))

/-- The variants in the output folders of some roots, under the names of their types. -/
def collectVariants (files : Files) (roots : List SourceRoot) : NameMap (List TypeVariant) :=
  ((outputFolders roots).flatMap (variantsOfOutput files)).foldl
    (fun map (typeName, variant) => map.alter typeName fun old => old.getD [] ++ [variant]) {}

/-! ## Comparison -/

/-- What a validation did. -/
structure Summary where
  /-- Types with more than one variant. -/
  multiReleaseTypes : Nat := 0
  /-- Variants compared with their baseline. -/
  comparisons : Nat := 0
  problems : Nat := 0
deriving Repr, DecidableEq, Inhabited

/-- The source file of a type below a source folder: that of its outermost type. -/
def sourceFileOf (typeName : String) : String :=
  let outer (simple : String) := (segments '$' simple).headD simple
  match cutLast '/' typeName with
  | some (package, simple) => package ++ "/" ++ outer simple ++ sourceSuffix
  | none => outer typeName ++ sourceSuffix

/-- The source file of a type for a release, from the first root of that release that has it.
Without a release any root will do. -/
def findSourceFile (files : Files) (roots : List SourceRoot) (typeName : String)
    (release : Release) : Option Path :=
  ((roots.filter fun root => release = .unversioned || root.release = release).map fun root =>
    root.sourceFolder.child (sourceFileOf typeName)).find? files.isFile

/-- The public members in the class file of a variant, if it can be decoded. -/
def readSignature (files : Files) (session : Session) (variant : TypeVariant) :
    Option ApiSignature × Session :=
  match files.read? variant.classFile with
  | none => (none, session)
  | some content =>
    match session.decode content.bytes variant.classFile.text with
    | (.ok type, session) => (some (ApiSignature.ofType type), session)
    | (.error _, session) => (none, session)

/-- The report of a missing member. -/
def missingMember (resource : Path) (typeName kind member : String) (number : UInt16) :
    Problem where
  resource
  message :=
    let shown := replaceChar '/' '.' typeName
    s!"Multi-Release type '{shown}': public {kind} '{member}' " ++
      s!"from base version is missing in version {number.toNat}"

/-- The reports of the members of the baseline that a variant lacks, methods first. -/
def missingMembers (resource : Path) (typeName : String) (number : UInt16)
    (baseline variant : ApiSignature) : List Problem :=
  (baseline.methods.filter fun m => !variant.methods.contains m).map
      (fun m => missingMember resource typeName "method" m.1 number) ++
    (baseline.fields.filter fun m => !variant.fields.contains m).map
      (fun m => missingMember resource typeName "field" m.1 number)

/-- Compares the later variants of a type with its baseline: the number of comparisons, and what is
reported. -/
def compareVariants (files : Files) (roots : List SourceRoot) (typeName : String)
    (baseline : ApiSignature) : List TypeVariant → Session → Nat × List Problem × Session
  | [], session => (0, [], session)
  | variant :: others, session =>
    match variant.release with
    | .unversioned => compareVariants files roots typeName baseline others session
    | .java number =>
      match readSignature files session variant with
      | (none, session) => compareVariants files roots typeName baseline others session
      | (some signature, session) =>
        let resource :=
          (findSourceFile files roots typeName variant.release).getD variant.classFile
        let missing := missingMembers resource typeName number baseline signature
        let (comparisons, problems, session) :=
          compareVariants files roots typeName baseline others session
        (comparisons + 1, missing ++ problems, session)

/-- Validates one type, given its variants in ascending order. -/
def validateType (files : Files) (roots : List SourceRoot) (typeName : String)
    (variants : List TypeVariant) (session : Session) : Nat × List Problem × Session :=
  match variants with
  | [] => (0, [], session)
  | first :: later =>
    match readSignature files session first with
    | (none, session) => (0, [], session)
    | (some baseline, session) => compareVariants files roots typeName baseline later session

/-- Validates some types, those with a single variant excepted. -/
def validateTypes (files : Files) (roots : List SourceRoot) :
    List (String × List TypeVariant) → Session → Summary × List Problem × Session
  | [], session => ({}, [], session)
  | (typeName, variants) :: others, session =>
    if variants.length < 2 then validateTypes files roots others session
    else
      let (comparisons, problems, session) :=
        validateType files roots typeName (variants.mergeSort TypeVariant.precedes) session
      let (summary, otherProblems, session) := validateTypes files roots others session
      ({ multiReleaseTypes := summary.multiReleaseTypes + 1
         comparisons := comparisons + summary.comparisons
         problems := problems.length + summary.problems },
        problems ++ otherProblems, session)

/-- Validates the output folders of some roots: what was done, and what is reported, type by type
in ascending order. -/
def validate (files : Files) (roots : List SourceRoot) (session : Session) :
    Summary × List Problem × Session :=
  validateTypes files roots (collectVariants files roots).entries session

end Validation

end MultiRelease
