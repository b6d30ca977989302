import MultiRelease.Glob.Selection
import MultiRelease.Location.ClassFolder
import MultiRelease.Module.Declaration

/-!
# Source roots

A folder of sources together with the output that it compiles to.  A root bound to a release writes
to the overlay of that release inside the baseline output, the others write to the baseline output
itself.

For each package the output comes first: if it holds a class file, the package is what the output
shows, and no source answers.  Otherwise the source folder shows the package if it holds anything at
all.
-/

set_option autoImplicit false

namespace MultiRelease

open Text

/-- Whether a file name is that of a source file. -/
def isSourceFileName (name : String) : Bool := hasSuffix sourceSuffix name

/-- The module that a source file declares. -/
def Files.readDeclaration (files : Files) (path : Path) (options : ParserOptions) :
    Except SourceError ModuleDescriptor :=
  match (files.read? path).bind Content.text? with
  | some source => parseDeclaration source options
  | none => .error (.unreadable path.text)

/-- What a source root shows for a package. -/
structure PackageListing where
  entries : List String
  fromSource : Bool
deriving Repr, DecidableEq, Inhabited

/-- A folder of sources with its output. -/
structure SourceRoot where
  sourceFolder : Path
  /-- The baseline output, which all releases share. -/
  outputFolder : Path
  /-- Where the classes of this root are written. -/
  binaryFolder : Path
  release : Release
  inclusions : List Glob := []
  exclusions : List Glob := []
  module : Option ModuleDescriptor := none
  sightings : Sightings PackageListing := {}
deriving Inhabited

namespace SourceRoot

/-- Where the classes of a release are written. -/
def binaryFolderOf (output : Path) : Release → Path
  | .unversioned => output
  | .java number => (output.child versionsFolder).child (toString number.toNat)

/-- The root with the given folders, for a release or, without one, for the baseline. -/
def ofFolders (sourceFolder outputFolder : Path) (release : Option UInt16) : SourceRoot where
  sourceFolder
  outputFolder
  binaryFolder := binaryFolderOf outputFolder (Release.overlay release)
  release := Release.overlay release

/-- The root with patterns for the source files that belong to it. -/
def withPatterns (root : SourceRoot) (inclusions exclusions : List String) :
    Except PatternError SourceRoot := do
  let inclusions ← Glob.parseList inclusions
  let exclusions ← Glob.parseList exclusions
  .ok { root with inclusions, exclusions }

/-- The name of the module that the root belongs to. -/
def moduleName (root : SourceRoot) : Option String := root.module.map (·.name)

/-- Whether the patterns keep a file out, given its path below the source folder.  They apply only
where sources and classes share a folder. -/
def isExcluded (root : SourceRoot) (relativePath : String) : Bool :=
  root.sourceFolder.same root.binaryFolder &&
    (root.exclusions.any (·.selects relativePath) ||
      (!root.inclusions.isEmpty && !root.inclusions.any (·.selects relativePath)))

/-- The members of a package in the source folder without the excluded source files. -/
def withoutExcluded (root : SourceRoot) (package : String) (names : List String) : List String :=
  names.filter fun name =>
    let relative := if package = "" then name else package ++ "/" ++ name
    !(isSourceFileName name && root.isExcluded relative)

/-- What the root shows for a package. -/
def probe (root : SourceRoot) (files : Files) (package : String) : Option PackageListing :=
  let binary := files.members? (root.binaryFolder.child package) isClassFileName
  let sourcePath := root.sourceFolder.child package
  let source := (files.members? sourcePath isSourceFileName).map fun (names, _) =>
    root.withoutExcluded package names
  let sourceHoldsAnything := (files.list? sourcePath).any fun entries => !entries.isEmpty
  match binary, source with
  | some (entries, true), _ => some ⟨entries, false⟩
  | some (entries, false), some sources =>
    if sourceHoldsAnything then some ⟨sources, true⟩ else some ⟨entries, false⟩
  | some (entries, false), none => some ⟨entries, false⟩
  | none, some sources => some ⟨sources, true⟩
  | none, none => none

/-- What the root showed for a package when it was first looked at. -/
def packageListing (root : SourceRoot) (files : Files) (package : String) :
    Option PackageListing × SourceRoot :=
  let (listing, sightings) := root.sightings.look package (root.probe files)
  (listing, { root with sightings })

/-- The members of a package, as they were when it was first looked at. -/
def list (root : SourceRoot) (files : Files) (package : String) :
    Option (List String) × SourceRoot :=
  let (listing, root) := root.packageListing files package
  (listing.map (·.entries), root)

/-- The answer with a source file. -/
def sourceAnswer (root : SourceRoot) (query : Query) : Answer where
  kind := .source ((root.sourceFolder.child query.packageName).child query.sourceFileName)
    query.typeName
  moduleName := root.moduleName
  release := root.release

/-- Looks a type up. -/
def find (root : SourceRoot) (files : Files) (session : Session) (query : Query)
    (constraint : ModuleConstraint) (release : Release) :
    Option Answer × SourceRoot × Session :=
  if root.release.appliesTo release && constraint.accepts root.moduleName then
    match root.packageListing files query.packageName with
    | (none, root) => (none, root, session)
    | (some listing, root) =>
      if listing.fromSource then
        if !query.binaryOnly && listing.entries.contains query.sourceFileName then
          (some (root.sourceAnswer query), root, session)
        else (none, root, session)
      else if listing.entries.contains query.binaryFileName then
        let path := root.binaryFolder.child query.qualifiedBinaryFileName
        let (found, session) :=
          readAnswer files session path query root.moduleName root.release
        (found, root, session)
      else (none, root, session)
  else (none, root, session)

/-- The module that the source folder declares.  A declaration that cannot be read counts as
none. -/
def declaredModule? (root : SourceRoot) (files : Files) : Option ModuleDescriptor :=
  let path := root.sourceFolder.child (moduleInfoName ++ sourceSuffix)
  if files.isFile path then
    (files.readDeclaration path (ParserOptions.ofRelease root.release)).toOption
  else none

/-- Whether two roots have the same folders and patterns. -/
def same (a b : SourceRoot) : Bool :=
  a.sourceFolder.same b.sourceFolder && a.binaryFolder.same b.binaryFolder &&
    a.inclusions.map (·.pattern) = b.inclusions.map (·.pattern) &&
    a.exclusions.map (·.pattern) = b.exclusions.map (·.pattern)

/-- The description of the entry as a structure. -/
def describe (root : SourceRoot) : String :=
  s!"ClasspathMultiDirectory \x7b source_folder: {quoted root.sourceFolder.text}, " ++
    s!"binary_folder: {quoted root.binaryFolder.text}, " ++
    s!"release: {root.release.describe} \x7d"

/-- The entry in words. -/
def text (root : SourceRoot) : String :=
  s!"Source classpath directory {root.sourceFolder.text} " ++
    s!"with binary classpath directory {root.binaryFolder.text}"

end SourceRoot

end MultiRelease
