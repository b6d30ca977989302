import MultiRelease.Location.Listing
import MultiRelease.Lookup.Answer
import MultiRelease.Lookup.Query
import MultiRelease.Session
import MultiRelease.Text.Quoted

/-!
# Class folders

A classpath entry with compiled types in the folders of their packages, possibly bound to a release
and belonging to a module.
-/

set_option autoImplicit false

namespace MultiRelease

open Text

/-- Whether a file name is that of a compiled type. -/
def isClassFileName (name : String) : Bool := hasSuffix classSuffix name

/-- The answer with the compiled type in a file.  A file that cannot be read or decoded holds no
type. -/
def readAnswer (files : Files) (session : Session) (path : Path) (query : Query)
    (moduleName : Option String) (release : Release) : Option Answer × Session :=
  match files.read? path with
  | none => (none, session)
  | some content =>
    match session.decode content.bytes query.qualifiedBinaryFileName with
    | (.ok type, session) => (some { kind := .binary type, moduleName, release }, session)
    | (.error _, session) => (none, session)

/-- A folder of compiled types. -/
structure ClassFolder where
  root : Path
  release : Release := .unversioned
  module : Option ModuleDescriptor := none
  rules : Option AccessRules := none
  sightings : Sightings (List String) := {}
deriving Inhabited

namespace ClassFolder

/-- The name of the module that the folder belongs to. -/
def moduleName (folder : ClassFolder) : Option String := folder.module.map (·.name)

/-- The sub-folders and class files of a package. -/
def probe (folder : ClassFolder) (files : Files) (package : String) : Option (List String) :=
  (files.members? (folder.root.child package) isClassFileName).map (·.1)

/-- The members of a package, as they were when it was first looked at. -/
def list (folder : ClassFolder) (files : Files) (package : String) :
    Option (List String) × ClassFolder :=
  let (listing, sightings) := folder.sightings.look package (folder.probe files)
  (listing, { folder with sightings })

/-- The answer restricted by the access rules. -/
def restrict (folder : ClassFolder) (query : Query) (answer : Answer) : Answer :=
  { answer with
    restriction := folder.rules.bind fun rules => rules.restriction? query.qualifiedTypeName }

/-- Looks a type up. -/
def find (folder : ClassFolder) (files : Files) (session : Session) (query : Query)
    (constraint : ModuleConstraint) (release : Release) :
    Option Answer × ClassFolder × Session :=
  if folder.release.appliesTo release && constraint.accepts folder.moduleName then
    let (listing, folder) := folder.list files query.packageName
    if listing.any (·.contains query.binaryFileName) then
      let path := folder.root.child query.qualifiedBinaryFileName
      let (found, session) :=
        readAnswer files session path query folder.moduleName folder.release
      (found.map (folder.restrict query), folder, session)
    else (none, folder, session)
  else (none, folder, session)

/-- The description of the entry as a structure. -/
def describe (folder : ClassFolder) : String :=
  let module := match folder.moduleName with
    | some name => s!"Some({quoted name})"
    | none => "None"
  s!"ClasspathDirectory \x7b root: {quoted folder.root.text}, " ++
    s!"release: {folder.release.describe}, module: {module} \x7d"

/-- The entry in words. -/
def text (folder : ClassFolder) : String := "Binary classpath directory " ++ folder.root.text

end ClassFolder

end MultiRelease
