import MultiRelease.Location
import MultiRelease.Sorted

/-!
# Name environments

The classpath of a build, asked for types as a given release sees them.

A lookup at a release asks the locations that are bound to that release or to an older one, the
newest first, and then those that are bound to none; a lookup without a release asks only the
latter.  Among equals the order of the classpath decides, and the first answer counts.

The locations may work in different sessions.  A lookup leaves those changed that it asked.
-/

set_option autoImplicit false

namespace MultiRelease

/-- A location of a classpath and the name of the session that it works in. -/
structure ClasspathEntry where
  location : Location
  session : String := ""
deriving Inhabited

/-- A classpath. -/
structure Environment where
  entries : List ClasspathEntry := []
deriving Inhabited

namespace Environment

/-- The locations of the classpath. -/
def locations (environment : Environment) : List Location := environment.entries.map (·.location)

/-- The positions of the locations that a lookup asks, in the order in which it asks them. -/
def resolutionOrder (releases : List Release) (requested : Release) : List Nat :=
  let positions := releases.zipIdx
  let versioned := positions.filter fun (release, _) =>
    release.isVersioned && release.appliesTo requested
  let unversioned := positions.filter fun (release, _) => !release.isVersioned
  ((versioned.mergeSort fun a b => b.1.precedes a.1) ++ unversioned).map (·.2)

/-- The first answer of the locations at the given positions. -/
def findAt (files : Files) (query : Query) (constraint : ModuleConstraint) (release : Release) :
    List Nat → Environment → Sessions → Option Answer × Environment × Sessions
  | [], environment, sessions => (none, environment, sessions)
  | position :: others, environment, sessions =>
    match environment.entries[position]? with
    | none => findAt files query constraint release others environment sessions
    | some entry =>
      match entry.location.find files query constraint release (sessions.named entry.session) with
      | (found, location, session) =>
        let environment : Environment :=
          ⟨environment.entries.set position { entry with location }⟩
        let sessions := sessions.keep entry.session session
        match found with
        | some answer => (some answer, environment, sessions)
        | none => findAt files query constraint release others environment sessions

/-- Looks a type up. -/
def find (environment : Environment) (files : Files) (sessions : Sessions) (query : Query)
    (constraint : ModuleConstraint) (release : Release) :
    Option Answer × Environment × Sessions :=
  let order := resolutionOrder (environment.locations.map Location.release) release
  findAt files query constraint release order environment sessions

/-- Looks up the type with the given segments; without segments there is nothing to find. -/
def findType (environment : Environment) (files : Files) (sessions : Sessions)
    (compound : List String) (constraint : ModuleConstraint) (release : Release) :
    Option Answer × Environment × Sessions :=
  match Query.ofCompound? compound with
  | some query => environment.find files sessions query constraint release
  | none => (none, environment, sessions)

/-- Looks up a type in a package; a type without a name is not found. -/
def findTypeInPackage (environment : Environment) (files : Files) (sessions : Sessions)
    (typeName : String) (package : List String) (constraint : ModuleConstraint)
    (release : Release) : Option Answer × Environment × Sessions :=
  if typeName = "" then (none, environment, sessions)
  else environment.find files sessions (Query.inPackage typeName package) constraint release

/-- The module names of all given locations. -/
def moduleNamesOf (files : Files) (limit : Option (List String)) :
    List ClasspathEntry → Sessions → List String × List ClasspathEntry × Sessions
  | [], sessions => ([], [], sessions)
  | entry :: others, sessions =>
    let (names, location, session) :=
      entry.location.moduleNames files limit (sessions.named entry.session)
    let (otherNames, others, sessions) :=
      moduleNamesOf files limit others (sessions.keep entry.session session)
    (names ++ otherNames, { entry with location } :: others, sessions)

/-- The names of the modules of all locations, in ascending order, of all or of those in a list. -/
def moduleNames (environment : Environment) (files : Files) (sessions : Sessions)
    (limit : Option (List String)) : List String × Environment × Sessions :=
  let (names, entries, sessions) := moduleNamesOf files limit environment.entries sessions
  (sortedTexts names, ⟨entries⟩, sessions)

/-- The description of the classpath as a structure. -/
def describe (environment : Environment) : String :=
  "[" ++ ", ".intercalate (environment.locations.map Location.describe) ++ "]"

end Environment

end MultiRelease
