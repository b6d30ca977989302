import MultiRelease.BuildError
import MultiRelease.Platform.Library

/-!
# JDK installations

A folder is the home of a JDK if it holds the platform library.  A JDK is looked for in the
variables `JAVA_HOME` and `JDK_HOME`, then by following the compiler on the search path to where it
really is, and then in the folders where installations usually are, the one with the greatest name
first.
-/

set_option autoImplicit false

namespace MultiRelease

open Text

/-- The environment variables of a process. -/
abbrev Variables := List (String × String)

/-- The value of a variable. -/
def Variables.value? (vars : Variables) (name : String) : Option String :=
  (vars.find? (·.1 = name)).map (·.2)

/-- An installed JDK. -/
structure Jdk where
  home : Path
  /-- The feature release that the JDK states, if it does. -/
  featureVersion : Option UInt16
deriving Repr, DecidableEq, Inhabited

/-! ## Version texts -/

/-- The number in the digits at the start of a text. -/
def leadingNumber? (text : List Char) : Option UInt16 :=
  match text.takeWhile isDecimalDigit with
  | [] => none
  | digits => (number16Chars digits).toOption

/-- The feature release in a version text; the old form has a `1.` in front. -/
def featureRelease? (version : String) : Option UInt16 :=
  match withoutPrefix? "1." version with
  | some minor => leadingNumber? (minor.toList.takeWhile fun c => c ≠ '.' && c ≠ '_' && c ≠ '-')
  | none => leadingNumber? version.toList

/-- A line without the carriage return at its end. -/
def withoutReturn (line : List Char) : List Char :=
  if line.getLast? = some '\r' then line.dropLast else line

/-- The lines of a text.  A line may end in a carriage return and a line feed. -/
def linesOf (text : String) : List String :=
  let lines := segmentsAt '\n' text.toList
  match lines.getLast? with
  | some last =>
    (lines.dropLast.map withoutReturn ++ (if last = [] then [] else [last])).map String.ofList
  | none => []

/-- A text without the double quotes at its ends. -/
def withoutQuotes (text : String) : String :=
  let isQuote (c : Char) : Bool := c = '\x22'
  String.ofList ((text.toList.dropWhile isQuote).reverse.dropWhile isQuote).reverse

/-- The version that a line of a release file states, if it states one. -/
def statedVersion? (line : String) : Option UInt16 :=
  (withoutPrefix? "JAVA_VERSION=" line).bind fun value =>
    featureRelease? (withoutQuotes (trim value))

/-- The first version that a release file states. -/
def releaseFileVersion? (content : String) : Option UInt16 :=
  (linesOf content).findSome? statedVersion?

/-! ## Homes -/

namespace Jdk

/-- Whether a folder holds the platform library. -/
def isHome (files : Files) (home : Path) : Bool := files.isFile (home.join platformLibraryPath)

/-- The JDK with the given home. -/
def ofHome (files : Files) (home : Path) : Except BuildError Jdk :=
  if isHome files home then
    .ok { home
          featureVersion :=
            ((files.read? (home.child "release")).bind Content.text?).bind releaseFileVersion? }
  else
    .error (.jdkNotFound s!"'{home.text}' does not contain {platformLibraryPath.text}")

/-- The platform library of a JDK. -/
def library (jdk : Jdk) : Path := jdk.home.join platformLibraryPath

/-- Whether a JDK has a symbol archive. -/
def hasSymbolArchive (jdk : Jdk) (files : Files) : Bool :=
  files.isFile (jdk.home.join symbolArchivePath)

/-! ## Discovery -/

/-- The first of the variables for it that holds the home of a JDK. -/
def homeInVariables? (files : Files) (vars : Variables) : Option Path :=
  (["JAVA_HOME", "JDK_HOME"].filterMap fun name =>
    (vars.value? name).map Path.mk).find? (isHome files)

/-- Whether a path names a file that may be executed. -/
def isExecutable (files : Files) (path : Path) : Bool :=
  match files.entry? path with
  | some (.file _ executable) => executable
  | _ => false

/-- A folder of the search path.  A tilde as its first component stands for the folder of the user;
if that is not known, the folder is passed over. -/
def searchedFolder? (vars : Variables) (folder : String) : Option Path :=
  match segments '/' folder with
  | "~" :: inner =>
    (vars.value? "HOME").map fun home => (inner.filter (· ≠ "")).foldl Path.child ⟨home⟩
  | _ => some ⟨folder⟩

/-- The folders of the search path. -/
def searchedFolders (vars : Variables) : List Path :=
  match vars.value? "PATH" with
  | some folders => (segments ':' folders).filterMap (searchedFolder? vars)
  | none => []

/-- The first program of the given name on the search path. -/
def programOnPath? (files : Files) (vars : Variables) (program : String) : Option Path :=
  ((searchedFolders vars).map fun folder => folder.child program).find? (isExecutable files)

/-- The folder that the compiler on the search path belongs to. -/
def folderOnPath? (files : Files) (vars : Variables) : Option Path :=
  match programOnPath? files vars "javac" with
  | some compiler => ((files.canonicalize? compiler).getD compiler).parent?.bind Path.parent?
  | none => none

/-- The home that the compiler on the search path belongs to. -/
def homeOnPath? (files : Files) (vars : Variables) : Option Path :=
  (folderOnPath? files vars).filter (isHome files)

/-- The folders where installations usually are. -/
def usualFolders : List Path := [⟨"/usr/lib/jvm"⟩, ⟨"/usr/java"⟩, ⟨"/opt/java"⟩]

/-- The home inside an installation that is a bundle. -/
def bundledHome (path : Path) : Path := (path.child "Contents").child "Home"

/-- The home of an installation, which may be a bundle. -/
def homeOfInstallation? (files : Files) (path : Path) : Option Path :=
  if isHome files (bundledHome path) then some (bundledHome path)
  else if isHome files path then some path
  else none

/-- A home in a folder of installations. -/
def homeInFolder? (files : Files) (folder : Path) : Option Path :=
  if files.isFolder folder then
    if isHome files folder then some folder
    else
      let candidates :=
        (((files.list? folder).getD []).map fun (name, _) => folder.child name).filter
          files.isFolder
      (candidates.mergeSort Path.precedes).reverse.findSome? (homeOfInstallation? files)
  else none

/-- The home of a JDK, looked for everywhere. -/
def discoverHome? (files : Files) (vars : Variables) : Option Path :=
  match homeInVariables? files vars with
  | some home => some home
  | none =>
    match homeOnPath? files vars with
    | some home => some home
    | none => usualFolders.findSome? (homeInFolder? files)

/-- A JDK, looked for everywhere. -/
def discover (files : Files) (vars : Variables) : Except BuildError Jdk :=
  match discoverHome? files vars with
  | some home => ofHome files home
  | none =>
    .error (.jdkNotFound "Unable to locate a JDK. Set JAVA_HOME or pass --jdk.")

end Jdk

end MultiRelease
