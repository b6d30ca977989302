import MultiRelease.CommandLine

/-!
# The program

Everything that a command may look at is read from the disk beforehand, as a `Files` value; what the
command makes of it is then a matter of `runProgram` alone.

A link is recorded with the place that it finally leads to, and one that leads nowhere is not
recorded.  Files count as executable: only the search for a compiler asks, and only for files of its
name in the folders of the search path.
-/

set_option autoImplicit false

namespace MultiRelease

/-- What has been read so far. -/
structure Survey where
  files : Files
  /-- The folders that have been read with everything below them. -/
  trees : List Address := []

/-- Reads from the disk. -/
abbrev Reading := StateT Survey IO

/-- Reads what stands at an address. -/
def readEntry (address : Address) : IO (Option FileEntry) := do
  let place := (← IO.currentDir) / (Files.absolutePath address).text
  try
    match (← place.symlinkMetadata).type with
    | .dir => return some .folder
    | .symlink => return some (.link ⟨(← IO.FS.realPath place).toString⟩)
    | _ => return some (.file ⟨← IO.FS.readBinFile place⟩ true)
  catch _ => return none

/-- Reads the names in a folder. -/
def readNames (address : Address) : IO (List String) := do
  let place := (← IO.currentDir) / (Files.absolutePath address).text
  try
    return (← place.readDir).toList.map fun entry => entry.fileName
  catch _ => return []

/-- Records what stands at an address, unless it has been recorded. -/
def record (address : Address) : Reading (Option FileEntry) := do
  match (← get).files.entryAt? address with
  | some entry => return some entry
  | none =>
    match ← readEntry address with
    | none => return none
    | some entry =>
      modify fun s => { s with files := s.files.putAt address entry }
      return some entry

/-- Records everything on the way that some steps lead, and returns where they lead. -/
partial def recordSteps (here : Address) : List String → Reading (Option Address)
  | [] => return some here
  | step :: steps =>
    if step = "." then recordSteps here steps
    else if step = ".." then recordSteps here.dropLast steps
    else do
      match ← record (here ++ [step]) with
      | none => return none
      | some (.link target) =>
        match ← recordSteps [] target.steps with
        | none => return none
        | some reached => recordSteps reached steps
      | some _ => recordSteps (here ++ [step]) steps

/-- Records a path. -/
def recordPath (path : Path) : Reading (Option Address) := do
  recordSteps ((← get).files.start path) path.steps

/-- Records everything below an address, also behind links. -/
partial def recordBelow (address : Address) : Reading Unit := do
  if (← get).trees.contains address then return
  modify fun s => { s with trees := address :: s.trees }
  for name in ← readNames address do
    let place := address ++ [name]
    match ← record place with
    | some .folder => recordBelow place
    | some (.link target) =>
      match ← recordSteps [] target.steps with
      | some reached => recordBelow reached
      | none => pure ()
    | _ => pure ()

/-- Records a path and everything below it. -/
def recordTree (path : Path) : Reading Unit := do
  match ← recordPath path with
  | some address => recordBelow address
  | none => pure ()

/-- Records the folders of a build. -/
def recordBuild (options : EnvironmentOptions) : Reading Unit := do
  recordTree ⟨options.output⟩
  for root in options.roots do
    match parseRoot root with
    | .ok root => recordTree root.sourceFolder
    | .error _ => pure ()
  for folder in options.classpath do
    recordTree ⟨folder⟩

/-- Records what shows that a folder is the home of a JDK. -/
def recordHome (home : Path) : Reading Unit := do
  let _ ← recordPath (home.join platformLibraryPath)
  let _ ← recordPath (home.child "release")

/-- Records the places where a JDK is looked for. -/
def recordHomes (vars : Variables) : Reading Unit := do
  for name in ["JAVA_HOME", "JDK_HOME"] do
    match vars.value? name with
    | some home => recordHome ⟨home⟩
    | none => pure ()
  for folder in Jdk.searchedFolders vars do
    let _ ← recordPath (folder.child "javac")
  match Jdk.folderOnPath? (← get).files vars with
  | some home => recordHome home
  | none => pure ()
  for folder in Jdk.usualFolders do
    match ← recordPath folder with
    | none => pure ()
    | some address =>
      recordHome folder
      for name in ← readNames address do
        recordHome (folder.child name)
        recordHome (Jdk.bundledHome (folder.child name))

/-- Records the classes of a JDK. -/
def recordClasses (home : Path) : Reading Unit := do
  recordTree (home.join RuntimeImage.explodedFolder)
  recordTree (home.join RuntimeImage.packagedFolder)
  let _ ← recordPath (home.join symbolArchivePath)

/-- Records the JDK of a build. -/
def recordJdk (options : EnvironmentOptions) (vars : Variables) : Reading Unit := do
  match options.jdk with
  | some home =>
    recordHome ⟨home⟩
    recordClasses ⟨home⟩
  | none =>
    recordHomes vars
    match Jdk.discover (← get).files vars with
    | .ok jdk => recordClasses jdk.home
    | .error _ => pure ()

/-- Records everything that a command may look at. -/
def recordCommand (vars : Variables) : Command → Reading Unit
  | .validate options _ => recordBuild options
  | .resolve _ _ _ options _ => do
    recordBuild options
    recordJdk options vars
  | .modules options _ => do
    recordBuild options
    recordJdk options vars
  | .version => pure ()

/-- The variables that the search for a JDK looks at. -/
def readVariables : IO Variables := do
  let mut vars : Variables := []
  for name in ["JAVA_HOME", "JDK_HOME", "PATH", "HOME"] do
    match ← IO.getEnv name with
    | some value => vars := vars ++ [(name, value)]
    | none => pure ()
  return vars

/-- Carries out the command that the arguments ask for. -/
def runCommand (arguments : List String) : IO UInt32 := do
  let vars ← readVariables
  let workingFolder : Path := ⟨(← IO.currentDir).toString⟩
  let survey : Survey := { files := { entries := [], workingFolder := workingFolder.steps } }
  let reading : Reading Unit := do
    let _ ← recordPath workingFolder
    match Command.parse arguments with
    | .ok command => recordCommand vars command
    | .error _ => pure ()
  let (_, survey) ← reading.run survey
  let outcome := runProgram survey.files vars arguments
  IO.print outcome.stdout
  IO.eprint outcome.stderr
  return outcome.code.toUInt32

end MultiRelease

def main (arguments : List String) : IO UInt32 := MultiRelease.runCommand arguments
