import MultiRelease.CommandLine.Arguments
import MultiRelease.CommandLine.Failure
import MultiRelease.Config
import MultiRelease.Lookup.Report
import MultiRelease.Validation

/-!
# The command line

What the program does with its arguments, as a function: from the state of the file tree and the
environment variables to what is printed and the code with which the process ends.
-/

set_option autoImplicit false

namespace MultiRelease

open Text

/-! ## Arguments of a build -/

/-- The line that shows the version of the program. -/
def versionLine : String := "mrj 0.1.0 - multi-release Java resolver"

/-- Reads a source root with a release at its end, after a colon.  An ending that is no number is
part of the path. -/
def parseRoot (value : String) : Except Failure SourceRootConfig :=
  if trim value = "" then .error ⟨"Source root can not be empty", []⟩
  else
    match cutLast ':' value with
    | none => .ok { sourceFolder := ⟨value⟩ }
    | some (path, ending) =>
      match number16? ending with
      | none => .ok { sourceFolder := ⟨value⟩ }
      | some release =>
        if path = "" then .error ⟨s!"Source root '{value}' has no path", []⟩
        else .ok { sourceFolder := ⟨path⟩, release := some release }

/-- Reads the release of a lookup.  No value, an empty one, and `base` mean the baseline. -/
def parseReleaseArgument (value : Option String) : Except Failure Release :=
  match value with
  | none => .ok .unversioned
  | some value =>
    let value := trim value
    if value = "" ∨ value = "base" then .ok .unversioned
    else
      match number16 value with
      | .ok number => .ok (.java number)
      | .error fault => .error ⟨s!"Invalid release '{value}'", [fault.message]⟩

/-- The configuration that the options of a build describe. -/
def EnvironmentOptions.config (options : EnvironmentOptions) : Except Failure BuildConfig := do
  let roots ← options.roots.mapM parseRoot
  let config : BuildConfig := {
    output := ⟨options.output⟩
    compliance := options.compliance
    roots
    classpath := options.classpath.map Path.mk
    jdkHome := options.jdk.map Path.mk }
  match config.validate with
  | .ok _ => .ok config
  | .error error => .error (Failure.ofBuildError "Invalid build configuration" error)

/-! ## Commands -/

/-- What a run of the program leaves behind. -/
structure Outcome where
  code : Nat := 0
  stdout : String := ""
  stderr : String := ""
deriving Repr, DecidableEq, Inhabited

namespace Outcome

/-- The outcome of a command that prints something and may then fail. -/
def ofResult (stdout : String) : Except Failure Unit → Outcome
  | .ok _ => { stdout }
  | .error failure => { code := 1, stdout, stderr := failure.report }

end Outcome

namespace Command

/-- A line of output. -/
def line (text : String) : String := text ++ "\n"

/-- What a validation prints. -/
def validationOutput (json : Bool) (summary : Validation.Summary) (problems : List Problem) :
    String :=
  if json then line (Problem.listJson problems)
  else
    String.join (problems.map fun p => line p.describe) ++
      line (s!"Checked {summary.multiReleaseTypes} multi-release type(s), " ++
        s!"{summary.comparisons} comparison(s): {summary.problems} problem(s)")

/-- Validates the output of a build. -/
def runValidate (files : Files) (options : EnvironmentOptions) (json : Bool) :
    Except Failure Outcome := do
  let config ← options.config
  match config.sourceRoots files with
  | .error error => .error (Failure.ofBuildError "Failed to configure source roots" error)
  | .ok roots =>
    let (summary, problems, _) := Validation.validate files roots {}
    let verdict : Except Failure Unit :=
      if Problem.anyError problems then
        .error ⟨s!"Multi-release validation failed with {summary.problems} problem(s)", []⟩
      else .ok ()
    .ok (Outcome.ofResult (validationOutput json summary problems) verdict)

/-- The name environment of a build. -/
def environmentOf (files : Files) (vars : Variables) (config : BuildConfig) :
    Except Failure Environment :=
  match config.environment files vars with
  | .ok environment => .ok environment
  | .error error => .error (Failure.ofBuildError "Failed to assemble the name environment" error)

/-- Resolves a type. -/
def runResolve (files : Files) (vars : Variables) (name : String)
    (release module : Option String) (options : EnvironmentOptions) (json : Bool) :
    Except Failure Outcome := do
  let config ← options.config
  let release ← parseReleaseArgument release
  match Query.ofDotted? name with
  | none => .error ⟨s!"'{name}' is not a qualified type name", []⟩
  | some query =>
    let environment ← environmentOf files vars config
    let constraint := match module with
      | some module => ModuleConstraint.named module
      | none => .any
    match environment.find files {} query constraint release with
    | (some answer, _) =>
      .ok { stdout := line (if json then answer.toJson.pretty else answer.describe) }
    | (none, _) => .error ⟨s!"Type '{name}' not found for release {release.text}", []⟩

/-- Lists the modules of a build. -/
def runModules (files : Files) (vars : Variables) (options : EnvironmentOptions)
    (limit : List String) : Except Failure Outcome := do
  let config ← options.config
  let environment ← environmentOf files vars config
  let limit := if limit.isEmpty then none else some limit
  let (names, _) := environment.moduleNames files {} limit
  .ok { stdout := String.join (names.map line) }

/-- Carries a command out. -/
def run (files : Files) (vars : Variables) : Command → Except Failure Outcome
  | validate options json => runValidate files options json
  | resolve name release module options json =>
    runResolve files vars name release module options json
  | modules options limit => runModules files vars options limit
  | version => .ok { stdout := line versionLine }

end Command

/-- Runs the program.  Arguments of the wrong form end it with code 2, a failure with code 1. -/
def runProgram (files : Files) (vars : Variables) (arguments : List String) : Outcome :=
  match Command.parse arguments with
  | .error .help => {}
  | .error .invalid => { code := 2 }
  | .ok command =>
    match command.run files vars with
    | .ok outcome => outcome
    | .error failure => { code := 1, stderr := failure.report }

end MultiRelease
