/-!
# Command-line arguments

The form of the arguments: a command with options and, for `resolve`, the name of a type.

An option is written `--name value`, `--name=value` or, where it has a letter, `-l value`, `-lvalue`
or `-l=value`.  A value that is an argument of its own may not start with a hyphen, unless it is a
single hyphen.  After `--` every argument is a positional one.  An option that does not collect
values, and a switch, may be given once.
-/

set_option autoImplicit false

namespace MultiRelease

/-- What an option takes. -/
inductive OptionKind where
  /-- Nothing: it is given or not. -/
  | switch
  /-- One value. -/
  | value
  /-- One value each time that it is given. -/
  | values
deriving Repr, DecidableEq

/-- An option of a command. -/
structure OptionSpec where
  name : String
  letter : Option Char := none
  kind : OptionKind := .value
deriving Repr, DecidableEq

/-- Why the arguments are not carried out. -/
inductive UsageStop where
  /-- They do not have the right form. -/
  | invalid
  /-- They ask for help. -/
  | help
deriving Repr, DecidableEq

/-- What was given: options with their values, and positional arguments, each in order. -/
structure GivenArguments where
  options : List (String × String) := []
  positional : List String := []
deriving Repr, DecidableEq, Inhabited

namespace GivenArguments

/-- The values of an option. -/
def valuesOf (given : GivenArguments) (name : String) : List String :=
  (given.options.filter (·.1 = name)).map (·.2)

/-- The value of an option that was given. -/
def value? (given : GivenArguments) (name : String) : Option String :=
  (given.valuesOf name).head?

/-- Whether a switch was given. -/
def has (given : GivenArguments) (name : String) : Bool := given.options.any (·.1 = name)

/-- Adds an option, which may be given twice only if it collects values. -/
def addOption (given : GivenArguments) (spec : OptionSpec) (value : String) :
    Except UsageStop GivenArguments :=
  if spec.kind ≠ .values ∧ given.has spec.name then .error .invalid
  else .ok { given with options := given.options ++ [(spec.name, value)] }

end GivenArguments

/-- The form of an argument. -/
inductive ArgumentForm where
  /-- The mark after which all arguments are positional. -/
  | endOfOptions
  | long (name : String) (value : Option String)
  | short (letters : List Char)
  | plain
deriving Repr, DecidableEq

/-- The form of an argument. -/
def argumentForm (argument : String) : ArgumentForm :=
  match argument.toList with
  | ['-', '-'] => .endOfOptions
  | '-' :: '-' :: rest =>
    let name := rest.takeWhile (· ≠ '=')
    let value := match rest.dropWhile (· ≠ '=') with
      | _ :: value => some (String.ofList value)
      | [] => none
    .long (String.ofList name) value
  | '-' :: c :: rest => .short (c :: rest)
  | _ => .plain

/-- The value that is written in the argument after an option. -/
def separateValue : List String → Except UsageStop (String × List String)
  | [] => .error .invalid
  | argument :: rest =>
    if argumentForm argument = .plain then .ok (argument, rest) else .error .invalid

/-- Takes an option written in full, with the arguments after it. -/
def takeLong (specs : List OptionSpec) (given : GivenArguments) (name : String)
    (value : Option String) (rest : List String) :
    Except UsageStop (GivenArguments × List String) :=
  match specs.find? (·.name = name) with
  | none => .error (if name = "help" ∧ value.isNone then .help else .invalid)
  | some spec =>
    match spec.kind, value with
    | .switch, none => (given.addOption spec "").map fun given => (given, rest)
    | .switch, some _ => .error .invalid
    | _, some value => (given.addOption spec value).map fun given => (given, rest)
    | _, none =>
      match separateValue rest with
      | .ok (value, rest) => (given.addOption spec value).map fun given => (given, rest)
      | .error stop => .error stop

/-- Takes options written as letters, with the arguments after them. -/
def takeLetters (specs : List OptionSpec) (given : GivenArguments) (rest : List String) :
    List Char → Except UsageStop (GivenArguments × List String)
  | [] => .ok (given, rest)
  | letter :: letters =>
    match specs.find? (·.letter = some letter) with
    | none => .error (if letter = 'h' then .help else .invalid)
    | some spec =>
      if spec.kind = .switch then
        match given.addOption spec "" with
        | .ok given => takeLetters specs given rest letters
        | .error stop => .error stop
      else
        match letters with
        | [] =>
          match separateValue rest with
          | .ok (value, rest) => (given.addOption spec value).map fun given => (given, rest)
          | .error stop => .error stop
        | c :: others =>
          let value := if c = '=' then others else c :: others
          (given.addOption spec (String.ofList value)).map fun given => (given, rest)

/-- Takes a positional argument, of which at most `slots` are expected. -/
def takePositional (slots : Nat) (given : GivenArguments) (argument : String) :
    Except UsageStop GivenArguments :=
  if given.positional.length < slots then
    .ok { given with positional := given.positional ++ [argument] }
  else .error .invalid

/-- Takes positional arguments only. -/
def takePositionals (slots : Nat) (given : GivenArguments) :
    List String → Except UsageStop GivenArguments
  | [] => .ok given
  | argument :: rest =>
    match takePositional slots given argument with
    | .ok given => takePositionals slots given rest
    | .error stop => .error stop

theorem separateValue_length {arguments rest : List String} {value : String}
    (h : separateValue arguments = .ok (value, rest)) : rest.length ≤ arguments.length := by
  unfold separateValue at h
  grind

theorem takeLong_length {specs : List OptionSpec} {given result : GivenArguments} {name : String}
    {value : Option String} {rest after : List String}
    (h : takeLong specs given name value rest = .ok (result, after)) :
    after.length ≤ rest.length := by
  simp only [takeLong, Except.map] at h
  grind [→ separateValue_length]

theorem takeLetters_length {specs : List OptionSpec} {given result : GivenArguments}
    {rest after : List String} {letters : List Char}
    (h : takeLetters specs given rest letters = .ok (result, after)) :
    after.length ≤ rest.length := by
  induction letters generalizing given with
  | nil => grind [takeLetters]
  | cons letter letters ih =>
    simp only [takeLetters, Except.map] at h
    grind [→ separateValue_length]

/-- Takes the arguments of a command with some options and positional arguments. -/
def takeArguments (specs : List OptionSpec) (slots : Nat) (given : GivenArguments) :
    List String → Except UsageStop GivenArguments
  | [] => .ok given
  | argument :: rest =>
    match argumentForm argument with
    | .endOfOptions => takePositionals slots given rest
    | .long name value =>
      match _h : takeLong specs given name value rest with
      | .ok (given, rest) => takeArguments specs slots given rest
      | .error stop => .error stop
    | .short letters =>
      match _h : takeLetters specs given rest letters with
      | .ok (given, rest) => takeArguments specs slots given rest
      | .error stop => .error stop
    | .plain =>
      match takePositional slots given argument with
      | .ok given => takeArguments specs slots given rest
      | .error stop => .error stop
termination_by arguments => arguments.length
decreasing_by
  all_goals grind [→ takeLong_length, → takeLetters_length]

/-- Takes the options in front of the command, and returns the arguments from the command on. -/
def takeLeading (specs : List OptionSpec) (given : GivenArguments) :
    List String → Except UsageStop (List String)
  | [] => .ok []
  | argument :: rest =>
    match argumentForm argument with
    | .endOfOptions => if rest.isEmpty then .ok [] else .error .invalid
    | .long name value =>
      match _h : takeLong specs given name value rest with
      | .ok (given, rest) => takeLeading specs given rest
      | .error stop => .error stop
    | .short letters =>
      match _h : takeLetters specs given rest letters with
      | .ok (given, rest) => takeLeading specs given rest
      | .error stop => .error stop
    | .plain => .ok (argument :: rest)
termination_by arguments => arguments.length
decreasing_by
  all_goals grind [→ takeLong_length, → takeLetters_length]

/-! ## Commands -/

/-- The options of every command that sets up a build. -/
structure EnvironmentOptions where
  output : String := "./out"
  roots : List String := []
  classpath : List String := []
  jdk : Option String := none
  compliance : String := "21"
deriving Repr, DecidableEq, Inhabited

/-- A command of the program. -/
inductive Command where
  | validate (environment : EnvironmentOptions) (json : Bool)
  | resolve (name : String) (release module : Option String)
      (environment : EnvironmentOptions) (json : Bool)
  | modules (environment : EnvironmentOptions) (limit : List String)
  | version
deriving Repr, DecidableEq, Inhabited

namespace Command

/-- The option for the log, which every command takes. -/
def logOption : OptionSpec := { name := "log" }

/-- The options that set up a build. -/
def environmentSpecs : List OptionSpec :=
  [logOption, { name := "output", letter := some 'o' }, { name := "root", kind := .values },
    { name := "classpath", kind := .values }, { name := "jdk" }, { name := "compliance" }]

/-- The switch for output in JSON. -/
def jsonSwitch : OptionSpec := { name := "json", kind := .switch }

/-- The options of a build that were given. -/
def environmentOptions (given : GivenArguments) : EnvironmentOptions where
  output := (given.value? "output").getD "./out"
  roots := given.valuesOf "root"
  classpath := given.valuesOf "classpath"
  jdk := given.value? "jdk"
  compliance := (given.value? "compliance").getD "21"

/-- The names of the commands. -/
def names : List String := ["validate", "resolve", "modules", "version", "help"]

/-- Whether help on some arguments can be given: at most one argument, which names a command. -/
def isHelpTopic : List String → Bool
  | [] => true
  | [name] => names.contains name
  | _ => false

/-- The command with the given name and arguments. -/
def ofName (name : String) (arguments : List String) : Except UsageStop Command :=
  if name = "validate" then do
    let given ← takeArguments (jsonSwitch :: environmentSpecs) 0 {} arguments
    .ok (.validate (environmentOptions given) (given.has "json"))
  else if name = "resolve" then do
    let own := [jsonSwitch, { name := "release" }, { name := "module" }]
    let given ← takeArguments (own ++ environmentSpecs) 1 {} arguments
    match given.positional with
    | [typeName] =>
      .ok (.resolve typeName (given.value? "release") (given.value? "module")
        (environmentOptions given) (given.has "json"))
    | _ => .error .invalid
  else if name = "modules" then do
    let own : OptionSpec := { name := "limit", kind := .values }
    let given ← takeArguments (own :: environmentSpecs) 0 {} arguments
    .ok (.modules (environmentOptions given) (given.valuesOf "limit"))
  else if name = "version" then do
    let _ ← takeArguments [logOption] 0 {} arguments
    .ok .version
  else if name = "help" ∧ isHelpTopic arguments then .error .help
  else .error .invalid

/-- The command that some arguments ask for; without a command, the version is shown. -/
def parse (arguments : List String) : Except UsageStop Command :=
  match takeLeading [logOption] {} arguments with
  | .error stop => .error stop
  | .ok [] => .ok .version
  | .ok (name :: arguments) => ofName name arguments

end Command

end MultiRelease
