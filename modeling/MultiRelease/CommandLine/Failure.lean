import MultiRelease.BuildError

/-!
# Failures of a command

A failure is what the user is told: what went wrong, and what caused it, from the outside in.
-/

set_option autoImplicit false

namespace MultiRelease

/-- What went wrong, and why. -/
structure Failure where
  message : String
  causes : List String := []
deriving Repr, DecidableEq, Inhabited

namespace Failure

/-- The whole chain in one line. -/
def oneLine (failure : Failure) : String := ": ".intercalate (failure.message :: failure.causes)

/-- A failure caused by an error of the build. -/
def ofBuildError (message : String) (error : BuildError) : Failure := ⟨message, error.chain⟩

/-- A text whose further lines are indented. -/
def indentLines (indentation text : String) : String :=
  String.ofList (text.toList.flatMap fun c =>
    if c = '\n' then c :: indentation.toList else [c])

/-- One of several causes, with its number. -/
def numberedCause (number : Nat) (cause : String) : String :=
  let digits := toString number
  "\n" ++ String.ofList (List.replicate (5 - digits.length) ' ') ++ digits ++ ": " ++
    indentLines "       " cause

/-- The failure as it is shown on the terminal.  A single cause bears no number. -/
def report (failure : Failure) : String :=
  let causes := match failure.causes with
    | [] => ""
    | [cause] => "\n\nCaused by:\n    " ++ indentLines "    " cause
    | causes => "\n\nCaused by:" ++
        String.join (causes.zipIdx.map fun (cause, number) => numberedCause number cause)
  "Error: " ++ failure.message ++ causes ++ "\n"

end Failure

end MultiRelease
