import MultiRelease.ClassFile.BinaryType
import MultiRelease.Files.Path
import MultiRelease.Lookup.AccessRules
import MultiRelease.Release

/-!
# Answers
-/

set_option autoImplicit false

namespace MultiRelease

/-- What a lookup found: a compiled type, or a source file that declares the type. -/
inductive AnswerKind where
  | binary (type : BinaryType)
  | source (path : Path) (mainTypeName : String)
deriving Repr, DecidableEq, Inhabited

/-- The answer of a location to a lookup. -/
structure Answer where
  kind : AnswerKind
  moduleName : Option String
  /-- The binding of the location that answered. -/
  release : Release
  restriction : Option AccessRestriction := none
deriving Repr, DecidableEq, Inhabited

namespace Answer

/-- The compiled type that was found, if one was. -/
def binaryType? (a : Answer) : Option BinaryType :=
  match a.kind with
  | .binary type => some type
  | .source _ _ => none

/-- Whether a source file was found. -/
def isSource (a : Answer) : Bool :=
  match a.kind with
  | .binary _ => false
  | .source _ _ => true

/-- The answer in one line. -/
def describe (a : Answer) : String :=
  let module := match a.moduleName with
    | some name => " in module " ++ name
    | none => ""
  match a.kind with
  | .binary type => s!"{type.qualifiedName} (binary, release {a.release.text}){module}"
  | .source path _ => s!"{path.text} (source, release {a.release.text}){module}"

end Answer

end MultiRelease
