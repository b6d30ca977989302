import MultiRelease.Glob.Expression
import MultiRelease.Text.Segments

/-!
# Selecting files by patterns

Lists of patterns that say which files belong to something.  What a pattern has to know of a file
depends on its form (`Glob.basis`): the path, the name at the end of the path, the extension of that
name, or whatever its expression asks.

Two dots at the end of a path are not the name of a file, so patterns that go by the name or its
extension do not select such a path, even if they match it.  The patterns that go by an extension or
by their expression have to be compiled, and what is nested deeper than `maxNesting` is refused.
-/

set_option autoImplicit false

namespace MultiRelease

/-! ## What patterns go by -/

/-- What a pattern has to know of a file. -/
inductive GlobBasis where
  | path
  | fileName
  | extension
  | expression
deriving Repr, DecidableEq, Inhabited

namespace GlobToken

/-- Whether the token is a character. -/
def isLiteral : GlobToken → Bool
  | .literal _ => true
  | _ => false

/-- Whether the token is the given character. -/
def isChar (c : Char) : GlobToken → Bool
  | .literal d => c = d
  | _ => false

/-- Whether the token stands for whole segments at the start. -/
def isLeading : GlobToken → Bool
  | .leadingSegments => true
  | _ => false

/-- Whether the token stands for whole segments at the end. -/
def isTrailing : GlobToken → Bool
  | .trailingSegments => true
  | _ => false

/-- Whether tokens, taken from the back, are the characters of an extension up to its dot. -/
def startsExtension : List GlobToken → Bool
  | .literal c :: tokens => c = '.' || (c ≠ '/' && startsExtension tokens)
  | _ => false

end GlobToken

namespace Glob

open GlobToken Text

/-- Whether the pattern is a text, or the text of a folder with anything below it. -/
def goesByPath (glob : Glob) : Bool :=
  match glob.tokens.getLast? with
  | none => false
  | some last => (last.isLiteral || last.isTrailing) && glob.tokens.dropLast.all isLiteral

/-- What the pattern has to know of a file. -/
def basis (glob : Glob) : GlobBasis :=
  let ending := glob.tokens.drop 1
  if glob.goesByPath then .path
  else if glob.tokens.head?.any isLeading && !ending.isEmpty && ending.all isLiteral then
    if ending.any (isChar '/') then .path else .fileName
  else if startsExtension glob.tokens.reverse then .extension
  else .expression

/-- Whether the path ends in the name of a file. -/
def endsInName (path : String) : Bool := (segments '/' path).getLast? ≠ some ".."

/-- Whether the pattern selects the file with the given path. -/
def selects (glob : Glob) (path : String) : Bool :=
  glob.isMatch path &&
    match glob.basis with
    | .path | .expression => true
    | .fileName | .extension => endsInName path

end Glob

/-! ## Lists of patterns -/

/-- Why a list of patterns is refused. -/
inductive PatternFault where
  | malformed (error : GlobError)
  /-- The expression of a pattern that goes by an extension is nested too deep. -/
  | deepExtension (expression : String)
  /-- An expression is nested too deep; it is named by its place among the expressions. -/
  | deepExpression (place : Nat)
deriving Repr, DecidableEq

/-- The wording of a fault. -/
def PatternFault.message : PatternFault → String
  | .malformed error => error.message
  | .deepExtension expression => s!"error parsing glob '{expression}': error parsing pattern 0"
  | .deepExpression place => s!"error parsing pattern {place}"

/-- A pattern that is refused, or all patterns of a list that is. -/
structure PatternError where
  pattern : String
  cause : PatternFault
deriving Repr, DecidableEq

/-- The wording of a refused pattern. -/
def PatternError.message (e : PatternError) : String :=
  s!"Invalid pattern '{e.pattern}': {e.cause.message}"

namespace Glob

/-- The patterns, read from the first to the last. -/
def parseEach : List String → Except PatternError (List Glob)
  | [] => .ok []
  | pattern :: others =>
    match parse pattern with
    | .error error => .error ⟨pattern, .malformed error⟩
    | .ok glob =>
      match parseEach others with
      | .error error => .error error
      | .ok globs => .ok (glob :: globs)

/-- The levels that an expression may have. -/
def maxNesting : Nat := 250

/-- Whether the expression of a pattern cannot be compiled. -/
def isTooDeep (glob : Glob) : Bool := maxNesting < glob.nesting

/-- The first fault in compiling some patterns, those that go by an extension first. -/
def compileFault? (globs : List Glob) : Option PatternFault :=
  let extensions := globs.filter fun glob => glob.basis = .extension
  let expressions := globs.filter fun glob => glob.basis = .expression
  match extensions.find? isTooDeep with
  | some glob => some (.deepExtension glob.expression)
  | none => (expressions.findIdx? isTooDeep).map .deepExpression

/-- The patterns of a list. -/
def parseList (patterns : List String) : Except PatternError (List Glob) :=
  match parseEach patterns with
  | .error error => .error error
  | .ok globs =>
    match compileFault? globs with
    | some fault => .error ⟨", ".intercalate patterns, fault⟩
    | none => .ok globs

end Glob

end MultiRelease
