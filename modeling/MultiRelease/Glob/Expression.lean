import MultiRelease.Glob.Match

/-!
# Glob patterns as expressions

A pattern has the meaning of a regular expression over bytes.  This file writes that expression
down, as errors show it, and measures how deep its parts are nested.

Groups, alternatives, sequences of at least two parts, repetitions and sets each add a level.  The
expression of a whole pattern is always a sequence, because it is fixed at both ends.
-/

set_option autoImplicit false

namespace MultiRelease

namespace GlobToken

/-! ## The text of an expression -/

/-- The characters that mean something in an expression. -/
def expressionMarks : List Char := "\\.+*?()|[]\x7b\x7d^$#&-~".toList

/-- A byte that stands for itself.  Outside of ASCII it is written in hexadecimal. -/
def byteExpression (b : UInt8) : List Char :=
  let c := Char.ofNat b.toNat
  if 0x80 ≤ b then '\\' :: 'x' :: Nat.toDigits 16 b.toNat
  else if expressionMarks.contains c then ['\\', c]
  else [c]

/-- A character that stands for itself. -/
def charExpression (c : Char) : String := String.ofList ((charBytes c).flatMap byteExpression)

/-- A range of characters inside a set. -/
def rangeExpression (low high : Char) : String :=
  if low = high then charExpression low else charExpression low ++ "-" ++ charExpression high

mutual

/-- The expression of a token. -/
def expression : GlobToken → String
  | .literal c => charExpression c
  | .anyByte => "[^/]"
  | .anyBytes => "[^/]*"
  | .leadingSegments => "(?:/?|.*/)"
  | .trailingSegments => "/.*"
  | .innerSegments => "(?:/|/.*/)"
  | .byteSet negated ranges =>
    let members := String.join (ranges.map fun (low, high) => rangeExpression low high)
    "[" ++ (if negated then "^" else "") ++ members ++ "]"
  | .oneOf branches =>
    match branchExpressions branches with
    | [] => ""
    | expressions => "(?:" ++ "|".intercalate expressions ++ ")"

/-- The expressions of the branches that are not empty. -/
def branchExpressions : List (List GlobToken) → List String
  | [] => []
  | branch :: branches =>
    if isVoidBranch branch then branchExpressions branches
    else sequenceExpression branch :: branchExpressions branches

/-- The expression of some tokens, one after the other. -/
def sequenceExpression : List GlobToken → String
  | [] => ""
  | token :: tokens => expression token ++ sequenceExpression tokens

end

/-! ## Nesting -/

/-- The number of parts that a token contributes to a sequence. -/
def partCount : GlobToken → Nat
  | .literal c => (charBytes c).length
  | .trailingSegments => 2
  | .oneOf branches => if allVoid branches then 0 else 1
  | _ => 1

/-- The number of parts of a sequence. -/
def sequencePartCount (tokens : List GlobToken) : Nat :=
  tokens.foldl (fun parts token => parts + partCount token) 0

/-- One more level for what has at least two parts. -/
def levelFor (parts : Nat) : Nat := if 2 ≤ parts then 1 else 0

mutual

/-- The levels in the expression of a token. -/
def nesting : GlobToken → Nat
  | .literal _ => 0
  | .anyByte => 1
  | .anyBytes => 2
  | .leadingSegments => 4
  | .trailingSegments => 1
  | .innerSegments => 4
  | .byteSet _ ranges =>
    1 + levelFor (ranges.flatMap fun (low, high) => byteRanges low high).length
  | .oneOf branches =>
    if allVoid branches then 0
    else
      1 + levelFor (branches.filter fun branch => !isVoidBranch branch).length
        + branchNesting branches

/-- The most levels in one of the branches. -/
def branchNesting : List (List GlobToken) → Nat
  | [] => 0
  | branch :: branches =>
    max (levelFor (sequencePartCount branch) + sequenceNesting branch) (branchNesting branches)

/-- The most levels in one of some tokens. -/
def sequenceNesting : List GlobToken → Nat
  | [] => 0
  | token :: tokens => max (nesting token) (sequenceNesting tokens)

end

end GlobToken

namespace Glob

/-- The expression that matches the names that the pattern matches. -/
def expression (glob : Glob) : String :=
  let inner := match glob.tokens with
    | [.leadingSegments] => ".*"
    | tokens => GlobToken.sequenceExpression tokens
  "(?-u)^" ++ inner ++ "$"

/-- The levels in the expression of a pattern. -/
def nesting (glob : Glob) : Nat := 1 + GlobToken.sequenceNesting glob.tokens

end Glob

end MultiRelease
