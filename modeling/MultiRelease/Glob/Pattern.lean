/-!
# Glob patterns

The syntax of the patterns that select names of types and of source files.

* `?` stands for one byte and `*` for any run of bytes, neither of them a slash.
* `**` stands for any run of whole segments where it fills a segment of its own, and for two stars
  elsewhere.
* `[a-z]` and `[!a-z]` stand for one byte in or outside a set.
* `{x,y}` stands for one of several patterns.
* A backslash takes the special meaning from the character after it.

`Glob.parse` reads a pattern from left to right.  While it is inside braces, the innermost branch is
under construction, and `Draft.groups` remembers for each open brace what stood before it and which
branches are complete.
-/

set_option autoImplicit false

namespace MultiRelease

/-- A part of a pattern. -/
inductive GlobToken where
  | literal (c : Char)
  /-- One byte other than a slash. -/
  | anyByte
  /-- Any number of bytes other than a slash. -/
  | anyBytes
  /-- Any number of leading segments, with their slashes. -/
  | leadingSegments
  /-- A slash and anything after it. -/
  | trailingSegments
  /-- A slash, and any number of segments with their slashes. -/
  | innerSegments
  /-- One byte in, or with `negated` outside, the union of closed ranges of characters. -/
  | byteSet (negated : Bool) (ranges : List (Char × Char))
  | oneOf (branches : List (List GlobToken))
deriving Repr, Inhabited

/-- Why a pattern is refused. -/
inductive GlobFault where
  | unclosedClass
  | invalidRange (low high : Char)
  | unopenedGroup
  | unclosedGroup
  | danglingEscape
deriving Repr, DecidableEq

/-- The wording of a fault. -/
def GlobFault.message : GlobFault → String
  | .unclosedClass => "unclosed character class; missing ']'"
  | .invalidRange low high => s!"invalid range; '{low}' > '{high}'"
  | .unopenedGroup =>
    "unopened alternate group; missing '\x7b' (maybe escape '\x7d' with '[\x7d]'?)"
  | .unclosedGroup =>
    "unclosed alternate group; missing '\x7d' (maybe escape '\x7b' with '[\x7b]'?)"
  | .danglingEscape => "dangling '\\'"

/-- A refused pattern. -/
structure GlobError where
  pattern : String
  fault : GlobFault
deriving Repr, DecidableEq

/-- The wording of a refused pattern. -/
def GlobError.message (e : GlobError) : String :=
  s!"error parsing glob '{e.pattern}': " ++ e.fault.message

/-- A pattern with its parts. -/
structure Glob where
  pattern : String
  tokens : List GlobToken
deriving Repr, Inhabited

namespace Glob

/-! ## Sets of bytes -/

/-- Raises the upper end of the last range. -/
def raiseLast (ranges : List (Char × Char)) (high : Char) : Except GlobFault (List (Char × Char)) :=
  match ranges.getLast? with
  | some (low, _) =>
    if high < low then .error (.invalidRange low high)
    else .ok (ranges.dropLast ++ [(low, high)])
  | none => .ok [(high, high)]

/-- The ranges of a set up to its closing bracket, and the text after it.  A closing bracket or a
hyphen that stands first is a character of the set, and so is a hyphen that stands last.  `pending`
tells that a hyphen waits for the upper end of its range. -/
def setRanges (ranges : List (Char × Char)) (pending : Bool) :
    List Char → Except GlobFault (List (Char × Char) × List Char)
  | [] => .error .unclosedClass
  | c :: rest =>
    if c = ']' ∧ ranges ≠ [] then .ok (if pending then ranges ++ [('-', '-')] else ranges, rest)
    else if pending then
      match raiseLast ranges c with
      | .ok ranges => setRanges ranges false rest
      | .error fault => .error fault
    else if c = '-' ∧ ranges ≠ [] then setRanges ranges true rest
    else setRanges (ranges ++ [(c, c)]) false rest

theorem setRanges_length {ranges result : List (Char × Char)} {pending : Bool}
    {text after : List Char} (h : setRanges ranges pending text = .ok (result, after)) :
    after.length < text.length := by
  fun_induction setRanges ranges pending text generalizing result after <;> grind

/-- Whether a set starts with a mark of negation, and the text after the mark. -/
def setSign : List Char → Bool × List Char
  | '!' :: rest => (true, rest)
  | '^' :: rest => (true, rest)
  | text => (false, text)

theorem setSign_length (text : List Char) : (setSign text).2.length ≤ text.length := by
  fun_cases setSign text <;> simp

/-! ## Construction -/

/-- A pattern under construction: the tokens of the innermost open branch, and for each open brace,
innermost first, the tokens before it and its complete branches. -/
structure Draft where
  tokens : List GlobToken := []
  groups : List (List GlobToken × List (List GlobToken)) := []
deriving Inhabited

namespace Draft

/-- Adds tokens at the end. -/
def add (draft : Draft) (tokens : List GlobToken) : Draft :=
  { draft with tokens := draft.tokens ++ tokens }

/-- Opens a brace. -/
def openGroup (draft : Draft) : Draft := ⟨[], (draft.tokens, []) :: draft.groups⟩

/-- Starts the next branch.  Outside of braces a comma is a character like any other. -/
def nextBranch (draft : Draft) : Draft :=
  match draft.groups with
  | [] => draft.add [.literal ',']
  | (before, branches) :: outer => ⟨[], (before, branches ++ [draft.tokens]) :: outer⟩

/-- Closes the innermost brace. -/
def closeGroup (draft : Draft) : Except GlobFault Draft :=
  match draft.groups with
  | [] => .error .unopenedGroup
  | (before, branches) :: outer =>
    .ok ⟨before ++ [.oneOf (branches ++ [draft.tokens])], outer⟩

/-- Replaces the slash before a double star by the token for whole segments.  Double stars in a row
are one. -/
def addSegments (draft : Draft) (token : GlobToken) : Draft :=
  let token :=
    match draft.tokens.getLast? with
    | some .leadingSegments => .leadingSegments
    | some .trailingSegments => .trailingSegments
    | _ => token
  { draft with tokens := draft.tokens.dropLast ++ [token] }

end Draft

/-- What a double star is, given the character before it and the text after it, and the text that
is left once it is read. -/
def doubleStar (previous : Option Char) (draft : Draft) (rest : List Char) : Draft × List Char :=
  let twoStars := (draft.add [.anyBytes, .anyBytes], rest)
  if draft.tokens.isEmpty then
    match rest with
    | [] => (draft.add [.leadingSegments], [])
    | c :: after => if c = '/' then (draft.add [.leadingSegments], after) else twoStars
  else if previous = some '/' ∨
      (draft.groups ≠ [] ∧ (previous = some ',' ∨ previous = some '\x7b')) then
    match rest with
    | [] => (draft.addSegments .trailingSegments, [])
    | c :: after =>
      if c = '/' then (draft.addSegments .innerSegments, after)
      else if draft.groups ≠ [] ∧ (c = ',' ∨ c = '\x7d') then
        (draft.addSegments .trailingSegments, c :: after)
      else twoStars
  else twoStars

theorem doubleStar_length (previous : Option Char) (draft : Draft) (rest : List Char) :
    (doubleStar previous draft rest).2.length ≤ rest.length := by
  unfold doubleStar
  grind

/-- Reads the rest of a pattern.  `previous` is the character read last; after a double star that
took its slash along, that is the slash. -/
def parseFrom (previous : Option Char) (draft : Draft) :
    List Char → Except GlobFault (List GlobToken)
  | [] => if draft.groups.isEmpty then .ok draft.tokens else .error .unclosedGroup
  | '?' :: rest => parseFrom (some '?') (draft.add [.anyByte]) rest
  | '*' :: '*' :: rest =>
    let read := doubleStar previous draft rest
    parseFrom (some (if read.2.length < rest.length then '/' else '*')) read.1 read.2
  | '*' :: rest => parseFrom (some '*') (draft.add [.anyBytes]) rest
  | '[' :: rest =>
    match _h : setRanges [] false (setSign rest).2 with
    | .ok (ranges, after) =>
      parseFrom (some ']') (draft.add [.byteSet (setSign rest).1 ranges]) after
    | .error fault => .error fault
  | '\x7b' :: rest => parseFrom (some '\x7b') draft.openGroup rest
  | '\x7d' :: rest =>
    match draft.closeGroup with
    | .ok draft => parseFrom (some '\x7d') draft rest
    | .error fault => .error fault
  | ',' :: rest => parseFrom (some ',') draft.nextBranch rest
  | ['\\'] => .error .danglingEscape
  | '\\' :: c :: rest => parseFrom (some c) (draft.add [.literal c]) rest
  | c :: rest => parseFrom (some c) (draft.add [.literal c]) rest
termination_by text => text.length
decreasing_by
  all_goals grind [doubleStar_length, setSign_length, → setRanges_length]

/-- Reads a pattern. -/
def parse (pattern : String) : Except GlobError Glob :=
  match parseFrom none {} pattern.toList with
  | .ok tokens => .ok ⟨pattern, tokens⟩
  | .error fault => .error ⟨pattern, fault⟩

end Glob

end MultiRelease
