/-!
# Errors in the source of a module declaration

Each error is a cause with the data that its message shows.  Lines and columns count from one.
-/

set_option autoImplicit false

namespace MultiRelease

/-- A place in a source text. -/
structure Position where
  line : Nat := 1
  column : Nat := 1
deriving Repr, DecidableEq, Inhabited

/-- The place after a character: the start of the next line after a line end, and otherwise one
column further. -/
def Position.next (p : Position) (c : Char) : Position :=
  if c = '\n' then ⟨p.line + 1, 1⟩ else ⟨p.line, p.column + 1⟩

/-- The place after some text. -/
def Position.after (p : Position) (text : List Char) : Position := text.foldl Position.next p

/-- What a source text can leave open. -/
inductive Enclosure where
  | comment
  | literal
deriving Repr, DecidableEq

/-- The word for an enclosure. -/
def Enclosure.word : Enclosure → String
  | .comment => "comment"
  | .literal => "literal"

/-- Why the source of a module declaration is refused. -/
inductive SourceError where
  | unexpectedChar (found : Char) (place : Position)
  | unterminated (what : Enclosure) (start : Position)
  | unexpectedToken (expected found : String) (place : Position)
  | unexpectedEnd (expected : String)
  | missingDeclaration
  | modulesUnsupported (level : UInt16)
  | unreadable (path : String)
deriving Repr, DecidableEq

/-- The wording of an error.  What the system says about an unreadable file is not part of it. -/
def SourceError.message : SourceError → String
  | .unexpectedChar found place =>
    s!"Unexpected character '{found}' at line {place.line}, column {place.column}"
  | .unterminated what start =>
    s!"Unterminated {what.word} starting at line {start.line}, column {start.column}"
  | .unexpectedToken expected found place =>
    s!"Expected {expected} but found '{found}' at line {place.line}, column {place.column}"
  | .unexpectedEnd expected => s!"Expected {expected} but reached end of input"
  | .missingDeclaration => "No module declaration found"
  | .modulesUnsupported level =>
    s!"Module declarations require source level 9 or above (found {level.toNat})"
  | .unreadable path => s!"Failed to read {path}"

end MultiRelease
