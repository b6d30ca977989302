import MultiRelease.Module.SourceError
import MultiRelease.Text.Blank
import MultiRelease.Text.Letter
import MultiRelease.Text.Number

/-!
# Tokens of a module declaration

`tokenize` cuts a source text into *pieces*, from left to right.  A piece is a gap (one blank, a
line comment up to its line end, or a block comment) or a token; `pieceAt` decides from the text
that remains which piece stands at its front and how long it is.  Since every piece takes at least
one character, the scan ends.

Literals are kept whole and never interpreted.  A digit outside an identifier is a literal of its
own.
-/

set_option autoImplicit false

namespace MultiRelease

open Text

/-- The kinds of token that a module declaration tells apart. -/
inductive TokenKind where
  | identifier
  | dot
  | semicolon
  | comma
  | leftBrace
  | rightBrace
  | leftParen
  | rightParen
  | at
  | star
  | literal
  | other
deriving Repr, DecidableEq, Inhabited

/-- A token with the place of its first character. -/
structure Token where
  kind : TokenKind
  lexeme : String
  place : Position
deriving Repr, DecidableEq, Inhabited

/-- Whether a character may start an identifier. -/
def isIdentifierStart (c : Char) : Bool := isAlphabetic c || c = '_' || c = '$'

/-- Whether a character may continue an identifier. -/
def isIdentifierPart (c : Char) : Bool := isAlphanumeric c || c = '_' || c = '$'

/-- The kind of a character that is a token by itself. -/
def symbolKind? (c : Char) : Option TokenKind :=
  match c with
  | '.' => some .dot
  | ';' => some .semicolon
  | ',' => some .comma
  | '{' => some .leftBrace
  | '}' => some .rightBrace
  | '(' => some .leftParen
  | ')' => some .rightParen
  | '@' => some .at
  | '*' => some .star
  | c =>
    if c ∈ ['=', '+', '-', '[', ']', '<', '>', '?', ':', '&', '|', '!', '~', '^', '%', '/'] then
      some .other
    else if isDecimalDigit c then some .literal
    else none

/-- How many characters it takes to close a block comment, counting the closing mark. -/
def commentLength? : List Char → Option Nat
  | [] => none
  | '*' :: '/' :: _ => some 2
  | _ :: rest => (commentLength? rest).map (· + 1)

/-- How many characters it takes to close a literal, counting the closing quote.  A backslash keeps
the character after it, whatever it is, from closing or breaking the literal; a bare line end breaks
it. -/
def literalLength? (quote : Char) : List Char → Option Nat
  | [] => none
  | ['\\'] => none
  | '\\' :: _ :: rest => (literalLength? quote rest).map (· + 2)
  | c :: rest =>
    if c = '\n' then none
    else if c = quote then some 1
    else (literalLength? quote rest).map (· + 1)

/-- A piece of a source text: its kind of token, or none for a gap, and how many characters it has
after its first. -/
structure Piece where
  kind : Option TokenKind
  more : Nat
deriving Repr, DecidableEq

/-- The piece that starts with the character `c`, given the text after it.  The error is the one to
report at the place of `c`. -/
def pieceAt (c : Char) (rest : List Char) : Except (Position → SourceError) Piece :=
  if isBlank c then .ok ⟨none, 0⟩
  else if c = '/' ∧ rest.head? = some '/' then
    .ok ⟨none, (rest.takeWhile (· ≠ '\n')).length⟩
  else if c = '/' ∧ rest.head? = some '*' then
    match commentLength? rest.tail with
    | some n => .ok ⟨none, n + 1⟩
    | none => .error (.unterminated .comment)
  else if c = '\x22' ∨ c = '\x27' then
    match literalLength? c rest with
    | some n => .ok ⟨some .literal, n⟩
    | none => .error (.unterminated .literal)
  else if isIdentifierStart c then
    .ok ⟨some .identifier, (rest.takeWhile isIdentifierPart).length⟩
  else
    match symbolKind? c with
    | some kind => .ok ⟨some kind, 0⟩
    | none => .error (.unexpectedChar c)

/-- The tokens of a text whose first character stands at `place`. -/
def tokensFrom (place : Position) : List Char → Except SourceError (List Token)
  | [] => .ok []
  | c :: rest =>
    match pieceAt c rest with
    | .error cause => .error (cause place)
    | .ok piece =>
      let text := c :: rest.take piece.more
      match tokensFrom (place.after text) (rest.drop piece.more) with
      | .error error => .error error
      | .ok tokens =>
        match piece.kind with
        | some kind => .ok (⟨kind, String.ofList text, place⟩ :: tokens)
        | none => .ok tokens
termination_by text => text.length
decreasing_by simp only [List.length_cons, List.length_drop]; omega

/-- The tokens of a source text. -/
def tokenize (source : String) : Except SourceError (List Token) :=
  tokensFrom ⟨1, 1⟩ source.toList

end MultiRelease
