import MultiRelease.Glob.Pattern

/-!
# Matching names against glob patterns

A pattern matches a name when its tokens can take the name apart from front to back, byte by byte.
A token may take different amounts, so all ways are followed at once: `Marks` says of every place in
the name, from before its first byte to behind its last one, whether the tokens so far can end
there.  Each token leads from such marks to the next in one pass over the name
(`GlobToken.advance`), and a name is matched when the place behind its last byte is marked in the
end.

Names are compared as UTF-8 bytes: a character outside ASCII is several bytes, and a set of
characters contains the bytes of their encodings.
-/

set_option autoImplicit false

namespace MultiRelease

/-- The bytes of a name. -/
abbrev Bytes := List UInt8

/-- The byte of the slash. -/
def slashByte : UInt8 := 0x2F

/-! ## Places in a name -/

/-- For each place in a name, whether it can be reached. -/
abbrev Marks := List Bool

namespace Marks

/-- The mark of the place before the first byte alone. -/
def start (name : Bytes) : Marks := true :: name.map fun _ => false

/-- No place at all. -/
def nowhere (name : Bytes) : Marks := false :: name.map fun _ => false

/-- The places behind one byte that may be taken. -/
def after (name : Bytes) (takes : UInt8 → Bool) (marks : Marks) : Marks :=
  false :: List.zipWith (fun b mark => mark && takes b) name marks

/-- The places behind any number of bytes that may be taken.  `reached` tells whether the place in
front of the rest of the name is reached from an earlier one. -/
def carry (takes : UInt8 → Bool) (reached : Bool) : Bytes → Marks → Marks
  | b :: name, mark :: marks =>
    (reached || mark) :: carry takes ((reached || mark) && takes b) name marks
  | [], mark :: _ => [reached || mark]
  | _, [] => []

/-- The places that either marks. -/
def either (a b : Marks) : Marks := List.zipWith (· || ·) a b

/-- The places behind a slash. -/
def afterSlash (name : Bytes) (marks : Marks) : Marks := after name (· = slashByte) marks

/-- The places behind any number of segments with their slashes. -/
def afterSegments (name : Bytes) (marks : Marks) : Marks :=
  either marks (afterSlash name (carry (fun _ => true) false name marks))

end Marks

namespace GlobToken

/-- The UTF-8 bytes of a character. -/
def charBytes (c : Char) : Bytes := (String.singleton c).toUTF8.data.toList

/-- The byte ranges that a range of characters stands for.  Only the last byte of the low end and
the first byte of the high end form a range; the other bytes stand for themselves. -/
def byteRanges (low high : Char) : List (UInt8 × UInt8) :=
  if low = high then (charBytes low).map fun b => (b, b)
  else
    match (charBytes low).reverse, charBytes high with
    | last :: front, first :: back =>
      front.reverse.map (fun b => (b, b)) ++ [(last, first)] ++ back.map (fun b => (b, b))
    | _, _ => []

/-- Whether a byte belongs to a set of characters. -/
def setHas (negated : Bool) (ranges : List (Char × Char)) (b : UInt8) : Bool :=
  let inside := ranges.any fun (low, high) =>
    (byteRanges low high).any fun (first, last) => first ≤ b && b ≤ last
  inside != negated

mutual

/-- Whether a token matches nothing but the empty name, and so leaves a branch of braces empty. -/
def isVoid : GlobToken → Bool
  | .oneOf branches => allVoid branches
  | _ => false

/-- Whether every branch is empty. -/
def allVoid : List (List GlobToken) → Bool
  | [] => true
  | branch :: branches => isVoidBranch branch && allVoid branches

/-- Whether a branch is empty. -/
def isVoidBranch : List GlobToken → Bool
  | [] => true
  | token :: tokens => isVoid token && isVoidBranch tokens

end

mutual

/-- The places that a token leads to.  Empty branches of braces do not count, and braces without
other branches take nothing. -/
def advance (name : Bytes) : GlobToken → Marks → Marks
  | .literal c, marks => (charBytes c).foldl (fun marks b => marks.after name (· = b)) marks
  | .anyByte, marks => marks.after name (· ≠ slashByte)
  | .anyBytes, marks => marks.carry (· ≠ slashByte) false name
  | .leadingSegments, marks => marks.afterSegments name
  | .trailingSegments, marks => (marks.afterSlash name).carry (fun _ => true) false name
  | .innerSegments, marks => (marks.afterSlash name).afterSegments name
  | .byteSet negated ranges, marks => marks.after name (setHas negated ranges)
  | .oneOf branches, marks =>
    if allVoid branches then marks else advanceBranches name branches marks

/-- The places that the branches lead to, those that are empty excepted. -/
def advanceBranches (name : Bytes) : List (List GlobToken) → Marks → Marks
  | [], _ => .nowhere name
  | branch :: branches, marks =>
    if isVoidBranch branch then advanceBranches name branches marks
    else (advanceAll name branch marks).either (advanceBranches name branches marks)

/-- The places that tokens lead to, one after the other. -/
def advanceAll (name : Bytes) : List GlobToken → Marks → Marks
  | [], marks => marks
  | token :: tokens, marks => advanceAll name tokens (advance name token marks)

end

end GlobToken

namespace Glob

/-- Whether the pattern matches a name.  The pattern `**` matches every name. -/
def isMatch (glob : Glob) (name : String) : Bool :=
  match glob.tokens with
  | [.leadingSegments] => true
  | tokens =>
    let name := name.toUTF8.data.toList
    (GlobToken.advanceAll name tokens (.start name)).getLastD false

end Glob

end MultiRelease
