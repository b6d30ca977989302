/-!
# Cutting text at a character

Qualified names and paths are made of segments between dots or slashes.  These functions cut a text
into its segments, cut off the last one, and take a known ending off.  They are defined on lists of
characters, where a cut is a case distinction, and carried over to texts.
-/

set_option autoImplicit false

namespace MultiRelease.Text

/-- The segments between the occurrences of a separator; never empty. -/
def segmentsAt (separator : Char) : List Char → List (List Char)
  | [] => [[]]
  | c :: rest =>
    if c = separator then [] :: segmentsAt separator rest
    else
      match segmentsAt separator rest with
      | [] => [[c]]
      | segment :: others => (c :: segment) :: others

/-- What stands before and after the last occurrence of a separator. -/
def cutAtLast (separator : Char) : List Char → Option (List Char × List Char)
  | [] => none
  | c :: rest =>
    match cutAtLast separator rest with
    | some (front, back) => some (c :: front, back)
    | none => if c = separator then some ([], rest) else none

/-- The segments of a text. -/
def segments (separator : Char) (text : String) : List String :=
  (segmentsAt separator text.toList).map String.ofList

/-- What stands before and after the last separator of a text. -/
def cutLast (separator : Char) (text : String) : Option (String × String) :=
  (cutAtLast separator text.toList).map fun (front, back) =>
    (String.ofList front, String.ofList back)

/-- The text without the given ending, if it has that ending. -/
def withoutSuffix? (ending text : String) : Option String :=
  (ending.toList.isSuffixOf? text.toList).map String.ofList

/-- The text without the given beginning, if it has that beginning. -/
def withoutPrefix? (beginning text : String) : Option String :=
  (beginning.toList.isPrefixOf? text.toList).map String.ofList

/-- Whether a text ends in the given ending. -/
def hasSuffix (ending text : String) : Bool := ending.toList.isSuffixOf text.toList

/-- Whether a text starts with the given beginning. -/
def hasPrefix (beginning text : String) : Bool := beginning.toList.isPrefixOf text.toList

/-- The text with every occurrence of one character replaced by another. -/
def replaceChar (old new : Char) (text : String) : String :=
  String.ofList (text.toList.map fun c => if c = old then new else c)

end MultiRelease.Text
