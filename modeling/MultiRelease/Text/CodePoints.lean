/-!
# Sets of code points

A set of code points is written as an ascending list of closed ranges.  The character classes of
this library (`Text.Blank`, `Text.Letter`, `Text.Hidden`) are such lists, and membership is one scan
that stops at the first range beyond the character.
-/

set_option autoImplicit false

namespace MultiRelease.Text

/-- An ascending list of closed ranges of code points. -/
abbrev CodePoints := List (Nat × Nat)

namespace CodePoints

/-- Whether a code point lies in one of the ranges.  The ranges ascend, so one that starts beyond
the code point ends the scan. -/
def covers : CodePoints → Nat → Bool
  | [], _ => false
  | (low, high) :: rest, n => if n < low then false else n ≤ high || covers rest n

/-- Whether a character lies in one of the ranges. -/
def has (ranges : CodePoints) (c : Char) : Bool := ranges.covers c.toNat

end CodePoints

end MultiRelease.Text
