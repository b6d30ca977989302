/-!
# Text in constant pools

A text constant is stored in modified UTF-8: a NUL takes the two bytes `C0 80`, and a character
beyond the basic plane is written as its two UTF-16 surrogates of three bytes each.  Bytes that are
plain UTF-8 are taken as such; only otherwise are they read as a sequence of UTF-16 units of one to
three bytes, which must pair up to characters.
-/

set_option autoImplicit false

namespace MultiRelease.ClassFile

/-- The text that the bytes encode in UTF-8, if they do. -/
def plainText? (bytes : List UInt8) : Option String := String.fromUTF8? ⟨bytes.toArray⟩

/-- The unit that a lead byte and one more byte make. -/
def unitOfTwo (lead next : UInt8) : UInt16 :=
  ((lead &&& 0x1F).toUInt16 <<< 6) ||| (next &&& 0x3F).toUInt16

/-- The unit that a lead byte and two more bytes make. -/
def unitOfThree (lead second third : UInt8) : UInt16 :=
  ((lead &&& 0x0F).toUInt16 <<< 12) ||| ((second &&& 0x3F).toUInt16 <<< 6)
    ||| (third &&& 0x3F).toUInt16

/-- The UTF-16 units that the bytes spell out, the width of each given by its lead byte. -/
def units? : List UInt8 → Option (List UInt16)
  | [] => some []
  | lead :: rest =>
    if lead &&& 0x80 = 0 then (units? rest).map (lead.toUInt16 :: ·)
    else if lead &&& 0xE0 = 0xC0 then
      match rest with
      | next :: rest => (units? rest).map (unitOfTwo lead next :: ·)
      | [] => none
    else if lead &&& 0xF0 = 0xE0 then
      match rest with
      | second :: third :: rest => (units? rest).map (unitOfThree lead second third :: ·)
      | _ => none
    else none

/-- Whether a unit is the first half of a surrogate pair. -/
def isHighSurrogate (unit : UInt16) : Bool := 0xD800 ≤ unit && unit < 0xDC00

/-- Whether a unit is the second half of a surrogate pair. -/
def isLowSurrogate (unit : UInt16) : Bool := 0xDC00 ≤ unit && unit < 0xE000

/-- The character that a surrogate pair stands for. -/
def pairedChar (high low : UInt16) : Char :=
  Char.ofNat (0x10000 + (high.toNat - 0xD800) * 0x400 + (low.toNat - 0xDC00))

/-- The characters that UTF-16 units encode; every surrogate has to be paired. -/
def charsOfUnits? : List UInt16 → Option (List Char)
  | [] => some []
  | unit :: rest =>
    if isHighSurrogate unit then
      match rest with
      | low :: rest =>
        if isLowSurrogate low then (charsOfUnits? rest).map (pairedChar unit low :: ·) else none
      | [] => none
    else if isLowSurrogate unit then none
    else (charsOfUnits? rest).map (Char.ofNat unit.toNat :: ·)

/-- The text of a constant. -/
def decodeText? (bytes : List UInt8) : Option String :=
  match plainText? bytes with
  | some text => some text
  | none => ((units? bytes).bind charsOfUnits?).map String.ofList

end MultiRelease.ClassFile
