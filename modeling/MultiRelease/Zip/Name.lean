/-!
# Names in archives

The texts of an archive are bytes.  A flag says that they are UTF-8; without it they are in the old
code page of the format, which gives every byte a character.

Bytes that are not UTF-8 although they should be are replaced: each longest stretch that could have
become a character, or else each byte, by one replacement character.
-/

set_option autoImplicit false

namespace MultiRelease.Zip

/-! ## UTF-8 -/

/-- The character for what cannot be read. -/
def replacement : Char := '\ufffd'

/-- A character that has been read in part. -/
structure PartialChar where
  /-- The bits so far. -/
  value : Nat
  /-- The number of bytes that are still to come. -/
  missing : Nat
  /-- The least value of the next byte. -/
  low : UInt8 := 0x80
  /-- The greatest value of the next byte. -/
  high : UInt8 := 0xBF
deriving Repr, DecidableEq, Inhabited

/-- What the first byte of several begins.  Some of them restrict the second byte, so that no
character has two forms and no surrogate has any. -/
def PartialChar.ofLead? (b : UInt8) : Option PartialChar :=
  if 0xC2 ≤ b ∧ b ≤ 0xDF then some { value := b.toNat % 32, missing := 1 }
  else if b = 0xE0 then some { value := 0, missing := 2, low := 0xA0 }
  else if b = 0xED then some { value := 13, missing := 2, high := 0x9F }
  else if 0xE1 ≤ b ∧ b ≤ 0xEF then some { value := b.toNat % 16, missing := 2 }
  else if b = 0xF0 then some { value := 0, missing := 3, low := 0x90 }
  else if b = 0xF4 then some { value := 4, missing := 3, high := 0x8F }
  else if 0xF1 ≤ b ∧ b ≤ 0xF3 then some { value := b.toNat % 8, missing := 3 }
  else none

/-- What a byte says where a character starts: the characters that are complete, and the one that is
not. -/
def startChar (b : UInt8) : List Char × Option PartialChar :=
  if b < 0x80 then ([Char.ofNat b.toNat], none)
  else
    match PartialChar.ofLead? b with
    | some next => ([], some next)
    | none => ([replacement], none)

/-- What a byte says behind a character that has been read in part. -/
def continueChar (begun : PartialChar) (b : UInt8) : List Char × Option PartialChar :=
  if begun.low ≤ b ∧ b ≤ begun.high then
    let value := begun.value * 64 + b.toNat % 64
    if begun.missing ≤ 1 then ([Char.ofNat value], none)
    else ([], some { value, missing := begun.missing - 1 })
  else
    let (chars, next) := startChar b
    (replacement :: chars, next)

/-- The characters of bytes, with one that may have been read in part in front of them. -/
def charsFrom : Option PartialChar → List UInt8 → List Char
  | none, [] => []
  | some _, [] => [replacement]
  | begun, b :: rest =>
    let (chars, next) := match begun with
      | none => startChar b
      | some begun => continueChar begun b
    chars ++ charsFrom next rest

/-! ## The code page -/

/-- The characters of the bytes outside of ASCII. -/
def codePage : List Char :=
  ("ÇüéâäàåçêëèïîìÄÅÉæÆôöòûùÿÖÜ¢£¥₧ƒáíóúñÑªº¿⌐¬" ++
    "½¼¡«»░▒▓│┤╡╢╖╕╣║╗╝╜╛┐└┴┬├─┼╞╟╚╔╩╦╠═╬╧╨╤╥╙╘╒" ++
    "╓╫╪┘┌█▄▌▐▀αßΓπΣσµτΦΘΩδ∞φε∩≡±≥≤⌠⌡÷≈°∙·√ⁿ²■\u00a0").toList

/-- The character of a byte. -/
def codePageChar (b : UInt8) : Char :=
  if b < 0x80 then Char.ofNat b.toNat else codePage.getD (b.toNat - 0x80) replacement

/-! ## Names -/

/-- The text that bytes stand for. -/
def textOfBytes (isUtf8 : Bool) (bytes : List UInt8) : String :=
  String.ofList (if isUtf8 then charsFrom none bytes else bytes.map codePageChar)

end MultiRelease.Zip
