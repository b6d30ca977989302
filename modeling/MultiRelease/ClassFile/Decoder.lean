import MultiRelease.ClassFile.Error

/-!
# Decoding bytes from the front

A decoder takes a value off the front of a list of bytes.  Numbers are stored with their high byte
first.  Running out of bytes is the only way in which the functions of this file fail.
-/

set_option autoImplicit false

namespace MultiRelease.ClassFile

/-- Takes a value off the front of the bytes, or fails. -/
abbrev Decoder := StateT (List UInt8) (Except ClassFileError)

namespace Decoder

/-- One byte. -/
def u1 : Decoder UInt8 := fun
  | b :: rest => .ok (b, rest)
  | [] => .error .unexpectedEnd

/-- A number of two bytes. -/
def u2 : Decoder UInt16 := fun
  | b₁ :: b₀ :: rest => .ok ((b₁.toUInt16 <<< 8) ||| b₀.toUInt16, rest)
  | _ => .error .unexpectedEnd

/-- A number of four bytes. -/
def u4 : Decoder UInt32 := fun
  | b₃ :: b₂ :: b₁ :: b₀ :: rest =>
    .ok ((b₃.toUInt32 <<< 24) ||| (b₂.toUInt32 <<< 16) ||| (b₁.toUInt32 <<< 8) ||| b₀.toUInt32,
      rest)
  | _ => .error .unexpectedEnd

/-- The given number of bytes. -/
def bytes (count : Nat) : Decoder (List UInt8) := fun input =>
  let front := input.take count
  if front.length = count then .ok (front, input.drop count) else .error .unexpectedEnd

/-- Runs a decoder a number of times. -/
def times {α : Type} : Nat → Decoder α → Decoder (List α)
  | 0, _ => pure []
  | n + 1, decoder => do
    let first ← decoder
    let others ← times n decoder
    pure (first :: others)

/-- A list that is preceded by its length in two bytes. -/
def counted {α : Type} (decoder : Decoder α) : Decoder (List α) := do
  let count ← u2
  times count.toNat decoder

/-- The value at the front of the input; the bytes after it do not matter. -/
def run {α : Type} (decoder : Decoder α) (input : List UInt8) : Except ClassFileError α :=
  (StateT.run decoder input).map Prod.fst

end Decoder

end MultiRelease.ClassFile
