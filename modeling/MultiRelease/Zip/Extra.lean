import MultiRelease.Zip.Checksum
import MultiRelease.Zip.Name
import MultiRelease.Zip.Number

/-!
# Extra fields

What the directory of an archive says of an entry can be amended by extra fields: sizes and places
that need more than four bytes, names and comments in UTF-8, times, and the description of an
encryption.  Each field states its kind and its length.

A field that contradicts itself makes the whole archive unusable.  A field that is cut off ends the
list, without harm.
-/

set_option autoImplicit false

namespace MultiRelease.Zip

/-- What the directory says of an entry. -/
structure Description where
  /-- The name as it is stored. -/
  nameBytes : List UInt8
  name : String
  comment : String
  encrypted : Bool
  /-- Whether the encryption is described by an extra field. -/
  encryptionDescribed : Bool := false
  method : Nat
  statedChecksum : Nat
  packedSize : Nat
  /-- The stated size of the data once they are unpacked.  Only the reading of extra fields depends
  on it: data are unpacked to whatever size they have. -/
  size : Nat
  /-- Where the header of the data starts. -/
  header : Nat
deriving Repr, DecidableEq, Inhabited

namespace Description

/-- The method that stands for an encryption, which an extra field has to describe. -/
def encryptionMethod : Nat := 99

/-! ## Wide numbers -/

/-- What stands in four bytes for a number that is stored elsewhere. -/
def elsewhere : Nat := 0xFFFFFFFF

/-- A number that is replaced by one of eight bytes if it has to be, the bytes after it, and how
many bytes it took; none if there are too few. -/
def widened? (always : Bool) (number : Nat) (bytes : List UInt8) :
    Option (Nat × List UInt8 × Nat) :=
  if always || number = elsewhere then
    if bytes.length < 8 then none
    else some (numberOfBytes (bytes.take 8), bytes.drop 8, 8)
  else some (number, bytes, 0)

/-- The field with the sizes and the place of the data in eight bytes each. -/
def applyWide (entry : Description) (length : Nat) (bytes : List UInt8) :
    Option (Description × List UInt8) :=
  let all : Bool := 24 ≤ length
  match widened? all entry.size bytes with
  | none => some (entry, [])
  | some (size, bytes, first) =>
    let entry := { entry with size }
    match widened? all entry.packedSize bytes with
    | none => some (entry, [])
    | some (packedSize, bytes, second) =>
      let entry := { entry with packedSize }
      match widened? all entry.header bytes with
      | none => some (entry, [])
      | some (header, bytes, third) =>
        let taken := first + second + third
        if length < taken then none
        else some ({ entry with header }, bytes.drop (length - taken))

/-! ## Texts -/

/-- The text of a field that replaces another text, and the bytes after the field.  The field states
the checksum of the text that it replaces. -/
def replacingText? (old : List UInt8) (length : Nat) (bytes : List UInt8) :
    Option (Option (String × List UInt8)) :=
  if bytes.length < 5 then some none
  else if length < 5 then none
  else if bytes.length < length then some none
  else if numberOfBytes ((bytes.drop 1).take 4) = (checksum ⟨old.toArray⟩).toNat then
    (String.fromUTF8? ⟨((bytes.take length).drop 5).toArray⟩).map fun text =>
      some (text, bytes.drop length)
  else none

/-- The field with the name in UTF-8. -/
def applyName (entry : Description) (length : Nat) (bytes : List UInt8) :
    Option (Description × List UInt8) :=
  (replacingText? entry.nameBytes length bytes).map fun
    | some (name, rest) => ({ entry with name, nameBytes := name.toUTF8.data.toList }, rest)
    | none => (entry, [])

/-- The field with the comment in UTF-8. -/
def applyComment (entry : Description) (length : Nat) (bytes : List UInt8) :
    Option (Description × List UInt8) :=
  (replacingText? entry.comment.toUTF8.data.toList length bytes).map fun
    | some (comment, rest) => ({ entry with comment }, rest)
    | none => (entry, [])

/-! ## Times and encryption -/

/-- The field with three times in a block of fixed form. -/
def applyTimes (entry : Description) (length : Nat) (bytes : List UInt8) :
    Option (Description × List UInt8) :=
  let block := bytes.drop 4
  if length ≠ 32 then none
  else if 2 ≤ block.length ∧ numberOfBytes (block.take 2) ≠ 1 then none
  else if 4 ≤ block.length ∧ numberOfBytes ((block.drop 2).take 2) ≠ 24 then none
  else some (entry, bytes.drop 32)

/-- The field with up to three times, and a byte whose bits tell which of them are present. -/
def applyTimestamps (entry : Description) (length : Nat) (bytes : List UInt8) :
    Option (Description × List UInt8) :=
  match bytes with
  | [] => some (entry, [])
  | flags :: rest =>
    let present (bit : Nat) : Bool := flags.toNat.testBit bit
    if length = 5 then some (entry, rest.drop 4)
    else if length = 1 + 4 * ((List.range 8).filter present).length then
      some (entry, rest.drop (4 * ((List.range 3).filter present).length))
    else none

/-- The field with the vendor, the strength and the method of an encryption. -/
def applyEncryption (entry : Description) (length : Nat) (bytes : List UInt8) :
    Option (Description × List UInt8) :=
  let version := numberOfBytes (bytes.take 2)
  let vendor := numberOfBytes ((bytes.drop 2).take 2)
  let strength := numberOfBytes ((bytes.drop 4).take 1)
  if length ≠ 7 then none
  else if bytes.length < 7 then some (entry, [])
  else if vendor = 0x4541 ∧ (version = 1 ∨ version = 2) ∧ 1 ≤ strength ∧ strength ≤ 3 then
    some (
      { entry with
        encryptionDescribed := true
        method := numberOfBytes ((bytes.drop 5).take 2) },
      bytes.drop 7)
  else none

/-! ## All fields -/

/-- What a field of the given kind says of an entry, and the bytes after it. -/
def applyField (entry : Description) (kind length : Nat) (bytes : List UInt8) :
    Option (Description × List UInt8) :=
  if kind = 0x0001 then entry.applyWide length bytes
  else if kind = 0x000A then entry.applyTimes length bytes
  else if kind = 0x5455 then entry.applyTimestamps length bytes
  else if kind = 0x6375 then entry.applyComment length bytes
  else if kind = 0x7075 then entry.applyName length bytes
  else if kind = 0x9901 then entry.applyEncryption length bytes
  else some (entry, bytes.drop length)

/-- What some fields say of an entry; `count` bounds their number. -/
def applyFields (count : Nat) (entry : Description) (bytes : List UInt8) : Option Description :=
  match count, bytes with
  | count + 1, kindLow :: kindHigh :: lengthLow :: lengthHigh :: rest => do
    let kind := numberOfBytes [kindLow, kindHigh]
    let length := numberOfBytes [lengthLow, lengthHigh]
    let (entry, rest) ← entry.applyField kind length rest
    applyFields count entry rest
  | _, _ => some entry

/-- What the extra fields say of an entry.  Each takes at least four bytes. -/
def withExtra? (entry : Description) (bytes : List UInt8) : Option Description := do
  let amended ← applyFields bytes.length entry bytes
  if amended.method = encryptionMethod ∧ ¬amended.encryptionDescribed then none else some amended

end Description

end MultiRelease.Zip
