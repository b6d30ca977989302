/-!
# Numbers in archives

Numbers are stored in a fixed number of bytes, the low ones first.
-/

set_option autoImplicit false

namespace MultiRelease.Zip

/-- The number that some bytes make. -/
def numberOfBytes (bytes : List UInt8) : Nat :=
  bytes.foldr (fun b high => b.toNat + 256 * high) 0

/-- The bytes of a number; what does not fit is dropped. -/
def bytesOfNumber : Nat → Nat → List UInt8
  | 0, _ => []
  | count + 1, number => number.toUInt8 :: bytesOfNumber count (number / 256)

/-- Some bytes of the data, if there are that many. -/
def bytesAt? (data : ByteArray) (start count : Nat) : Option (List UInt8) :=
  if start + count ≤ data.size then some (data.extract start (start + count)).data.toList else none

/-- The number in some bytes of the data. -/
def numberAt? (data : ByteArray) (start count : Nat) : Option Nat :=
  (bytesAt? data start count).map numberOfBytes

end MultiRelease.Zip
