/-!
# Checksums

The checksum of zip archives: the remainder of the data, read as a polynomial over two elements with
the low bits first, modulo a fixed polynomial of degree 32, complemented at the start and at the
end.
-/

set_option autoImplicit false

namespace MultiRelease.Zip

/-- The polynomial of the checksum without its leading term, low powers in the high bits. -/
def checksumPolynomial : UInt32 := 0xEDB88320

/-- Divides the remainder by one more power. -/
def shiftRemainder (remainder : UInt32) : UInt32 :=
  if remainder &&& 1 = 1 then (remainder >>> 1) ^^^ checksumPolynomial else remainder >>> 1

/-- Takes one byte into the remainder. -/
def addByte (remainder : UInt32) (byte : UInt8) : UInt32 :=
  (List.range 8).foldl (fun r _ => shiftRemainder r) (remainder ^^^ byte.toUInt32)

/-- The checksum of some data. -/
def checksum (data : ByteArray) : UInt32 := ~~~(data.data.foldl addByte (~~~0))

end MultiRelease.Zip
