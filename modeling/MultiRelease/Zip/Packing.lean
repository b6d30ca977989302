import MultiRelease.Zip.Archive

/-!
# Packing archives

Makes the bytes of an archive from its entries: the entries with a header each, the directory, and
the record at the end.  Data are deflated in the plainest way, as blocks that are stored as they
are, so no search for repetitions is needed to read them back.
-/

set_option autoImplicit false

namespace MultiRelease

/-- What goes into an archive under a name. -/
structure NewEntry where
  name : String
  data : ByteArray
  method : Nat := PackedData.deflated
  /-- The checksum that the directory states. -/
  statedChecksum : Nat := (Zip.checksum data).toNat
deriving Inhabited

namespace Zip

/-! ## Deflating -/

/-- The most bytes that a stored block takes. -/
def maxBlock : Nat := 65535

/-- A block with the given bytes. -/
def storedBlock (isLast : Bool) (bytes : List UInt8) : List UInt8 :=
  isLast.toUInt8 ::
    (bytesOfNumber 2 bytes.length ++ bytesOfNumber 2 (maxBlock - bytes.length) ++ bytes)

/-- The blocks for some bytes; `count` more than the last one are needed. -/
def storedBlocks : Nat → List UInt8 → List UInt8
  | 0, bytes => storedBlock true bytes
  | count + 1, bytes =>
    storedBlock false (bytes.take maxBlock) ++ storedBlocks count (bytes.drop maxBlock)

/-- The data as a sequence of stored blocks. -/
def deflate (data : ByteArray) : List UInt8 :=
  storedBlocks (data.size / maxBlock) data.data.toList

end Zip

namespace NewEntry

open Zip

/-- The data in their packed form. -/
def packed (entry : NewEntry) : List UInt8 :=
  if entry.method = PackedData.deflated then deflate entry.data else entry.data.data.toList

/-- The bytes of the name. -/
def nameBytes (entry : NewEntry) : List UInt8 := entry.name.toUTF8.data.toList

/-- What the header and the directory both say: the version that is needed, the flags, the method,
the time, the checksum, and the sizes of the packed data, of the data, and of the name.  There are
no extra fields. -/
def summary (entry : NewEntry) : List UInt8 :=
  let isAscii := entry.nameBytes.length = entry.name.length
  bytesOfNumber 2 20
    ++ bytesOfNumber 2 (if isAscii then 0 else 0x0800)
    ++ bytesOfNumber 2 entry.method
    ++ bytesOfNumber 4 0x00210000
    ++ bytesOfNumber 4 entry.statedChecksum
    ++ bytesOfNumber 4 entry.packed.length
    ++ bytesOfNumber 4 entry.data.size
    ++ bytesOfNumber 2 entry.nameBytes.length
    ++ bytesOfNumber 2 0

/-- The header of the entry and its data. -/
def body (entry : NewEntry) : List UInt8 :=
  bytesOfNumber 4 localMark ++ entry.summary ++ entry.nameBytes ++ entry.packed

/-- The entry of the directory for a body at the given place. -/
def listing (entry : NewEntry) (place : Nat) : List UInt8 :=
  bytesOfNumber 4 directoryMark ++ bytesOfNumber 2 20 ++ entry.summary
    ++ bytesOfNumber 10 0 ++ bytesOfNumber 4 place ++ entry.nameBytes

/-- The bodies of some entries and their entries of the directory, from a place on. -/
def layOut (place : Nat) : List NewEntry → List UInt8 × List UInt8
  | [] => ([], [])
  | entry :: others =>
    let body := entry.body
    let (bodies, listings) := layOut (place + body.length) others
    (body ++ bodies, entry.listing place ++ listings)

end NewEntry

namespace Archive

open Zip

/-- The bytes of the archive with the given entries. -/
def pack (entries : List NewEntry) : ByteArray :=
  let (bodies, listings) := NewEntry.layOut 0 entries
  let record := bytesOfNumber 4 endMark ++ bytesOfNumber 4 0
    ++ bytesOfNumber 2 entries.length ++ bytesOfNumber 2 entries.length
    ++ bytesOfNumber 4 listings.length ++ bytesOfNumber 4 bodies.length ++ bytesOfNumber 2 0
  ⟨(bodies ++ listings ++ record).toArray⟩

end Archive

end MultiRelease
