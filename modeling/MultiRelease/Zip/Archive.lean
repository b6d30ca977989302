import MultiRelease.Zip.Deflate
import MultiRelease.Zip.Extra

/-!
# Zip archives

An archive ends with a directory of its entries and, behind that, a record that says where the
directory is.  What stands in front of the entries is no part of the archive; all places inside it
are counted from its *origin*.

* The record is looked for from the end, since a comment may follow it (`Archive.upTo`).  Whatever
  looks like a record and does not lead to a directory is passed over.
* The directory starts at the first mark of a directory entry at or behind the place that the record
  states, so that something in front of the archive only shifts it (`directory32?`).  Directories
  that need wide numbers have a second record, which a locator in front of the first one points to
  (`directory64?`).
* Every entry of the directory has to lead to a header in front of the directory
  (`describedEntry?`).  One entry that does not makes the archive unusable.

The data of an entry are only looked at when they are asked for (`PackedData.read`).  They can be
read if they are stored or deflated, and they count as damaged if they do not have the checksum that
the directory states.
-/

set_option autoImplicit false

namespace MultiRelease

/-- Where and how the data of an entry are packed. -/
structure PackedData where
  encrypted : Bool
  method : Nat
  statedChecksum : Nat
  start : Nat
  size : Nat
deriving Repr, DecidableEq, Inhabited

/-- An entry of an archive under the name stored there. -/
structure ArchiveEntry where
  name : String
  packed : PackedData
deriving Repr, DecidableEq, Inhabited

/-- The entries of an archive, in the order of its directory. -/
structure Archive where
  entries : List ArchiveEntry
deriving Repr, DecidableEq, Inhabited

/-- Why the data of an entry cannot be had. -/
inductive EntryFault where
  /-- They are packed in a way that cannot be read. -/
  | unsupported
  | damaged
deriving Repr, DecidableEq

/-- The entry that is stored under exactly the given name; of several the last one counts. -/
def Archive.entry? (archive : Archive) (name : String) : Option ArchiveEntry :=
  archive.entries.findRev? (·.name = name)

open Zip

/-! ## Data -/

namespace PackedData

/-- The method of data that are stored as they are. -/
def stored : Nat := 0

/-- The method of deflated data. -/
def deflated : Nat := 8

/-- What the data unpack to, from the bytes of the archive.  Data that go on behind the end of the
archive end there. -/
def unpacked (packed : PackedData) (bytes : ByteArray) : Except EntryFault ByteArray :=
  let stretch := bytes.extract packed.start (packed.start + packed.size)
  if packed.encrypted then .error .unsupported
  else if packed.method = stored then .ok stretch
  else if packed.method = deflated then
    match unpack? stretch with
    | some data => .ok data
    | none => .error .damaged
  else .error .unsupported

/-- The data of an entry, if they have the checksum that is stated. -/
def read (packed : PackedData) (bytes : ByteArray) : Except EntryFault ByteArray :=
  match packed.unpacked bytes with
  | .ok data =>
    if (checksum data).toNat = packed.statedChecksum then .ok data else .error .damaged
  | .error fault => .error fault

end PackedData

namespace Zip

/-! ## Marks -/

/-- The mark in front of the data of an entry. -/
def localMark : Nat := 0x04034B50

/-- The mark in front of an entry of the directory. -/
def directoryMark : Nat := 0x02014B50

/-- The mark in front of the record at the end. -/
def endMark : Nat := 0x06054B50

/-- The mark in front of the second record. -/
def wideEndMark : Nat := 0x06064B50

/-- The mark in front of the locator of the second record. -/
def locatorMark : Nat := 0x07064B50

/-- Whether a mark stands at a place. -/
def hasMark (data : ByteArray) (mark place : Nat) : Bool := numberAt? data place 4 = some mark

/-- The first place with a mark among some places in a row. -/
def firstMark? (data : ByteArray) (mark : Nat) (place : Nat) : Nat → Option Nat
  | 0 => none
  | count + 1 =>
    if hasMark data mark place then some place else firstMark? data mark (place + 1) count

/-! ## The directory -/

/-- Where a directory is, and what it counts its places from. -/
structure Directory where
  origin : Nat
  start : Nat
  count : Nat
deriving Repr, DecidableEq, Inhabited

/-- The length of the header of an entry without its texts. -/
def headerSize : Nat := 30

/-- Where the data behind a header start. -/
def dataStart? (data : ByteArray) (header : Nat) : Option Nat := do
  let nameSize ← numberAt? data (header + 26) 2
  let extraSize ← numberAt? data (header + 28) 2
  if hasMark data localMark header then some (header + headerSize + nameSize + extraSize) else none

/-- The entry with the given description, if it lies in front of the directory. -/
def describedEntry? (data : ByteArray) (directory : Directory) (described : Description) :
    Option ArchiveEntry := do
  let header := described.header + directory.origin
  let start ← dataStart? data header
  if header < directory.start ∧ start ≤ directory.start then
    some {
      name := described.name
      packed := {
        encrypted := described.encrypted || described.encryptionDescribed
        method := described.method
        statedChecksum := described.statedChecksum
        start
        size := described.packedSize } }
  else none

/-- The entry that the directory lists at a place, and the place of the next one. -/
def entryAt? (data : ByteArray) (directory : Directory) (place : Nat) :
    Option (ArchiveEntry × Nat) := do
  let flags ← numberAt? data (place + 8) 2
  let method ← numberAt? data (place + 10) 2
  let statedChecksum ← numberAt? data (place + 16) 4
  let packedSize ← numberAt? data (place + 20) 4
  let size ← numberAt? data (place + 24) 4
  let nameSize ← numberAt? data (place + 28) 2
  let extraSize ← numberAt? data (place + 30) 2
  let commentSize ← numberAt? data (place + 32) 2
  let header ← numberAt? data (place + 42) 4
  let nameBytes ← bytesAt? data (place + 46) nameSize
  let extra ← bytesAt? data (place + 46 + nameSize) extraSize
  let comment ← bytesAt? data (place + 46 + nameSize + extraSize) commentSize
  let isUtf8 := flags.testBit 11
  let plain : Description :=
    { nameBytes, method, statedChecksum, packedSize, size, header
      name := textOfBytes isUtf8 nameBytes
      comment := textOfBytes isUtf8 comment
      encrypted := flags.testBit 0 }
  if hasMark data directoryMark place then
    let entry ← describedEntry? data directory (← plain.withExtra? extra)
    some (entry, place + 46 + nameSize + extraSize + commentSize)
  else none

/-- Some entries of the directory, from a place on. -/
def entriesAt? (data : ByteArray) (directory : Directory) (place : Nat) :
    Nat → Option (List ArchiveEntry)
  | 0 => some []
  | count + 1 => do
    let (entry, place) ← entryAt? data directory place
    let entries ← entriesAt? data directory place count
    some (entry :: entries)

/-! ## The records at the end -/

/-- The record at the end. -/
structure EndRecord where
  place : Nat
  disk : Nat
  directoryDisk : Nat
  /-- The number of entries on this disk, and on all disks. -/
  countHere : Nat
  count : Nat
  directory : Nat
deriving Repr, DecidableEq, Inhabited

/-- The record at a place, if the comment that it states is there. -/
def endRecordAt? (data : ByteArray) (place : Nat) : Option EndRecord := do
  let disk ← numberAt? data (place + 4) 2
  let directoryDisk ← numberAt? data (place + 6) 2
  let countHere ← numberAt? data (place + 8) 2
  let count ← numberAt? data (place + 10) 2
  let directory ← numberAt? data (place + 16) 4
  let commentSize ← numberAt? data (place + 20) 2
  if place + 22 + commentSize ≤ data.size then
    some { place, disk, directoryDisk, countHere, count, directory }
  else none

/-- The directory of a record that states an offset of four bytes. -/
def directory32? (data : ByteArray) (record : EndRecord) : Option Directory :=
  if record.disk ≠ record.directoryDisk then none
  else if record.count = 0 then
    let origin := record.place - record.directory
    some { origin, start := record.directory + origin, count := record.countHere }
  else
    (firstMark? data directoryMark record.directory (record.place - record.directory)).map
      fun start => { origin := start - record.directory, start, count := record.countHere }

/-- What points to the second record. -/
structure Locator where
  place : Nat
  directoryDisk : Nat
  record : Nat
  disks : Nat
deriving Repr, DecidableEq, Inhabited

/-- The locator in front of a record, if there can be one. -/
def locator? (data : ByteArray) (record : EndRecord) : Option Locator := do
  let place := record.place - 20
  let directoryDisk ← numberAt? data (place + 4) 4
  let wideRecord ← numberAt? data (place + 8) 8
  let disks ← numberAt? data (place + 16) 4
  if (record.count = 0xFFFF ∨ record.directory = Description.elsewhere) ∧ 20 ≤ record.place
      ∧ hasMark data locatorMark place then
    some { place, directoryDisk, record := wideRecord, disks }
  else none

/-- The directory of the second record, if that stands at a place. -/
def wideDirectoryAt? (data : ByteArray) (locator : Locator) (place : Nat) :
    Option Directory := do
  let size ← numberAt? data (place + 4) 8
  let madeBy ← numberAt? data (place + 12) 2
  let needed ← numberAt? data (place + 14) 2
  let disk ← numberAt? data (place + 16) 4
  let directoryDisk ← numberAt? data (place + 20) 4
  let countHere ← numberAt? data (place + 24) 8
  let count ← numberAt? data (place + 32) 8
  let directory ← numberAt? data (place + 48) 8
  let origin := place - locator.record
  if hasMark data wideEndMark place ∧ 44 ≤ size ∧ place + size + 12 = locator.place
      ∧ directoryDisk = locator.directoryDisk ∧ disk = directoryDisk
      ∧ count * 46 + directory ≤ place ∧ countHere ≤ count ∧ needed ≤ madeBy then
    some { origin, start := directory + origin, count }
  else none

/-- The directory of the second record, which is the first one that fits where the locator points
to or behind. -/
def directory64? (data : ByteArray) (locator : Locator) : Option Directory :=
  if 1 < locator.disks then none
  else
    (List.range (locator.place - locator.record)).findSome? fun distance =>
      wideDirectoryAt? data locator (locator.record + distance)

/-- The directory that a record leads to. -/
def directory? (data : ByteArray) (record : EndRecord) : Option Directory :=
  match locator? data record with
  | some locator => directory64? data locator
  | none => directory32? data record

/-- The archive whose record stands at a place. -/
def archiveAt? (data : ByteArray) (place : Nat) : Option Archive := do
  let record ← endRecordAt? data place
  let directory ← directory? data record
  let entries ← entriesAt? data directory directory.start directory.count
  some ⟨entries⟩

end Zip

namespace Archive

/-- The archive with the last record in front of a place that leads to one. -/
def upTo (data : ByteArray) : Nat → Option Archive
  | 0 => none
  | place + 1 =>
    if hasMark data endMark place then
      match archiveAt? data place with
      | some archive => some archive
      | none => upTo data place
    else upTo data place

/-- The archive that some data form, if they form one. -/
def ofBytes? (data : ByteArray) : Option Archive := upTo data data.size

end Archive

end MultiRelease
