/-!
# Unpacking deflated data

Deflated data are a sequence of bits, the low bits of each byte first, cut into blocks.  A block is
stored as it is, or it is a sequence of symbols of a prefix code: bytes, and references that repeat
a stretch of what was unpacked before.  The codes are fixed, or the block describes them in front.

A position in the data is counted in bits.  Everything that reads takes the position where it starts
and returns the position behind what it read; it fails where the data end too early or where they
are not well formed.  A symbol takes at least one bit, so the number of bits bounds the number of
steps.
-/

set_option autoImplicit false

namespace MultiRelease.Zip

/-! ## Bits -/

/-- The bit at a position. -/
def bitAt? (data : ByteArray) (position : Nat) : Option Bool :=
  (data.data[position / 8]?).map fun byte => byte.toNat.testBit (position % 8)

/-- The number in some bits, the low bit first. -/
def bitsAt? (data : ByteArray) (position : Nat) : Nat → Option Nat
  | 0 => some 0
  | count + 1 => do
    let low ← bitAt? data position
    let high ← bitsAt? data (position + 1) count
    some (low.toNat + 2 * high)

/-! ## Prefix codes -/

/-- A prefix code whose codewords ascend with their lengths and, among equal lengths, with the
symbols. -/
structure PrefixCode where
  /-- How many codewords there are of the lengths 1, 2, 3, … -/
  counts : List Nat
  /-- The symbols in the order of their codewords. -/
  symbols : Array Nat
deriving Inhabited

namespace PrefixCode

/-- The lengths that a codeword may have. -/
def wordLengths : List Nat := (List.range 15).map (· + 1)

/-- The code in which each symbol has a codeword of the given length, or none if that is 0. -/
def ofLengths (lengths : List Nat) : PrefixCode where
  counts := wordLengths.map fun length => lengths.count length
  symbols := (wordLengths.flatMap fun length =>
    (lengths.zipIdx.filter fun entry => entry.1 = length).map (·.2)).toArray

/-- Reads a codeword.  Of the codewords with the length reached, `offset` many precede the bits read
so far, and `skipped` symbols have shorter ones. -/
def symbolFrom (code : PrefixCode) (data : ByteArray) (position offset skipped : Nat) :
    List Nat → Option (Nat × Nat)
  | [] => none
  | count :: counts => do
    let bit ← bitAt? data position
    let offset := 2 * offset + bit.toNat
    if offset < count then
      let symbol ← code.symbols[skipped + offset]?
      some (symbol, position + 1)
    else symbolFrom code data (position + 1) (offset - count) (skipped + count) counts

/-- Reads a symbol. -/
def symbolAt? (code : PrefixCode) (data : ByteArray) (position : Nat) : Option (Nat × Nat) :=
  code.symbolFrom data position 0 0 code.counts

end PrefixCode

/-! ## References -/

/-- The least length that a symbol for a length stands for, and the number of bits to be added to
it. -/
def lengthRange (symbol : Nat) : Nat × Nat :=
  if symbol < 8 then (3 + symbol, 0)
  else if symbol = 28 then (258, 0)
  else
    let extra := symbol / 4 - 1
    (3 + (4 + symbol % 4) <<< extra, extra)

/-- The least distance that a symbol for a distance stands for, and the number of bits to be added
to it. -/
def distanceRange (symbol : Nat) : Nat × Nat :=
  if symbol < 2 then (1 + symbol, 0)
  else
    let extra := symbol / 2 - 1
    (1 + (2 + symbol % 2) <<< extra, extra)

/-- Reads what is to be added to the start of a range. -/
def inRangeAt? (data : ByteArray) (position : Nat) (range : Nat × Nat) : Option (Nat × Nat) :=
  (bitsAt? data position range.2).map fun more => (range.1 + more, position + range.2)

/-- Repeats what was unpacked at a distance, byte by byte, so that it may overlap. -/
def repeatBack (distance : Nat) : Nat → ByteArray → ByteArray
  | 0, unpacked => unpacked
  | length + 1, unpacked =>
    repeatBack distance length
      (unpacked.push ((unpacked.data[unpacked.size - distance]?).getD 0))

/-! ## Blocks -/

/-- The symbol that ends a block. -/
def endOfBlock : Nat := 256

/-- Unpacks a block of symbols with a code for bytes and lengths and one for distances. -/
def unpackSymbols (bytes distances : PrefixCode) (data : ByteArray) :
    Nat → Nat → ByteArray → Option (ByteArray × Nat)
  | 0, _, _ => none
  | steps + 1, position, unpacked => do
    let (symbol, position) ← bytes.symbolAt? data position
    if symbol < endOfBlock then
      unpackSymbols bytes distances data steps position (unpacked.push symbol.toUInt8)
    else if symbol = endOfBlock then some (unpacked, position)
    else
      let (length, position) ← inRangeAt? data position (lengthRange (symbol - endOfBlock - 1))
      let (symbol, position) ← distances.symbolAt? data position
      let (distance, position) ← inRangeAt? data position (distanceRange symbol)
      if unpacked.size < distance then none
      else
        unpackSymbols bytes distances data steps position (repeatBack distance length unpacked)

/-- The fixed code for bytes and lengths. -/
def fixedBytes : PrefixCode :=
  .ofLengths (List.replicate 144 8 ++ List.replicate 112 9 ++ List.replicate 24 7
    ++ List.replicate 8 8)

/-- The fixed code for distances. -/
def fixedDistances : PrefixCode := .ofLengths (List.replicate 30 5)

/-- The order in which a block lists the lengths of the codewords for lengths. -/
def lengthOrder : List Nat := [16, 17, 18, 0, 8, 7, 9, 6, 10, 5, 11, 4, 12, 3, 13, 2, 14, 1, 15]

/-- Reads numbers of three bits. -/
def triplesAt? (data : ByteArray) (position : Nat) : Nat → Option (List Nat)
  | 0 => some []
  | count + 1 => do
    let first ← bitsAt? data position 3
    let others ← triplesAt? data (position + 3) count
    some (first :: others)

/-- Reads the lengths of `wanted` codewords, most of which are written as repetitions.  The lengths
read so far are kept in reverse. -/
def wordLengthsAt? (code : PrefixCode) (data : ByteArray) (wanted : Nat) :
    Nat → Nat → List Nat → Option (List Nat × Nat)
  | 0, _, _ => none
  | steps + 1, position, lengths =>
    if lengths.length = wanted then some (lengths.reverse, position)
    else if wanted < lengths.length then none
    else do
      let (symbol, position) ← code.symbolAt? data position
      if symbol < 16 then wordLengthsAt? code data wanted steps position (symbol :: lengths)
      else
        let (length, range) ←
          if symbol = 16 then lengths.head?.map fun last => (last, 3, 2)
          else if symbol = 17 then some (0, 3, 3)
          else some (0, 11, 7)
        let (count, position) ← inRangeAt? data position range
        wordLengthsAt? code data wanted steps position (List.replicate count length ++ lengths)

/-- Reads the codes that a block describes. -/
def codesAt? (data : ByteArray) (position : Nat) : Option (PrefixCode × PrefixCode × Nat) := do
  let byteCount := (← bitsAt? data position 5) + 257
  let distanceCount := (← bitsAt? data (position + 5) 5) + 1
  let lengthCount := (← bitsAt? data (position + 10) 4) + 4
  let listed := lengthOrder.zip (← triplesAt? data (position + 14) lengthCount)
  let code := PrefixCode.ofLengths ((List.range 19).map fun symbol =>
    ((listed.find? (·.1 = symbol)).map (·.2)).getD 0)
  let wanted := byteCount + distanceCount
  let (lengths, position) ←
    wordLengthsAt? code data wanted (wanted + 1) (position + 14 + 3 * lengthCount) []
  some (.ofLengths (lengths.take byteCount), .ofLengths (lengths.drop byteCount), position)

/-- Unpacks a block that is stored as it is: from the next whole byte on, its length, the complement
of the length, and the bytes. -/
def unpackStored (data : ByteArray) (position : Nat) (unpacked : ByteArray) :
    Option (ByteArray × Nat) := do
  let start := (position + 7) / 8
  let length ← bitsAt? data (8 * start) 16
  let complement ← bitsAt? data (8 * start + 16) 16
  let stop := start + 4 + length
  if length + complement = 65535 ∧ stop ≤ data.size then
    some (unpacked ++ data.extract (start + 4) stop, 8 * stop)
  else none

/-- Unpacks a block of the given kind. -/
def unpackBlock (kind : Nat) (data : ByteArray) (position : Nat) (unpacked : ByteArray) :
    Option (ByteArray × Nat) :=
  let steps := 8 * data.size
  if kind = 0 then unpackStored data position unpacked
  else if kind = 1 then unpackSymbols fixedBytes fixedDistances data steps position unpacked
  else if kind = 2 then do
    let (bytes, distances, position) ← codesAt? data position
    unpackSymbols bytes distances data steps position unpacked
  else none

/-- Unpacks blocks up to the last one. -/
def unpackBlocks (data : ByteArray) : Nat → Nat → ByteArray → Option ByteArray
  | 0, _, _ => none
  | steps + 1, position, unpacked => do
    let last ← bitAt? data position
    let kind ← bitsAt? data (position + 1) 2
    let (unpacked, position) ← unpackBlock kind data (position + 3) unpacked
    if last then some unpacked else unpackBlocks data steps position unpacked

/-- Unpacks deflated data. -/
def unpack? (data : ByteArray) : Option ByteArray :=
  unpackBlocks data (8 * data.size) 0 ByteArray.empty

end MultiRelease.Zip
