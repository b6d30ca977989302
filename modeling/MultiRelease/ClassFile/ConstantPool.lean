import MultiRelease.ClassFile.Decoder
import MultiRelease.ClassFile.Utf8

/-!
# Constant pools

The table at the head of a class file, to which everything else refers by index.  Only texts and
the three kinds of named reference are kept; the other kinds are skipped by their width.  Slot 0
holds nothing, and a long or double takes two slots, of which neither can be referred to.
-/

set_option autoImplicit false

namespace MultiRelease.ClassFile

/-- What a slot of the pool holds. -/
inductive Constant where
  | text (value : String)
  | classRef (name : UInt16)
  | moduleRef (name : UInt16)
  | packageRef (name : UInt16)
  | ignored
  | unusable
deriving Repr, DecidableEq, Inhabited

/-- The slots of a class file, slot 0 included. -/
structure ConstantPool where
  slots : List Constant
deriving Repr, Inhabited

namespace ConstantPool

/-- What stands at an index. -/
def slot (pool : ConstantPool) (index : UInt16) : Except ClassFileError Constant :=
  match pool.slots[index.toNat]? with
  | some constant => .ok constant
  | none => .error (.invalidConstantIndex index)

/-- The text at an index. -/
def text (pool : ConstantPool) (index : UInt16) : Except ClassFileError String :=
  match pool.slot index with
  | .ok (.text value) => .ok value
  | _ => .error (.invalidConstantIndex index)

/-- The name of the class that a slot refers to. -/
def className (pool : ConstantPool) (index : UInt16) : Except ClassFileError String :=
  match pool.slot index with
  | .ok (.classRef name) => pool.text name
  | _ => .error (.invalidConstantIndex index)

/-- The name of a class, where index 0 stands for none. -/
def className? (pool : ConstantPool) (index : UInt16) : Except ClassFileError (Option String) :=
  if index = 0 then .ok none else (pool.className index).map some

/-- The name of the package that a slot refers to; a class reference will do. -/
def packageName (pool : ConstantPool) (index : UInt16) : Except ClassFileError String :=
  match pool.slot index with
  | .ok (.packageRef name) => pool.text name
  | .ok (.classRef name) => pool.text name
  | _ => .error (.invalidConstantIndex index)

/-- The name of the module that a slot refers to. -/
def moduleName (pool : ConstantPool) (index : UInt16) : Except ClassFileError String :=
  match pool.slot index with
  | .ok (.moduleRef name) => pool.text name
  | _ => .error (.invalidConstantIndex index)

end ConstantPool

/-! ## Decoding -/

/-- The slots that one entry fills: two for a long or double, else one. -/
inductive Entry where
  | narrow (constant : Constant)
  | wide
deriving Repr, DecidableEq

/-- One entry of the pool, after its tag. -/
def entryWithTag (tag : UInt8) : Decoder Entry :=
  match tag with
  | 1 => do
    let length ← Decoder.u2
    let bytes ← Decoder.bytes length.toNat
    match decodeText? bytes with
    | some value => pure (.narrow (.text value))
    | none => throw .malformedText
  | 5 | 6 => do
    let _ ← Decoder.bytes 8
    pure .wide
  | 7 => do
    let name ← Decoder.u2
    pure (.narrow (.classRef name))
  | 19 => do
    let name ← Decoder.u2
    pure (.narrow (.moduleRef name))
  | 20 => do
    let name ← Decoder.u2
    pure (.narrow (.packageRef name))
  | 8 | 16 => skip 2
  | 15 => skip 3
  | 3 | 4 | 9 | 10 | 11 | 12 | 17 | 18 => skip 4
  | tag => throw (.unsupportedConstant tag)
where
  /-- An entry of which only the width matters. -/
  skip (width : Nat) : Decoder Entry := do
    let _ ← Decoder.bytes width
    pure (.narrow .ignored)

/-- The entries that fill the given number of slots.  A wide entry in the last slot spills over. -/
def decodeSlots : Nat → Decoder (List Constant)
  | 0 => pure []
  | n + 1 => do
    let tag ← Decoder.u1
    match ← entryWithTag tag with
    | .narrow constant =>
      let others ← decodeSlots n
      pure (constant :: others)
    | .wide =>
      let others ←
        match n with
        | 0 => pure []
        | m + 1 => decodeSlots m
      pure (.ignored :: .unusable :: others)

/-- A constant pool: the number of its slots, slot 0 included, and the entries from slot 1 on. -/
def decodePool : Decoder ConstantPool := do
  let count ← Decoder.u2
  let slots ← decodeSlots (count.toNat - 1)
  pure ⟨.unusable :: slots⟩

end MultiRelease.ClassFile
