import MultiRelease.ClassFile.Decode

/-!
# Stub classes

A stub is a class file with nothing but a structure: members without code, and at most one
attribute, which is `Module`.  `Stub.encode` writes it.  The constant pool holds each text and each
reference once, in the order in which the rest of the file first mentions them, a text in front of
the references to it.
-/

set_option autoImplicit false

namespace MultiRelease.ClassFile

open Text

/-! ## Numbers -/

/-- A number in two bytes, the high one first. -/
def encodeU2 (n : UInt16) : List UInt8 := [(n >>> 8).toUInt8, n.toUInt8]

/-- A number in four bytes, the high one first. -/
def encodeU4 (n : UInt32) : List UInt8 :=
  [(n >>> 24).toUInt8, (n >>> 16).toUInt8, (n >>> 8).toUInt8, n.toUInt8]

/-- The length of a list in two bytes. -/
def encodeCount {α : Type} (items : List α) : List UInt8 := encodeU2 items.length.toUInt16

/-! ## The constant pool under construction -/

/-- The kinds of constant that a stub needs. -/
inductive ConstantKind where
  | text
  | classRef
  | moduleRef
  | packageRef
deriving Repr, DecidableEq

/-- The tag of a kind of constant. -/
def ConstantKind.tag : ConstantKind → UInt8
  | .text => 1
  | .classRef => 7
  | .moduleRef => 19
  | .packageRef => 20

/-- A constant with the text that it is or refers to, and its bytes. -/
structure PooledConstant where
  kind : ConstantKind
  value : String
  bytes : List UInt8
deriving Repr, DecidableEq

/-- The constants from slot 1 on. -/
abbrev PoolBuilder := List PooledConstant

/-- Does something that may add constants to the pool. -/
abbrev Pooling := StateM PoolBuilder

/-- The index of a constant that is in the pool already. -/
def PoolBuilder.index? (pool : PoolBuilder) (kind : ConstantKind) (value : String) :
    Option UInt16 :=
  (pool.findIdx? fun c => c.kind = kind && c.value = value).map fun i => (i + 1).toUInt16

/-- Adds a constant at the end and tells its index. -/
def addConstant (constant : PooledConstant) : Pooling UInt16 := fun pool =>
  let pool := pool ++ [constant]
  (pool.length.toUInt16, pool)

/-- The UTF-8 bytes of a text. -/
def utf8Bytes (value : String) : List UInt8 := value.toUTF8.data.toList

/-- The index of a text. -/
def pooledText (value : String) : Pooling UInt16 := do
  let pool ← get
  match pool.index? .text value with
  | some index => pure index
  | none =>
    let bytes := utf8Bytes value
    addConstant ⟨.text, value, ConstantKind.text.tag :: (encodeCount bytes ++ bytes)⟩

/-- The index of a reference to a name. -/
def pooledRef (kind : ConstantKind) (name : String) : Pooling UInt16 := do
  let pool ← get
  match pool.index? kind name with
  | some index => pure index
  | none =>
    let nameIndex ← pooledText name
    addConstant ⟨kind, name, kind.tag :: encodeU2 nameIndex⟩

/-- The bytes of a pool: the number of its slots, slot 0 included, and the constants. -/
def PoolBuilder.encode (pool : PoolBuilder) : List UInt8 :=
  encodeU2 (pool.length.toUInt16 + 1) ++ pool.flatMap (·.bytes)

/-! ## The module attribute -/

/-- A name with slashes between its segments. -/
def slashed (name : String) : String := replaceChar '.' '/' name

/-- The bytes of all items, one after the other. -/
def encodeAll {α : Type} (encode : α → Pooling (List UInt8)) : List α → Pooling (List UInt8)
  | [] => pure []
  | item :: items => do
    let first ← encode item
    let others ← encodeAll encode items
    pure (first ++ others)

/-- A list, preceded by its length. -/
def encodeCounted {α : Type} (encode : α → Pooling (List UInt8)) (items : List α) :
    Pooling (List UInt8) := do
  let bytes ← encodeAll encode items
  pure (encodeCount items ++ bytes)

/-- One required module. -/
def encodeRequirement (r : Requirement) : Pooling (List UInt8) := do
  let index ← pooledRef .moduleRef r.name
  let flags :=
    (if r.transitive then transitiveFlag else 0) ||| (if r.isStatic then staticPhaseFlag else 0)
  pure (encodeU2 index ++ encodeU2 flags ++ encodeU2 0)

/-- A reference to a module. -/
def encodeModuleName (name : String) : Pooling (List UInt8) := do
  let index ← pooledRef .moduleRef name
  pure (encodeU2 index)

/-- A reference to a type with a dotted name. -/
def encodeTypeName (name : String) : Pooling (List UInt8) := do
  let index ← pooledRef .classRef (slashed name)
  pure (encodeU2 index)

/-- One exported or opened package. -/
def encodePackageExport (e : PackageExport) : Pooling (List UInt8) := do
  let index ← pooledRef .packageRef (slashed e.package)
  let targets ← encodeCounted encodeModuleName e.targets
  pure (encodeU2 index ++ encodeU2 0 ++ targets)

/-- One provided service. -/
def encodeProvision (p : Provision) : Pooling (List UInt8) := do
  let service ← encodeTypeName p.service
  let implementations ← encodeCounted encodeTypeName p.implementations
  pure (service ++ implementations)

/-- The content of a module attribute. -/
def encodeModule (m : ModuleDescriptor) : Pooling (List UInt8) := do
  let name ← encodeModuleName m.name
  let requires ← encodeCounted encodeRequirement m.requires
  let exports ← encodeCounted encodePackageExport m.exports
  let opens ← encodeCounted encodePackageExport m.opens
  let uses ← encodeCounted encodeTypeName m.uses
  let provides ← encodeCounted encodeProvision m.provides
  let flags := if m.isOpen then openFlag else 0
  pure (name ++ encodeU2 flags ++ encodeU2 0 ++ requires ++ exports ++ opens ++ uses ++ provides)

/-! ## Stubs -/

end ClassFile

open ClassFile

/-- A class file without code. -/
structure Stub where
  name : String
  superName : Option String := some "java/lang/Object"
  flags : UInt16 := 0x0021
  majorVersion : UInt16 := 52
  fields : List Member := []
  methods : List Member := []
  module : Option ModuleDescriptor := none
deriving Repr, DecidableEq, Inhabited

namespace Stub

/-- The compiled form of a module declaration. -/
def ofModule (m : ModuleDescriptor) : Stub where
  name := moduleInfoName
  superName := none
  flags := moduleFlag
  majorVersion := 53
  module := some m

/-- The stub with the major version of a release. -/
def withRelease (stub : Stub) (release : UInt16) : Stub :=
  { stub with majorVersion := release + 44 }

/-- One field or method without attributes. -/
def encodeMember (m : Member) : Pooling (List UInt8) := do
  let name ← pooledText m.name
  let descriptor ← pooledText m.descriptor
  pure (encodeU2 m.flags ++ encodeU2 name ++ encodeU2 descriptor ++ encodeU2 0)

/-- The index of the super class, 0 for none. -/
def encodeSuper : Option String → Pooling (List UInt8)
  | some name => do
    let index ← pooledRef .classRef name
    pure (encodeU2 index)
  | none => pure (encodeU2 0)

/-- The attributes of the class. -/
def encodeAttributes : Option ModuleDescriptor → Pooling (List UInt8)
  | some m => do
    let content ← encodeModule m
    let name ← pooledText moduleAttributeName
    pure (encodeU2 1 ++ encodeU2 name ++ encodeU4 content.length.toUInt32 ++ content)
  | none => pure (encodeU2 0)

/-- Everything that follows the constant pool. -/
def encodeBody (stub : Stub) : Pooling (List UInt8) := do
  let thisIndex ← pooledRef .classRef stub.name
  let superIndex ← encodeSuper stub.superName
  let fields ← encodeCounted encodeMember stub.fields
  let methods ← encodeCounted encodeMember stub.methods
  let attributes ← encodeAttributes stub.module
  pure (encodeU2 stub.flags ++ encodeU2 thisIndex ++ superIndex ++ encodeU2 0 ++ fields ++ methods
    ++ attributes)

/-- The bytes of a stub. -/
def encode (stub : Stub) : List UInt8 :=
  let (body, pool) := (encodeBody stub).run []
  encodeU4 magic ++ encodeU2 0 ++ encodeU2 stub.majorVersion ++ pool.encode ++ body

end Stub

end MultiRelease
