import Mathlib.Data.List.Forall2
import MultiRelease.Proofs.ClassFile.ModifiedText

/-!
# The class-file format

`Format.ClassFile` is a class file as the format has it: with every kind of constant, with
interfaces, and with any attributes on the class and on its members.  Limits of the format, such as
lengths that are stored in two bytes, are part of the types, so that whatever can be written down as
a `Format.ClassFile` has bytes.

* `Format.Constant` has one constructor for each tag.  References hold indices into the pool and not
  what they refer to, and nothing asks of an index that it leads anywhere.
* `ClassFile.encode` gives the bytes of a class file, and each part of it has an `encode` of its own
  which is used there.
* `ClassFile.Denotes` says what type a class file describes.  It follows the indices of names into
  the pool (`Pool.constantAt?`), where a long or double takes two indices.  Constants that no name
  leads to do not occur in it, nor does the content of any attribute but `Module`.

The description is a relation, since a class file whose indices lead to nothing, or to a constant of
another kind, describes no type.  Names of packages and types in a module declaration are stored
with slashes and are described with dots (`DenotesType`).  Nothing here mentions the reader or the
writer, so that both can be held against it.
-/

set_option autoImplicit false

namespace MultiRelease

open ClassFile

namespace Format

/-! ## Limits -/

/-- A list whose length fits into two bytes. -/
abbrev Short (α : Type) := {items : List α // items.length < 65536}

/-- Bytes whose number fits into four bytes. -/
abbrev Block := {bytes : List UInt8 // bytes.length < 2 ^ 32}

/-- A text of which the number of bytes fits into two bytes. -/
abbrev ShortText := {value : String // (modifiedBytes value).length < 65536}

/-- The bytes of a list: its length, then its items. -/
def encodeShort {α : Type} (encode : α → List UInt8) (items : Short α) : List UInt8 :=
  encodeCount items.val ++ items.val.flatMap encode

/-! ## Constants -/

/-- A constant.  What refers to another constant does so by its index. -/
inductive Constant where
  | utf8 (text : ShortText)
  | integer (bits : UInt32)
  | float (bits : UInt32)
  | long (high low : UInt32)
  | double (high low : UInt32)
  | classRef (name : UInt16)
  | string (text : UInt16)
  | fieldRef (owner member : UInt16)
  | methodRef (owner member : UInt16)
  | interfaceMethodRef (owner member : UInt16)
  | nameAndType (name descriptor : UInt16)
  | methodHandle (kind : UInt8) (target : UInt16)
  | methodType (descriptor : UInt16)
  | dynamic (bootstrap member : UInt16)
  | invokeDynamic (bootstrap member : UInt16)
  | moduleRef (name : UInt16)
  | packageRef (name : UInt16)

namespace Constant

/-- How many indices a constant takes. -/
def width : Constant → Nat
  | long _ _ => 2
  | double _ _ => 2
  | _ => 1

/-- The bytes of a constant: its tag and its content. -/
def encode : Constant → List UInt8
  | utf8 text => 1 :: (encodeCount (modifiedBytes text.val) ++ modifiedBytes text.val)
  | integer bits => 3 :: encodeU4 bits
  | float bits => 4 :: encodeU4 bits
  | long high low => 5 :: (encodeU4 high ++ encodeU4 low)
  | double high low => 6 :: (encodeU4 high ++ encodeU4 low)
  | classRef name => 7 :: encodeU2 name
  | string text => 8 :: encodeU2 text
  | fieldRef owner member => 9 :: (encodeU2 owner ++ encodeU2 member)
  | methodRef owner member => 10 :: (encodeU2 owner ++ encodeU2 member)
  | interfaceMethodRef owner member => 11 :: (encodeU2 owner ++ encodeU2 member)
  | nameAndType name descriptor => 12 :: (encodeU2 name ++ encodeU2 descriptor)
  | methodHandle kind target => 15 :: kind :: encodeU2 target
  | methodType descriptor => 16 :: encodeU2 descriptor
  | dynamic bootstrap member => 17 :: (encodeU2 bootstrap ++ encodeU2 member)
  | invokeDynamic bootstrap member => 18 :: (encodeU2 bootstrap ++ encodeU2 member)
  | moduleRef name => 19 :: encodeU2 name
  | packageRef name => 20 :: encodeU2 name

end Constant

/-- The constants of a class file. -/
structure Pool where
  constants : List Constant
  /-- The indices are counted in two bytes, with index 0, which leads to nothing. -/
  fits : (constants.map Constant.width).sum < 65535

namespace Pool

/-- The constant with an index.  The first one has index 1.  The second index of a wide constant
leads to nothing. -/
def constantAt? : List Constant → Nat → Option Constant
  | [], _ => none
  | constant :: others, index =>
    if index = 1 then some constant
    else if index ≤ constant.width then none
    else constantAt? others (index - constant.width)

variable (pool : Pool)

/-- The bytes of a pool: how many indices there are, and the constants. -/
def encode : List UInt8 :=
  encodeU2 ((pool.constants.map Constant.width).sum + 1).toUInt16 ++
    pool.constants.flatMap Constant.encode

/-- A text stands at an index. -/
def HasText (index : UInt16) (value : String) : Prop :=
  ∃ text, constantAt? pool.constants index.toNat = some (.utf8 text) ∧ text.val = value

/-- A reference of some kind to a name stands at an index. -/
def HasName (kind : UInt16 → Constant) (index : UInt16) (name : String) : Prop :=
  ∃ nameIndex, constantAt? pool.constants index.toNat = some (kind nameIndex) ∧
    pool.HasText nameIndex name

end Pool

/-! ## Attributes and members -/

/-- An attribute, whatever it holds. -/
structure Attribute where
  name : UInt16
  content : Block

/-- The bytes of an attribute. -/
def Attribute.encode (a : Attribute) : List UInt8 :=
  encodeU2 a.name ++ (encodeU4 a.content.val.length.toUInt32 ++ a.content.val)

/-- A field or method. -/
structure Member where
  flags : UInt16
  name : UInt16
  descriptor : UInt16
  attributes : Short Attribute

namespace Member

/-- The bytes of a member. -/
def encode (m : Member) : List UInt8 :=
  encodeU2 m.flags ++ (encodeU2 m.name ++ (encodeU2 m.descriptor ++
    encodeShort Attribute.encode m.attributes))

/-- What a member is declared as. -/
structure Denotes (pool : Pool) (m : Member) (member : MultiRelease.Member) : Prop where
  flags : member.flags = m.flags
  name : pool.HasText m.name member.name
  descriptor : pool.HasText m.descriptor member.descriptor

end Member

/-! ## Module declarations -/

/-- A required module. -/
structure Requirement where
  module : UInt16
  flags : UInt16
  version : UInt16

/-- An exported or opened package. -/
structure PackageExport where
  package : UInt16
  flags : UInt16
  targets : Short UInt16

/-- A service with the types that implement it. -/
structure Provision where
  service : UInt16
  implementations : Short UInt16

/-- The content of a `Module` attribute. -/
structure ModuleContent where
  name : UInt16
  flags : UInt16
  version : UInt16
  requires : Short Requirement
  exports : Short PackageExport
  opens : Short PackageExport
  uses : Short UInt16
  provides : Short Provision

namespace Requirement

/-- The bytes of a requirement. -/
def encode (r : Requirement) : List UInt8 :=
  encodeU2 r.module ++ (encodeU2 r.flags ++ encodeU2 r.version)

/-- What a requirement says. -/
structure Denotes (pool : Pool) (r : Requirement) (requirement : MultiRelease.Requirement) :
    Prop where
  name : pool.HasName .moduleRef r.module requirement.name
  transitive : requirement.transitive = decide (r.flags &&& 0x0020 ≠ 0)
  isStatic : requirement.isStatic = decide (r.flags &&& 0x0040 ≠ 0)

end Requirement

/-- A type is referred to, and its name has dots in place of slashes. -/
def DenotesType (pool : Pool) (index : UInt16) (typeName : String) : Prop :=
  ∃ name, pool.HasName .classRef index name ∧ typeName = dotted name

namespace PackageExport

/-- The bytes of an exported or opened package. -/
def encode (e : PackageExport) : List UInt8 :=
  encodeU2 e.package ++ (encodeU2 e.flags ++ encodeShort encodeU2 e.targets)

/-- What an exported or opened package says. -/
structure Denotes (pool : Pool) (e : PackageExport) (packageExport : MultiRelease.PackageExport) :
    Prop where
  package : ∃ name, pool.HasName .packageRef e.package name ∧ packageExport.package = dotted name
  targets : List.Forall₂ (pool.HasName .moduleRef) e.targets.val packageExport.targets

end PackageExport

namespace Provision

/-- The bytes of a provision. -/
def encode (p : Provision) : List UInt8 :=
  encodeU2 p.service ++ encodeShort encodeU2 p.implementations

/-- What a provision says. -/
structure Denotes (pool : Pool) (p : Provision) (provision : MultiRelease.Provision) : Prop where
  service : DenotesType pool p.service provision.service
  implementations :
    List.Forall₂ (DenotesType pool) p.implementations.val provision.implementations

end Provision

namespace ModuleContent

/-- The bytes of a module declaration. -/
def encode (c : ModuleContent) : List UInt8 :=
  encodeU2 c.name ++ (encodeU2 c.flags ++ (encodeU2 c.version ++
    (encodeShort Requirement.encode c.requires ++
    (encodeShort PackageExport.encode c.exports ++ (encodeShort PackageExport.encode c.opens ++
    (encodeShort encodeU2 c.uses ++ encodeShort Provision.encode c.provides))))))

/-- What a module declaration says. -/
structure Denotes (pool : Pool) (c : ModuleContent) (m : ModuleDescriptor) : Prop where
  name : pool.HasName .moduleRef c.name m.name
  isOpen : m.isOpen = decide (c.flags &&& 0x0020 ≠ 0)
  requires : List.Forall₂ (Requirement.Denotes pool) c.requires.val m.requires
  exports : List.Forall₂ (PackageExport.Denotes pool) c.exports.val m.exports
  opens : List.Forall₂ (PackageExport.Denotes pool) c.opens.val m.opens
  uses : List.Forall₂ (DenotesType pool) c.uses.val m.uses
  provides : List.Forall₂ (Provision.Denotes pool) c.provides.val m.provides

end ModuleContent

/-! ## Class files -/

/-- An attribute of a class: one that declares a module, or any other. -/
inductive ClassAttribute where
  | module (name : UInt16) (content : ModuleContent) (fits : content.encode.length < 2 ^ 32)
  | other (a : Attribute)

namespace ClassAttribute

/-- The attribute with the bytes that it holds. -/
def toAttribute : ClassAttribute → Attribute
  | module name content fits => ⟨name, content.encode, fits⟩
  | other a => a

/-- The module that an attribute declares, if it does.  The name tells which attribute does. -/
inductive Denotes (pool : Pool) : ClassAttribute → Option ModuleDescriptor → Prop where
  | module {name : UInt16} {content : ModuleContent} {fits : content.encode.length < 2 ^ 32}
      {m : ModuleDescriptor} (hname : pool.HasText name "Module") (hm : content.Denotes pool m) :
      Denotes pool (.module name content fits) (some m)
  | other {a : Attribute} {name : String} (hname : pool.HasText a.name name)
      (hother : name ≠ "Module") : Denotes pool (.other a) none

end ClassAttribute

/-- A class file. -/
structure ClassFile where
  minorVersion : UInt16
  majorVersion : UInt16
  pool : Pool
  flags : UInt16
  thisClass : UInt16
  /-- 0 stands for no super class. -/
  superClass : UInt16
  interfaces : Short UInt16
  fields : Short Member
  methods : Short Member
  attributes : Short ClassAttribute

namespace ClassFile

/-- The bytes of a class file. -/
def encode (c : ClassFile) : List UInt8 :=
  encodeU4 0xCAFEBABE ++ (encodeU2 c.minorVersion ++ (encodeU2 c.majorVersion ++
    (c.pool.encode ++ (encodeU2 c.flags ++ (encodeU2 c.thisClass ++ (encodeU2 c.superClass ++
    (encodeShort encodeU2 c.interfaces ++
    (encodeShort Member.encode c.fields ++ (encodeShort Member.encode c.methods ++
      encodeShort (fun a => a.toAttribute.encode) c.attributes)))))))))

/-- What type a class file describes. -/
structure Denotes (c : ClassFile) (type : BinaryType) : Prop where
  name : c.pool.HasName .classRef c.thisClass type.name
  superName : c.superClass = 0 ∧ type.superName = none ∨
    ∃ superName, c.pool.HasName .classRef c.superClass superName ∧
      type.superName = some superName
  interfaces : List.Forall₂ (c.pool.HasName .classRef) c.interfaces.val type.interfaces
  flags : type.flags = c.flags
  majorVersion : type.majorVersion = c.majorVersion
  fields : List.Forall₂ (Member.Denotes c.pool) c.fields.val type.fields
  methods : List.Forall₂ (Member.Denotes c.pool) c.methods.val type.methods
  /-- At most one attribute declares a module. -/
  module : ∃ declared, List.Forall₂ (ClassAttribute.Denotes c.pool) c.attributes.val declared ∧
    declared.reduceOption = type.module.toList
  /-- A class file does not say where it was loaded from. -/
  moduleName : type.moduleName = none

end ClassFile

end Format

end MultiRelease
