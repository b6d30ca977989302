import MultiRelease.ClassFile.BinaryType
import MultiRelease.ClassFile.ConstantPool

/-!
# Decoding class files

`parseBinaryType` reads the structure of a class file: header, constant pool, names, members and
the attributes of the class.  Of the attributes only `Module` is looked at; the others, and all
attributes of members, are passed over by their length.  What follows the last attribute does not
matter.
-/

set_option autoImplicit false

namespace MultiRelease.ClassFile

open Text

/-- The number at the start of every class file. -/
def magic : UInt32 := 0xCAFEBABE

/-- The flag of open modules. -/
def openFlag : UInt16 := 0x0020

/-- The flag of requirements that are passed on to dependents. -/
def transitiveFlag : UInt16 := 0x0020

/-- The flag of requirements that matter at compile time only. -/
def staticPhaseFlag : UInt16 := 0x0040

/-- The name of the attribute that holds a module declaration. -/
def moduleAttributeName : String := "Module"

/-- A name with dots between its segments. -/
def dotted (name : String) : String := replaceChar '/' '.' name

/-! ## Members -/

/-- Passes over one attribute. -/
def skipAttribute : Decoder Unit := do
  let _ ← Decoder.u2
  let length ← Decoder.u4
  let _ ← Decoder.bytes length.toNat
  pure ()

/-- One field or method. -/
def decodeMember (pool : ConstantPool) : Decoder Member := do
  let flags ← Decoder.u2
  let nameIndex ← Decoder.u2
  let descriptorIndex ← Decoder.u2
  let attributeCount ← Decoder.u2
  let name ← pool.text nameIndex
  let descriptor ← pool.text descriptorIndex
  let _ ← Decoder.times attributeCount.toNat skipAttribute
  pure ⟨name, descriptor, flags⟩

/-! ## The module attribute -/

/-- One required module. -/
def decodeRequirement (pool : ConstantPool) : Decoder Requirement := do
  let index ← Decoder.u2
  let flags ← Decoder.u2
  let _ ← Decoder.u2
  let name ← pool.moduleName index
  pure ⟨name, flags &&& transitiveFlag ≠ 0, flags &&& staticPhaseFlag ≠ 0⟩

/-- A reference to a module. -/
def decodeModuleName (pool : ConstantPool) : Decoder String := do
  let index ← Decoder.u2
  pool.moduleName index

/-- A reference to a type, as a dotted name. -/
def decodeTypeName (pool : ConstantPool) : Decoder String := do
  let index ← Decoder.u2
  let name ← pool.className index
  pure (dotted name)

/-- One exported or opened package. -/
def decodePackageExport (pool : ConstantPool) : Decoder PackageExport := do
  let index ← Decoder.u2
  let _ ← Decoder.u2
  let targets ← Decoder.counted (decodeModuleName pool)
  let package ← pool.packageName index
  pure ⟨dotted package, targets⟩

/-- One provided service. -/
def decodeProvision (pool : ConstantPool) : Decoder Provision := do
  let service ← decodeTypeName pool
  let implementations ← Decoder.counted (decodeTypeName pool)
  pure ⟨service, implementations⟩

/-- The content of a module attribute. -/
def decodeModule (pool : ConstantPool) : Decoder ModuleDescriptor := do
  let nameIndex ← Decoder.u2
  let flags ← Decoder.u2
  let _ ← Decoder.u2
  let name ← pool.moduleName nameIndex
  let requires ← Decoder.counted (decodeRequirement pool)
  let exports ← Decoder.counted (decodePackageExport pool)
  let opens ← Decoder.counted (decodePackageExport pool)
  let uses ← Decoder.counted (decodeTypeName pool)
  let provides ← Decoder.counted (decodeProvision pool)
  pure { name, isOpen := flags &&& openFlag ≠ 0, requires, exports, opens, uses, provides }

/-- One attribute of a class: the module that it declares, if it is a module attribute. -/
def decodeClassAttribute (pool : ConstantPool) : Decoder (Option ModuleDescriptor) := do
  let nameIndex ← Decoder.u2
  let length ← Decoder.u4
  let body ← Decoder.bytes length.toNat
  let name ← pool.text nameIndex
  if name = moduleAttributeName then
    let module ← (decodeModule pool).run body
    pure (some module)
  else pure none

/-! ## The class file -/

/-- The number at the start of the file. -/
def expectMagic : Decoder Unit := do
  let number ← Decoder.u4
  if number = magic then pure () else throw .invalidMagic

/-- A class file.  Of several module attributes the last one counts. -/
def decodeClass : Decoder BinaryType := do
  expectMagic
  let _ ← Decoder.u2
  let majorVersion ← Decoder.u2
  let pool ← decodePool
  let flags ← Decoder.u2
  let thisIndex ← Decoder.u2
  let superIndex ← Decoder.u2
  let interfaces ← Decoder.counted (do
    let index ← Decoder.u2
    pool.className index)
  let fields ← Decoder.counted (decodeMember pool)
  let methods ← Decoder.counted (decodeMember pool)
  let modules ← Decoder.counted (decodeClassAttribute pool)
  let name ← pool.className thisIndex
  let superName ← pool.className? superIndex
  pure {
    name, superName, interfaces, flags, majorVersion, fields, methods
    module := (modules.filterMap id).getLast?
    moduleName := none }

end ClassFile

open ClassFile

/-- The type that the bytes of a class file describe. -/
def parseBinaryType (bytes : List UInt8) : Except ClassFileError BinaryType :=
  decodeClass.run bytes

/-- The module declaration that the bytes of a class file hold. -/
def parseModuleInfo (bytes : List UInt8) : Except ClassFileError ModuleDescriptor := do
  let type ← parseBinaryType bytes
  match type.module with
  | some module => .ok module
  | none => .error .missingModuleAttribute

end MultiRelease
