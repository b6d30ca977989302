import MultiRelease.Module.Descriptor
import MultiRelease.Text.Segments

/-!
# Binary types

The shape of a compiled type: its names, its modifiers and the declarations of its members.  A
module declaration is compiled to a type that carries a module descriptor.
-/

set_option autoImplicit false

namespace MultiRelease

open Text

/-- The flag of public types and members. -/
def publicFlag : UInt16 := 0x0001

/-- The flag of private members. -/
def privateFlag : UInt16 := 0x0002

/-- The flag of static members. -/
def staticFlag : UInt16 := 0x0008

/-- The flag of compiled module declarations. -/
def moduleFlag : UInt16 := 0x8000

/-- The ending of compiled types. -/
def classSuffix : String := ".class"

/-- The ending of compiled types in the symbol archive. -/
def signatureSuffix : String := ".sig"

/-- The ending of source files. -/
def sourceSuffix : String := ".java"

/-- A field or method as it is declared. -/
structure Member where
  name : String
  descriptor : String
  flags : UInt16
deriving Repr, DecidableEq, Inhabited

namespace Member

/-- Whether the member is public. -/
def isPublic (m : Member) : Bool := m.flags &&& publicFlag ≠ 0

/-- Whether the member is static. -/
def isStatic (m : Member) : Bool := m.flags &&& staticFlag ≠ 0

end Member

/-- A compiled type.  Names are internal, with slashes between the segments. -/
structure BinaryType where
  name : String
  superName : Option String
  interfaces : List String
  flags : UInt16
  majorVersion : UInt16
  fields : List Member
  methods : List Member
  /-- What the module attribute says, if there is one. -/
  module : Option ModuleDescriptor
  /-- The module that the type was loaded from, where that is known. -/
  moduleName : Option String
deriving Repr, DecidableEq, Inhabited

namespace BinaryType

/-- Whether the type is public. -/
def isPublic (t : BinaryType) : Bool := t.flags &&& publicFlag ≠ 0

/-- Whether the type is a compiled module declaration. -/
def isModuleDescriptor (t : BinaryType) : Bool := t.flags &&& moduleFlag ≠ 0

/-- The name with dots between the segments. -/
def qualifiedName (t : BinaryType) : String := replaceChar '/' '.' t.name

/-- The package with dots between the segments; empty for the default package. -/
def package (t : BinaryType) : String :=
  match cutLast '/' t.name with
  | some (package, _) => replaceChar '/' '.' package
  | none => ""

/-- The public methods, in order. -/
def publicMethods (t : BinaryType) : List Member := t.methods.filter Member.isPublic

/-- The public fields, in order. -/
def publicFields (t : BinaryType) : List Member := t.fields.filter Member.isPublic

end BinaryType

end MultiRelease
