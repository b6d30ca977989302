import MultiRelease.ClassFile.BinaryType

/-!
# Queries

What a lookup asks for, and which modules may answer it.
-/

set_option autoImplicit false

namespace MultiRelease

open Text

/-- A lookup of one type. -/
structure Query where
  typeName : String
  /-- The package with slashes between the segments; empty for the default package. -/
  packageName : String
  /-- Whether sources may not answer. -/
  binaryOnly : Bool := false
deriving Repr, DecidableEq, Inhabited

namespace Query

/-- A type in a package that is given by its segments. -/
def inPackage (typeName : String) (package : List String) : Query :=
  { typeName, packageName := "/".intercalate package }

/-- A type that is given by all its segments, the name of the type last. -/
def ofCompound? (compound : List String) : Option Query :=
  compound.getLast?.map fun typeName => inPackage typeName compound.dropLast

/-- A type with a dotted name, none of whose segments may be empty. -/
def ofDotted? (name : String) : Option Query :=
  let parts := segments '.' name
  if "" ∈ parts then none else ofCompound? parts

/-- The name with its package, slashes between the segments. -/
def qualifiedTypeName (q : Query) : String :=
  if q.packageName = "" then q.typeName else q.packageName ++ "/" ++ q.typeName

/-- The name of the file that the type is compiled to. -/
def binaryFileName (q : Query) : String := q.typeName ++ classSuffix

/-- The name of the compiled file below the folder of classes. -/
def qualifiedBinaryFileName (q : Query) : String := q.qualifiedTypeName ++ classSuffix

/-- The name of the source file of the type. -/
def sourceFileName (q : Query) : String := q.typeName ++ sourceSuffix

end Query

/-- Which modules a lookup may be answered from. -/
inductive ModuleConstraint where
  | any
  | unnamed
  | named (name : String)
deriving Repr, DecidableEq, Inhabited

namespace ModuleConstraint

/-- Whether a location that belongs to the given module may answer. -/
def accepts : ModuleConstraint → Option String → Bool
  | any, _ => true
  | unnamed, module => module.isNone
  | named name, module => module = some name

/-- The name that is asked for, if one is. -/
def name? : ModuleConstraint → Option String
  | named name => some name
  | _ => none

end ModuleConstraint

end MultiRelease
