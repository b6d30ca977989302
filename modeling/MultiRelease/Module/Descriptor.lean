/-!
# Module descriptors

What a module declaration says, whether it was read from source text or from a compiled class: the
name of the module and its directives, each kind in the order in which it was declared.
-/

set_option autoImplicit false

namespace MultiRelease

/-- A dependence on another module. -/
structure Requirement where
  name : String
  transitive : Bool := false
  isStatic : Bool := false
deriving Repr, DecidableEq, Inhabited

/-- A package made accessible, to every module or to the given targets only. -/
structure PackageExport where
  package : String
  targets : List String := []
deriving Repr, DecidableEq, Inhabited

/-- A service and the types that implement it. -/
structure Provision where
  service : String
  implementations : List String := []
deriving Repr, DecidableEq, Inhabited

/-- A module declaration. -/
structure ModuleDescriptor where
  name : String
  isOpen : Bool := false
  requires : List Requirement := []
  exports : List PackageExport := []
  opens : List PackageExport := []
  uses : List String := []
  provides : List Provision := []
deriving Repr, DecidableEq, Inhabited

/-- The name under which a module declaration is compiled. -/
def moduleInfoName : String := "module-info"

namespace ModuleDescriptor

/-- The packages exported to every module. -/
def unqualifiedExports (m : ModuleDescriptor) : List String :=
  (m.exports.filter (·.targets.isEmpty)).map (·.package)

/-- Whether a package is exported, to whomever. -/
def exportsPackage (m : ModuleDescriptor) (package : String) : Bool :=
  m.exports.any (·.package = package)

/-- Whether the module requires the named one. -/
def requiresModule (m : ModuleDescriptor) (name : String) : Bool :=
  m.requires.any (·.name = name)

end ModuleDescriptor

end MultiRelease
