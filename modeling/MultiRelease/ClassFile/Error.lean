/-!
# Errors of class files
-/

set_option autoImplicit false

namespace MultiRelease

/-- Why bytes are not a class file, or not the descriptor of a module. -/
inductive ClassFileError where
  | unexpectedEnd
  | invalidMagic
  | unsupportedConstant (tag : UInt8)
  | invalidConstantIndex (index : UInt16)
  | malformedText
  | missingModuleAttribute
deriving Repr, DecidableEq

/-- The wording of an error. -/
def ClassFileError.message : ClassFileError → String
  | .unexpectedEnd => "unexpected end of class file"
  | .invalidMagic => "invalid class file magic header"
  | .unsupportedConstant tag => s!"unsupported constant pool tag {tag.toNat}"
  | .invalidConstantIndex index => s!"invalid constant pool index {index.toNat}"
  | .malformedText => "malformed modified UTF-8 in constant pool"
  | .missingModuleAttribute => "module-info missing Module attribute"

end MultiRelease
