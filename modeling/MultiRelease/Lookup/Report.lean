import MultiRelease.Lookup.Answer
import MultiRelease.Text.Json

/-!
# Answers as JSON

The fields of each object are in alphabetical order.
-/

set_option autoImplicit false

namespace MultiRelease

/-- A restriction as JSON. -/
def AccessRestriction.toJson (r : AccessRestriction) : Json :=
  .object [("kind", .text r.kind.word), ("origin", .text r.origin), ("pattern", .text r.pattern)]

/-- An answer as JSON: of a compiled type the public members, of a source its path. -/
def Answer.toJson (a : Answer) : Json :=
  let restriction := match a.restriction with
    | some r => r.toJson
    | none => Json.null
  match a.kind with
  | .binary type => .object [
      ("fields", .list (type.publicFields.map fun m => .text (m.name ++ ":" ++ m.descriptor))),
      ("kind", .text "binary"),
      ("methods", .list (type.publicMethods.map fun m => .text (m.name ++ m.descriptor))),
      ("module", Json.ofOption a.moduleName),
      ("name", .text type.qualifiedName),
      ("release", .text a.release.text),
      ("restriction", restriction)]
  | .source path mainTypeName => .object [
      ("kind", .text "source"),
      ("module", Json.ofOption a.moduleName),
      ("name", .text mainTypeName),
      ("path", .text path.text),
      ("release", .text a.release.text),
      ("restriction", restriction)]

end MultiRelease
