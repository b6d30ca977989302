import MultiRelease.Glob.Match

/-!
# Access rules

Rules of a classpath entry about its types.  The first rule whose pattern matches the name of a type
decides; a type that no rule matches is accessible.
-/

set_option autoImplicit false

namespace MultiRelease

/-- What a rule says about the types that it matches. -/
inductive AccessKind where
  | accessible
  | discouraged
  | forbidden
deriving Repr, DecidableEq, Inhabited

/-- The word for a kind of access. -/
def AccessKind.word : AccessKind → String
  | .accessible => "accessible"
  | .discouraged => "discouraged"
  | .forbidden => "forbidden"

/-- What stands in the way of using a type. -/
structure AccessRestriction where
  kind : AccessKind
  pattern : String
  /-- The classpath entry with the rule. -/
  origin : String
deriving Repr, DecidableEq, Inhabited

/-- A pattern and what it says. -/
structure AccessRule where
  glob : Glob
  kind : AccessKind
deriving Repr, Inhabited

/-- The rules of a classpath entry. -/
structure AccessRules where
  rules : List AccessRule
  origin : String
deriving Repr, Inhabited

namespace AccessRules

/-- Rules from the texts of their patterns. -/
def parseRules : List (String × AccessKind) → Except GlobError (List AccessRule)
  | [] => .ok []
  | (pattern, kind) :: others =>
    match Glob.parse pattern with
    | .error error => .error error
    | .ok glob =>
      match parseRules others with
      | .error error => .error error
      | .ok rules => .ok (⟨glob, kind⟩ :: rules)

/-- The rules of a classpath entry; the first faulty pattern is the one reported. -/
def parse (rules : List (String × AccessKind)) (origin : String) :
    Except GlobError AccessRules :=
  match parseRules rules with
  | .ok rules => .ok ⟨rules, origin⟩
  | .error error => .error error

/-- What the rules say about the type with the given name. -/
def restriction? (rules : AccessRules) (qualifiedTypeName : String) : Option AccessRestriction :=
  match rules.rules.find? (·.glob.isMatch qualifiedTypeName) with
  | some ⟨_, .accessible⟩ => none
  | some ⟨glob, kind⟩ => some ⟨kind, glob.pattern, rules.origin⟩
  | none => none

/-- Whether two sets of rules come from the same entry and are written alike. -/
def same (a b : AccessRules) : Bool :=
  a.origin = b.origin && written a = written b
where
  /-- The patterns as they were written, in order, with what each decides. -/
  written (rules : AccessRules) : List (String × AccessKind) :=
    rules.rules.map fun rule => (rule.glob.pattern, rule.kind)

end AccessRules

end MultiRelease
