import MultiRelease.Module.Descriptor
import MultiRelease.Module.Token
import MultiRelease.Release

/-!
# Module declarations in source

The parser of `module-info.java`.  It works on the list of tokens: each part of the grammar is a
function that takes the tokens from its beginning and returns what it read together with the tokens
after it.  An error names what was expected and the token found in its place.

A compilation unit is a sequence of imports, a sequence of annotations and one module declaration.
Imports are skipped up to their semicolon and the arguments of an annotation up to the parenthesis
that closes them, so nothing inside is looked at.  The words of the directives are not reserved:
after `requires`, the words `transitive` and `static` are modifiers only when an identifier follows
directly, and elsewhere they may be names.
-/

set_option autoImplicit false

namespace MultiRelease

/-! ## Language levels -/

/-- The source level of a root that is bound to no release. -/
def defaultSourceLevel : UInt16 := 21

/-- The language levels for one compilation unit. -/
structure ParserOptions where
  sourceLevel : UInt16 := defaultSourceLevel
  complianceLevel : UInt16 := sourceLevel
  targetLevel : UInt16 := sourceLevel
deriving Repr, DecidableEq, Inhabited

namespace ParserOptions

/-- One level for everything. -/
def ofLevel (level : UInt16) : ParserOptions := ⟨level, level, level⟩

/-- The levels for a root bound to the given release. -/
def ofRelease : Release → ParserOptions
  | .unversioned => ofLevel defaultSourceLevel
  | .java number => ofLevel number

/-- Whether the source level knows module declarations. -/
def supportsModules (options : ParserOptions) : Bool := firstMultiRelease ≤ options.sourceLevel

end ParserOptions

/-! ## Names -/

namespace Declaration

/-- The error for tokens that do not start with what was expected. -/
def unexpected (what : String) : List Token → SourceError
  | [] => .unexpectedEnd what
  | t :: _ => .unexpectedToken what t.lexeme t.place

/-- Whether a token is the given word. -/
def isWord (word : String) (t : Token) : Bool := t.kind = .identifier && t.lexeme = word

/-- Takes one token of the given kind off. -/
def expect (kind : TokenKind) (what : String) : List Token → Except SourceError (List Token)
  | [] => .error (.unexpectedEnd what)
  | t :: rest => if t.kind = kind then .ok rest else .error (unexpected what (t :: rest))

/-- The identifiers of a dotted name. -/
def nameSegments : List Token → Except SourceError (List String × List Token)
  | [] => .error (unexpected "an identifier" [])
  | [t] =>
    if t.kind = .identifier then .ok ([t.lexeme], [])
    else .error (unexpected "an identifier" [t])
  | t :: d :: rest =>
    if t.kind = .identifier then
      if d.kind = .dot then
        match nameSegments rest with
        | .ok (segments, after) => .ok (t.lexeme :: segments, after)
        | .error error => .error error
      else .ok ([t.lexeme], d :: rest)
    else .error (unexpected "an identifier" (t :: d :: rest))

/-- A dotted name. -/
def qualifiedName (tokens : List Token) : Except SourceError (String × List Token) :=
  match nameSegments tokens with
  | .ok (segments, after) => .ok (".".intercalate segments, after)
  | .error error => .error error

theorem nameSegments_length {tokens after : List Token} {segments : List String}
    (h : nameSegments tokens = .ok (segments, after)) : after.length < tokens.length := by
  fun_induction nameSegments tokens generalizing segments after <;> grind

theorem qualifiedName_length {tokens after : List Token} {name : String}
    (h : qualifiedName tokens = .ok (name, after)) : after.length < tokens.length := by
  unfold qualifiedName at h
  split at h
  · next hs => cases h; exact nameSegments_length hs
  · cases h

/-- A list of dotted names between commas. -/
def nameList (tokens : List Token) : Except SourceError (List String × List Token) :=
  match _h : qualifiedName tokens with
  | .error error => .error error
  | .ok (name, []) => .ok ([name], [])
  | .ok (name, t :: rest) =>
    if t.kind = .comma then
      match nameList rest with
      | .ok (names, after) => .ok (name :: names, after)
      | .error error => .error error
    else .ok ([name], t :: rest)
termination_by tokens.length
decreasing_by
  have := qualifiedName_length _h
  simp only [List.length_cons] at this
  omega

/-! ## Directives -/

/-- One directive of a module body. -/
inductive Directive where
  | requires (requirement : Requirement)
  | exports (package : PackageExport)
  | opens (package : PackageExport)
  | uses (service : String)
  | provides (provision : Provision)
deriving Repr, DecidableEq

/-- Reads the modifiers of a requirement.  One of the two words is a modifier exactly when an
identifier follows it directly. -/
def modifiers (transitive isStatic : Bool) : List Token → (Bool × Bool) × List Token
  | t :: next :: rest =>
    if next.kind = .identifier && isWord "transitive" t then
      modifiers true isStatic (next :: rest)
    else if next.kind = .identifier && isWord "static" t then
      modifiers transitive true (next :: rest)
    else ((transitive, isStatic), t :: next :: rest)
  | tokens => ((transitive, isStatic), tokens)

/-- A requirement, after its keyword. -/
def requirement (tokens : List Token) : Except SourceError (Requirement × List Token) := do
  let ((transitive, isStatic), tokens) := modifiers false false tokens
  let (name, tokens) ← qualifiedName tokens
  let tokens ← expect .semicolon "';'" tokens
  .ok (⟨name, transitive, isStatic⟩, tokens)

/-- The rest of a directive about a package, after its keyword. -/
def packageExport (tokens : List Token) : Except SourceError (PackageExport × List Token) := do
  let (package, tokens) ← qualifiedName tokens
  let (targets, tokens) ←
    match tokens with
    | t :: rest => if isWord "to" t then nameList rest else .ok ([], t :: rest)
    | [] => .ok ([], [])
  let tokens ← expect .semicolon "';'" tokens
  .ok (⟨package, targets⟩, tokens)

/-- The name of a used service, after its keyword. -/
def usedService (tokens : List Token) : Except SourceError (String × List Token) := do
  let (service, tokens) ← qualifiedName tokens
  let tokens ← expect .semicolon "';'" tokens
  .ok (service, tokens)

/-- A provision, after its keyword. -/
def provision (tokens : List Token) : Except SourceError (Provision × List Token) := do
  let (service, tokens) ← qualifiedName tokens
  let tokens ←
    match tokens with
    | t :: rest => if isWord "with" t then .ok rest else .error (unexpected "'with'" (t :: rest))
    | [] => .error (unexpected "'with'" [])
  let (implementations, tokens) ← nameList tokens
  let tokens ← expect .semicolon "';'" tokens
  .ok (⟨service, implementations⟩, tokens)

/-- The directive that starts with the token `t`. -/
def directive (t : Token) (rest : List Token) : Except SourceError (Directive × List Token) :=
  if t.lexeme = "requires" then (requirement rest).map fun (r, after) => (.requires r, after)
  else if t.lexeme = "exports" then (packageExport rest).map fun (e, after) => (.exports e, after)
  else if t.lexeme = "opens" then (packageExport rest).map fun (e, after) => (.opens e, after)
  else if t.lexeme = "uses" then (usedService rest).map fun (s, after) => (.uses s, after)
  else if t.lexeme = "provides" then (provision rest).map fun (p, after) => (.provides p, after)
  else .error (unexpected "a module directive" (t :: rest))

theorem expect_length {kind : TokenKind} {what : String} {tokens after : List Token}
    (h : expect kind what tokens = .ok after) : after.length < tokens.length := by
  unfold expect at h
  split at h <;> grind

theorem nameList_length {tokens after : List Token} {names : List String}
    (h : nameList tokens = .ok (names, after)) : after.length < tokens.length := by
  fun_induction nameList tokens generalizing names after <;> grind [→ qualifiedName_length]

theorem modifiers_length (transitive isStatic : Bool) (tokens : List Token) :
    (modifiers transitive isStatic tokens).2.length ≤ tokens.length := by
  fun_induction modifiers transitive isStatic tokens <;> grind

theorem requirement_length {tokens after : List Token} {r : Requirement}
    (h : requirement tokens = .ok (r, after)) : after.length < tokens.length := by
  have hm := modifiers_length false false tokens
  simp only [requirement, bind, Except.bind] at h
  split at h
  · cases h
  next hq =>
  split at h
  · cases h
  next he =>
  cases h
  have h1 := qualifiedName_length hq
  have h2 := expect_length he
  omega

theorem packageExport_length {tokens after : List Token} {e : PackageExport}
    (h : packageExport tokens = .ok (e, after)) : after.length < tokens.length := by
  simp only [packageExport, bind, Except.bind] at h
  grind [→ qualifiedName_length, → expect_length, → nameList_length]

theorem usedService_length {tokens after : List Token} {service : String}
    (h : usedService tokens = .ok (service, after)) : after.length < tokens.length := by
  simp only [usedService, bind, Except.bind] at h
  grind [→ qualifiedName_length, → expect_length]

theorem provision_length {tokens after : List Token} {p : Provision}
    (h : provision tokens = .ok (p, after)) : after.length < tokens.length := by
  simp only [provision, bind, Except.bind] at h
  grind [→ qualifiedName_length, → expect_length, → nameList_length]

theorem directive_length {t : Token} {rest after : List Token} {d : Directive}
    (h : directive t rest = .ok (d, after)) : after.length < rest.length := by
  simp only [directive, Except.map] at h
  grind [→ requirement_length, → packageExport_length, → usedService_length, → provision_length]

/-- The directives up to the brace that closes the module body. -/
def directives : List Token → Except SourceError (List Directive × List Token)
  | [] => .error (.unexpectedEnd "'\x7d'")
  | t :: rest =>
    if t.kind = .rightBrace then .ok ([], rest)
    else
      match _h : directive t rest with
      | .error error => .error error
      | .ok (d, after) =>
        match directives after with
        | .ok (ds, after) => .ok (d :: ds, after)
        | .error error => .error error
termination_by tokens => tokens.length
decreasing_by
  have := directive_length _h
  simp only [List.length_cons]
  omega

/-! ## The compilation unit -/

/-- The tokens after the first semicolon. -/
def pastSemicolon? : List Token → Option (List Token)
  | [] => none
  | t :: rest => if t.kind = .semicolon then some rest else pastSemicolon? rest

/-- The tokens after the parenthesis that closes `depth` open ones. -/
def pastParens? (depth : Nat) : List Token → Option (List Token)
  | [] => none
  | t :: rest =>
    if t.kind = .leftParen then pastParens? (depth + 1) rest
    else if t.kind = .rightParen then
      if depth ≤ 1 then some rest else pastParens? (depth - 1) rest
    else pastParens? depth rest

theorem pastSemicolon?_length {tokens after : List Token}
    (h : pastSemicolon? tokens = some after) : after.length < tokens.length := by
  fun_induction pastSemicolon? tokens generalizing after <;> grind

theorem pastParens?_length {depth : Nat} {tokens after : List Token}
    (h : pastParens? depth tokens = some after) : after.length < tokens.length := by
  fun_induction pastParens? depth tokens generalizing after <;> grind

/-- An annotation, after its at sign: a name and possibly arguments in parentheses. -/
def annotationEnd (tokens : List Token) : Except SourceError (List Token) :=
  match qualifiedName tokens with
  | .error error => .error error
  | .ok (_, []) => .ok []
  | .ok (_, t :: rest) =>
    if t.kind = .leftParen then
      match pastParens? 1 rest with
      | some after => .ok after
      | none => .error (.unexpectedEnd "')'")
    else .ok (t :: rest)

theorem annotationEnd_length {tokens after : List Token} (h : annotationEnd tokens = .ok after) :
    after.length < tokens.length := by
  unfold annotationEnd at h
  grind [→ qualifiedName_length, → pastParens?_length]

/-- The tokens after the imports. -/
def pastImports : List Token → Except SourceError (List Token)
  | [] => .ok []
  | t :: rest =>
    if isWord "import" t then
      match _h : pastSemicolon? rest with
      | some after => pastImports after
      | none => .error (.unexpectedEnd "';'")
    else .ok (t :: rest)
termination_by tokens => tokens.length
decreasing_by
  have := pastSemicolon?_length _h
  simp only [List.length_cons]
  omega

/-- The tokens after the annotations. -/
def pastAnnotations : List Token → Except SourceError (List Token)
  | [] => .ok []
  | t :: rest =>
    if t.kind = .at then
      match _h : annotationEnd rest with
      | .ok after => pastAnnotations after
      | .error error => .error error
    else .ok (t :: rest)
termination_by tokens => tokens.length
decreasing_by
  have := annotationEnd_length _h
  simp only [List.length_cons]
  omega

/-- The module that a body describes. -/
def ofDirectives (name : String) (isOpen : Bool) (body : List Directive) : ModuleDescriptor where
  name
  isOpen
  requires := body.filterMap fun | .requires r => some r | _ => none
  exports := body.filterMap fun | .exports e => some e | _ => none
  opens := body.filterMap fun | .opens e => some e | _ => none
  uses := body.filterMap fun | .uses s => some s | _ => none
  provides := body.filterMap fun | .provides p => some p | _ => none

/-- A module declaration from its first word to the end of the input. -/
def moduleDeclaration (tokens : List Token) : Except SourceError ModuleDescriptor := do
  let (isOpen, tokens) :=
    match tokens with
    | t :: rest => if isWord "open" t then (true, rest) else (false, t :: rest)
    | [] => (false, [])
  let tokens ←
    match tokens with
    | t :: rest =>
      if isWord "module" t then .ok rest else .error (unexpected "'module'" (t :: rest))
    | [] => .error (unexpected "'module'" [])
  let (name, tokens) ← qualifiedName tokens
  let tokens ← expect .leftBrace "'\x7b'" tokens
  let (body, tokens) ← directives tokens
  match tokens with
  | [] => .ok (ofDirectives name isOpen body)
  | t :: rest => .error (unexpected "end of input" (t :: rest))

/-- A compilation unit: imports, annotations and the declaration. -/
def compilationUnit (tokens : List Token) : Except SourceError ModuleDescriptor := do
  let tokens ← pastImports tokens
  let tokens ← pastAnnotations tokens
  if tokens.isEmpty then .error .missingDeclaration else moduleDeclaration tokens

end Declaration

/-- The module that a source text declares. -/
def parseDeclaration (source : String) (options : ParserOptions) :
    Except SourceError ModuleDescriptor :=
  if options.supportsModules then do
    let tokens ← tokenize source
    Declaration.compilationUnit tokens
  else .error (.modulesUnsupported options.sourceLevel)

end MultiRelease
