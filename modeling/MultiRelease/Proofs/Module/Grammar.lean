import MultiRelease.Module.Declaration

/-!
# The grammar of module declarations

The syntax trees of the compilation units that declare a module, each with the words that it is
written in and with the descriptor that it denotes.  A *word* is a token without its place, since
places only show in errors.

* `CompilationUnit.words` is what a unit looks like, and `CompilationUnit.descriptor` what it means.
  They go down the tree: names (`DottedName`, `NameList`), directives (`Clause`), annotations
  (`Annotation`), and the unit itself.
* `CompilationUnit.isProper` is what the tree does not say by itself.  Imports end at their first
  semicolon and arguments of annotations at the parenthesis that closes them, and beyond that
  nothing is asked of their words.

The parser reads every unit as what it means (`compilationUnit_of_words`), and each function of the
parser reads its part of the grammar: `qualifiedName_of_words`, `nameList_of_words`,
`directive_of_words`, `directives_of_words`, `pastAnnotations_of_words` and so on.  Each says what
is made of the words of the part with any tokens behind them.  Where the end of a part shows only in
the word after it, the lemma has a condition on what follows: no dot after a name, no comma after a
list of names, no identifier after the name of a requirement.  The last one is why `transitive` and
`static` can be told from names that are spelled like them (`modifiers_of_words`).

None of this speaks of texts.  How words are found in a text is the matter of `Layout`.
-/

set_option autoImplicit false

namespace MultiRelease.Declaration

/-! ## Words -/

/-- A token without its place. -/
structure Word where
  kind : TokenKind
  text : String
deriving Repr, DecidableEq

/-- The word of a token. -/
def wordOf (t : Token) : Word := ⟨t.kind, t.lexeme⟩

namespace Word

/-- The word that consists of an identifier. -/
def identifier (text : String) : Word := ⟨.identifier, text⟩

/-- The dot between the segments of a name. -/
def dot : Word := ⟨.dot, "."⟩

/-- The comma between names. -/
def comma : Word := ⟨.comma, ","⟩

/-- The end of an import or a directive. -/
def semicolon : Word := ⟨.semicolon, ";"⟩

/-- The start of an annotation. -/
def atSign : Word := ⟨.at, "@"⟩

/-- The start of the arguments of an annotation. -/
def leftParen : Word := ⟨.leftParen, "("⟩

/-- The end of the arguments of an annotation. -/
def rightParen : Word := ⟨.rightParen, ")"⟩

/-- The start of a module body. -/
def leftBrace : Word := ⟨.leftBrace, "\x7b"⟩

/-- The end of a module body. -/
def rightBrace : Word := ⟨.rightBrace, "\x7d"⟩

end Word

/-! ## Syntax trees -/

/-- A name of identifiers between dots. -/
structure DottedName where
  first : String
  others : List String := []
deriving Repr, DecidableEq

/-- The words of an identifier and of those after it, with dots between them. -/
def segmentWords : String → List String → List Word
  | first, [] => [.identifier first]
  | first, second :: others => .identifier first :: .dot :: segmentWords second others

namespace DottedName

/-- The name as one text. -/
def text (name : DottedName) : String := ".".intercalate (name.first :: name.others)

/-- The words of the name. -/
def words (name : DottedName) : List Word := segmentWords name.first name.others

end DottedName

/-- One or more names. -/
structure NameList where
  first : DottedName
  others : List DottedName := []
deriving Repr, DecidableEq

/-- The words of a name and of those after it, with commas between them. -/
def listWords : DottedName → List DottedName → List Word
  | first, [] => first.words
  | first, second :: others => first.words ++ .comma :: listWords second others

namespace NameList

/-- The names as texts. -/
def texts (names : NameList) : List String := (names.first :: names.others).map (·.text)

/-- The words of the names. -/
def words (names : NameList) : List Word := listWords names.first names.others

end NameList

/-- A modifier of a requirement. -/
inductive Modifier where
  | transitive
  | static
deriving Repr, DecidableEq

/-- The word of a modifier. -/
def Modifier.word : Modifier → Word
  | transitive => .identifier "transitive"
  | static => .identifier "static"

/-- One directive as it is written. -/
inductive Clause where
  | requires (modifiers : List Modifier) (name : DottedName)
  | exports (package : DottedName) (targets : Option NameList)
  | opens (package : DottedName) (targets : Option NameList)
  | uses (service : DottedName)
  | provides (service : DottedName) (implementations : NameList)
deriving Repr, DecidableEq

/-- The words for the targets of a package. -/
def targetWords : Option NameList → List Word
  | none => []
  | some targets => .identifier "to" :: targets.words

/-- The package that a clause makes accessible. -/
def exportOf (package : DottedName) (targets : Option NameList) : PackageExport :=
  ⟨package.text, targets.elim [] (·.texts)⟩

namespace Clause

/-- The keyword of the clause. -/
def keyword : Clause → String
  | requires .. => "requires"
  | exports .. => "exports"
  | opens .. => "opens"
  | uses .. => "uses"
  | provides .. => "provides"

/-- The words between the keyword and the semicolon. -/
def content : Clause → List Word
  | requires modifiers name => modifiers.map Modifier.word ++ name.words
  | exports package targets => package.words ++ targetWords targets
  | opens package targets => package.words ++ targetWords targets
  | uses service => service.words
  | provides service implementations =>
    service.words ++ .identifier "with" :: implementations.words

/-- The words of the clause. -/
def words (clause : Clause) : List Word :=
  .identifier clause.keyword :: clause.content ++ [.semicolon]

/-- The directive that the clause denotes. -/
def directive : Clause → Directive
  | requires modifiers name =>
    .requires ⟨name.text, modifiers.contains .transitive, modifiers.contains .static⟩
  | exports package targets => .exports (exportOf package targets)
  | opens package targets => .opens (exportOf package targets)
  | uses service => .uses service.text
  | provides service implementations => .provides ⟨service.text, implementations.texts⟩

end Clause

/-- How many parentheses are open after some words, if no more of them are closed than were
opened. -/
def openAfter? (depth : Nat) : List Word → Option Nat
  | [] => some depth
  | word :: words =>
    if word.kind = .leftParen then openAfter? (depth + 1) words
    else if word.kind = .rightParen then
      if depth = 0 then none else openAfter? (depth - 1) words
    else openAfter? depth words

/-- An annotation, possibly with arguments. -/
structure Annotation where
  name : DottedName
  arguments : Option (List Word) := none
deriving Repr, DecidableEq

namespace Annotation

/-- The words of the annotation. -/
def words (written : Annotation) : List Word :=
  .atSign :: written.name.words ++
    match written.arguments with
    | none => []
    | some arguments => .leftParen :: arguments ++ [.rightParen]

/-- Whether the parentheses among the arguments are balanced. -/
def isBalanced (written : Annotation) : Bool :=
  written.arguments.all fun arguments => openAfter? 0 arguments = some 0

end Annotation

/-- The words of an import, given those between its keyword and its semicolon. -/
def importWords (words : List Word) : List Word :=
  .identifier "import" :: words ++ [.semicolon]

/-- A compilation unit that declares a module. -/
structure CompilationUnit where
  /-- What the imports say. -/
  imports : List (List Word) := []
  annotations : List Annotation := []
  isOpen : Bool := false
  name : DottedName
  body : List Clause := []
deriving Repr, DecidableEq

namespace CompilationUnit

/-- The words of the module declaration. -/
def declarationWords (unit : CompilationUnit) : List Word :=
  (if unit.isOpen then [.identifier "open"] else []) ++
    .identifier "module" :: unit.name.words ++
    .leftBrace :: unit.body.flatMap (·.words) ++ [.rightBrace]

/-- The words of the unit. -/
def words (unit : CompilationUnit) : List Word :=
  unit.imports.flatMap importWords ++ unit.annotations.flatMap (·.words) ++ unit.declarationWords

/-- Whether imports end at their first semicolon, and arguments at the parenthesis that closes
them. -/
def isProper (unit : CompilationUnit) : Bool :=
  unit.imports.all (·.all fun word => word.kind ≠ .semicolon) &&
    unit.annotations.all (·.isBalanced)

/-- The module that the unit declares. -/
def descriptor (unit : CompilationUnit) : ModuleDescriptor :=
  ofDirectives unit.name.text unit.isOpen (unit.body.map (·.directive))

end CompilationUnit

/-! ## Reading names -/

variable {tokens after : List Token}

theorem forall_head_ne {found kind : TokenKind} {lexeme : String} {place : Position}
    (h : found ≠ kind) :
    ∀ t ∈ (⟨found, lexeme, place⟩ :: after : List Token).head?, t.kind ≠ kind := by
  rintro _ ⟨⟩
  exact h

/-- Tokens whose words start with a given word start with a token of it. -/
theorem exists_of_map_eq_cons {word : Word} {words : List Word}
    (h : tokens.map wordOf = word :: words) :
    ∃ place rest, tokens = ⟨word.kind, word.text, place⟩ :: rest ∧ rest.map wordOf = words := by
  obtain ⟨t, rest, rfl, rfl, hrest⟩ := List.map_eq_cons_iff.1 h
  exact ⟨t.place, rest, rfl, hrest⟩

theorem exists_of_map_eq_singleton {word : Word} (h : tokens.map wordOf = [word]) :
    ∃ place, tokens = [⟨word.kind, word.text, place⟩] := by
  obtain ⟨place, rest, rfl, hrest⟩ := exists_of_map_eq_cons h
  rw [List.map_eq_nil_iff.1 hrest]
  exact ⟨place, rfl⟩

theorem nameSegments_of_words {first : String} {others : List String}
    (h : tokens.map wordOf = segmentWords first others)
    (hafter : ∀ t ∈ after.head?, t.kind ≠ .dot) :
    nameSegments (tokens ++ after) = .ok (first :: others, after) := by
  induction others generalizing first tokens with
  | nil =>
    obtain ⟨place, rfl⟩ := exists_of_map_eq_singleton h
    cases after with
    | nil => simp [nameSegments, Word.identifier]
    | cons t after => simp [nameSegments, Word.identifier, hafter t rfl]
  | cons second others ih =>
    obtain ⟨place, rest, rfl, hrest⟩ := exists_of_map_eq_cons h
    obtain ⟨place', rest, rfl, hothers⟩ := exists_of_map_eq_cons hrest
    simp [nameSegments, Word.identifier, Word.dot, ih hothers]

/-- **The words of a name are read as the name**, if no dot follows. -/
theorem qualifiedName_of_words (after : List Token) {name : DottedName}
    (h : tokens.map wordOf = name.words) (hafter : ∀ t ∈ after.head?, t.kind ≠ .dot) :
    qualifiedName (tokens ++ after) = .ok (name.text, after) := by
  rw [qualifiedName, nameSegments_of_words h hafter]
  rfl

/-- A name starts with an identifier, and no other identifier comes directly after it. -/
theorem DottedName.exists_head {name : DottedName} (h : tokens.map wordOf = name.words) :
    ∃ t rest, tokens = t :: rest ∧ t.kind = .identifier ∧
      ∀ d ∈ rest.head?, d.kind ≠ .identifier := by
  obtain ⟨first, others⟩ := name
  cases others with
  | nil =>
    obtain ⟨place, rfl⟩ := exists_of_map_eq_singleton h
    exact ⟨_, [], rfl, rfl, fun _ hd => nomatch hd⟩
  | cons second others =>
    obtain ⟨place, rest, rfl, hrest⟩ := exists_of_map_eq_cons h
    obtain ⟨place', rest, rfl, -⟩ := exists_of_map_eq_cons hrest
    exact ⟨_, _, rfl, rfl, forall_head_ne (by decide)⟩

/-- After its first name, a list goes on if a comma follows. -/
theorem nameList_of_qualifiedName {name : String} {rest : List Token}
    (h : qualifiedName tokens = .ok (name, rest)) :
    nameList tokens = match rest with
      | [] => .ok ([name], [])
      | t :: rest =>
        if t.kind = .comma then
          match nameList rest with
          | .ok (names, after) => .ok (name :: names, after)
          | .error error => .error error
        else .ok ([name], t :: rest) := by
  rw [nameList]
  split
  · rename_i hname
    cases hname.symm.trans h
  · rename_i hname
    cases hname.symm.trans h
    rfl
  · rename_i hname
    cases hname.symm.trans h
    rfl

theorem nameList_of_listWords {first : DottedName} {others : List DottedName}
    (h : tokens.map wordOf = listWords first others)
    (hdot : ∀ t ∈ after.head?, t.kind ≠ .dot) (hcomma : ∀ t ∈ after.head?, t.kind ≠ .comma) :
    nameList (tokens ++ after) = .ok ((first :: others).map (·.text), after) := by
  induction others generalizing first tokens with
  | nil =>
    rw [nameList_of_qualifiedName (qualifiedName_of_words _ h hdot)]
    cases after with
    | nil => rfl
    | cons t after => exact if_neg (hcomma t rfl)
  | cons second others ih =>
    obtain ⟨front, rest, rfl, hfront, hrest⟩ := List.map_eq_append_iff.1 h
    obtain ⟨place, rest, rfl, hothers⟩ := exists_of_map_eq_cons hrest
    have hname := qualifiedName_of_words (⟨.comma, ",", place⟩ :: (rest ++ after)) hfront
      (forall_head_ne (by decide))
    rw [List.append_assoc, List.cons_append]
    simp [Word.comma, nameList_of_qualifiedName hname, ih hothers]

/-- The words of a list of names are read as the list, if neither a dot nor a comma follows. -/
theorem nameList_of_words {names : NameList} (h : tokens.map wordOf = names.words)
    (hdot : ∀ t ∈ after.head?, t.kind ≠ .dot) (hcomma : ∀ t ∈ after.head?, t.kind ≠ .comma) :
    nameList (tokens ++ after) = .ok (names.texts, after) :=
  nameList_of_listWords h hdot hcomma

/-! ## Reading directives -/

theorem expect_cons {kind : TokenKind} {what : String} {t : Token} (h : t.kind = kind) :
    expect kind what (t :: after) = .ok after := if_pos h

/-- **Every modifier is read as one**, since an identifier follows each of them, and the name is
not, since none follows it. -/
theorem modifiers_of_words {written : List Modifier} {name : Token} {transitive isStatic : Bool}
    (h : tokens.map wordOf = written.map Modifier.word) (hname : name.kind = .identifier)
    (hafter : ∀ t ∈ after.head?, t.kind ≠ .identifier) :
    modifiers transitive isStatic (tokens ++ name :: after)
      = ((transitive || written.contains .transitive, isStatic || written.contains .static),
        name :: after) := by
  induction written generalizing tokens transitive isStatic with
  | nil =>
    obtain rfl := List.map_eq_nil_iff.1 h
    cases after with
    | nil => simp [modifiers]
    | cons t after => simp [modifiers, hafter t rfl]
  | cons modifier written ih =>
    obtain ⟨place, rest, rfl, hrest⟩ := exists_of_map_eq_cons h
    have hnext : ∃ next others, rest ++ name :: after = next :: others ∧
        next.kind = .identifier := by
      cases written with
      | nil =>
        obtain rfl := List.map_eq_nil_iff.1 hrest
        exact ⟨name, after, rfl, hname⟩
      | cons other written =>
        obtain ⟨place', rest, rfl, -⟩ := exists_of_map_eq_cons hrest
        exact ⟨_, _, rfl, by cases other <;> rfl⟩
    obtain ⟨next, others, hothers, hkind⟩ := hnext
    have ih := @ih rest
    rw [hothers] at ih
    rw [List.cons_append, hothers, modifiers]
    cases modifier with
    | transitive => simp [Modifier.word, Word.identifier, isWord, hkind, ih hrest]
    | static => simp [Modifier.word, Word.identifier, isWord, hkind, ih hrest]

/-- What comes after the content of a clause: the semicolon. -/
theorem exists_of_map_append_semicolon {words : List Word}
    (h : tokens.map wordOf = words ++ [.semicolon]) :
    ∃ front place, tokens = front ++ [⟨.semicolon, ";", place⟩] ∧ front.map wordOf = words := by
  obtain ⟨front, last, rfl, hfront, hlast⟩ := List.map_eq_append_iff.1 h
  obtain ⟨place, rfl⟩ := exists_of_map_eq_singleton hlast
  exact ⟨front, place, rfl, hfront⟩

/-- A requirement is read with the modifiers in front of its name. -/
theorem requirement_of_words {written : List Modifier} {name : DottedName} {place : Position}
    (h : tokens.map wordOf = written.map Modifier.word ++ name.words) :
    requirement (tokens ++ ⟨.semicolon, ";", place⟩ :: after)
      = .ok (⟨name.text, written.contains .transitive, written.contains .static⟩, after) := by
  obtain ⟨front, back, rfl, hfront, hback⟩ := List.map_eq_append_iff.1 h
  obtain ⟨t, rest, rfl, ht, hrest⟩ := DottedName.exists_head hback
  have hnext : ∀ d ∈ (rest ++ ⟨.semicolon, ";", place⟩ :: after).head?,
      d.kind ≠ .identifier := by
    cases rest with
    | nil => exact forall_head_ne (by decide)
    | cons d rest => exact hrest
  have hname : qualifiedName (t :: rest ++ ⟨.semicolon, ";", place⟩ :: after)
      = .ok (name.text, ⟨.semicolon, ";", place⟩ :: after) :=
    qualifiedName_of_words _ hback (forall_head_ne (by decide))
  rw [requirement, List.append_assoc, List.cons_append, modifiers_of_words hfront ht hnext]
  simp only [← List.cons_append, hname, bind, Except.bind, expect_cons, Bool.false_or]

/-- A package is read with the modules that it is meant for, if there are any. -/
theorem packageExport_of_words {package : DottedName} {targets : Option NameList}
    {place : Position} (h : tokens.map wordOf = package.words ++ targetWords targets) :
    packageExport (tokens ++ ⟨.semicolon, ";", place⟩ :: after)
      = .ok (exportOf package targets, after) := by
  obtain ⟨front, back, rfl, hfront, hback⟩ := List.map_eq_append_iff.1 h
  cases targets with
  | none =>
    obtain rfl := List.map_eq_nil_iff.1 hback
    have hname : qualifiedName (front ++ ⟨.semicolon, ";", place⟩ :: after)
        = .ok (package.text, ⟨.semicolon, ";", place⟩ :: after) :=
      qualifiedName_of_words _ hfront (forall_head_ne (by decide))
    rw [packageExport, List.append_nil]
    simp [hname, bind, Except.bind, isWord, expect_cons, exportOf]
  | some targets =>
    obtain ⟨place', rest, rfl, hrest⟩ := exists_of_map_eq_cons hback
    have hname := qualifiedName_of_words (⟨.identifier, "to", place'⟩ ::
      (rest ++ ⟨.semicolon, ";", place⟩ :: after)) hfront
      (forall_head_ne (by decide))
    have hlist : nameList (rest ++ ⟨.semicolon, ";", place⟩ :: after)
        = .ok (targets.texts, ⟨.semicolon, ";", place⟩ :: after) :=
      nameList_of_words hrest (forall_head_ne (by decide))
        (forall_head_ne (by decide))
    rw [packageExport, List.append_assoc, List.cons_append]
    simp [Word.identifier, hname, hlist, bind, Except.bind, isWord, expect_cons, exportOf]

theorem usedService_of_words {service : DottedName} {place : Position}
    (h : tokens.map wordOf = service.words) :
    usedService (tokens ++ ⟨.semicolon, ";", place⟩ :: after) = .ok (service.text, after) := by
  have hname := qualifiedName_of_words (⟨.semicolon, ";", place⟩ :: after) h
    (forall_head_ne (by decide))
  simp only [usedService, hname, bind, Except.bind, expect_cons]

theorem provision_of_words {service : DottedName} {implementations : NameList}
    {place : Position}
    (h : tokens.map wordOf
      = service.words ++ .identifier "with" :: implementations.words) :
    provision (tokens ++ ⟨.semicolon, ";", place⟩ :: after)
      = .ok (⟨service.text, implementations.texts⟩, after) := by
  obtain ⟨front, back, rfl, hfront, hback⟩ := List.map_eq_append_iff.1 h
  obtain ⟨place', rest, rfl, hrest⟩ := exists_of_map_eq_cons hback
  have hname := qualifiedName_of_words (⟨.identifier, "with", place'⟩ ::
    (rest ++ ⟨.semicolon, ";", place⟩ :: after)) hfront
    (forall_head_ne (by decide))
  have hlist : nameList (rest ++ ⟨.semicolon, ";", place⟩ :: after)
      = .ok (implementations.texts, ⟨.semicolon, ";", place⟩ :: after) :=
    nameList_of_words hrest (forall_head_ne (by decide))
      (forall_head_ne (by decide))
  rw [provision, List.append_assoc, List.cons_append]
  simp [Word.identifier, hname, hlist, bind, Except.bind, isWord, expect_cons]

/-- **A clause is read as the directive that it denotes.** -/
theorem directive_of_words (after : List Token) {clause : Clause}
    (h : tokens.map wordOf = clause.words) :
    ∃ t rest, tokens = t :: rest ∧ t.kind = .identifier ∧
      directive t (rest ++ after) = .ok (clause.directive, after) := by
  obtain ⟨place, rest, rfl, hrest⟩ := exists_of_map_eq_cons h
  obtain ⟨content, place', rfl, hcontent⟩ := exists_of_map_append_semicolon hrest
  refine ⟨_, _, rfl, rfl, ?_⟩
  rw [List.append_assoc, List.singleton_append, directive]
  cases clause with
  | requires written name =>
    simp [Clause.keyword, Word.identifier, requirement_of_words hcontent, Except.map,
      Clause.directive]
  | exports package targets =>
    simp [Clause.keyword, Word.identifier, packageExport_of_words hcontent, Except.map,
      Clause.directive]
  | opens package targets =>
    simp [Clause.keyword, Word.identifier, packageExport_of_words hcontent, Except.map,
      Clause.directive]
  | uses service =>
    simp [Clause.keyword, Word.identifier, usedService_of_words hcontent, Except.map,
      Clause.directive]
  | provides service implementations =>
    simp [Clause.keyword, Word.identifier, provision_of_words hcontent, Except.map,
      Clause.directive]

/-- The body goes on with a directive until the brace that closes it. -/
theorem directives_of_directive {t : Token} {rest : List Token} {d : Directive}
    (ht : t.kind ≠ .rightBrace) (h : directive t rest = .ok (d, after)) :
    directives (t :: rest) = (directives after).map fun (ds, after) => (d :: ds, after) := by
  rw [directives, if_neg ht]
  split
  · rename_i hd
    cases hd.symm.trans h
  · rename_i hd
    cases hd.symm.trans h
    cases directives after <;> rfl

/-- The body of a module is read as what its clauses denote, in order. -/
theorem directives_of_words {body : List Clause} {brace : Token}
    (h : tokens.map wordOf = body.flatMap (·.words)) (hbrace : brace.kind = .rightBrace) :
    directives (tokens ++ brace :: after) = .ok (body.map (·.directive), after) := by
  induction body generalizing tokens with
  | nil =>
    obtain rfl := List.map_eq_nil_iff.1 h
    rw [List.nil_append, directives, if_pos hbrace]
    rfl
  | cons clause body ih =>
    obtain ⟨front, back, rfl, hfront, hback⟩ := List.map_eq_append_iff.1 h
    obtain ⟨t, rest, rfl, ht, hdirective⟩ :=
      directive_of_words (back ++ brace :: after) hfront
    rw [List.append_assoc, List.cons_append,
      directives_of_directive (by rw [ht]; exact TokenKind.noConfusion) hdirective, ih hback]
    rfl

/-! ## Reading compilation units -/

theorem pastSemicolon?_of_words {semicolon : Token}
    (h : ∀ t ∈ tokens, t.kind ≠ .semicolon) (hsemicolon : semicolon.kind = .semicolon) :
    pastSemicolon? (tokens ++ semicolon :: after) = some after := by
  induction tokens with
  | nil => exact if_pos hsemicolon
  | cons t tokens ih =>
    rw [List.cons_append, pastSemicolon?, if_neg (h t List.mem_cons_self)]
    exact ih fun t ht => h t (List.mem_cons_of_mem _ ht)

/-- Reading balanced words does not change what is open. -/
theorem pastParens?_of_words {depth last : Nat}
    (h : openAfter? depth (tokens.map wordOf) = some last) :
    pastParens? (depth + 1) (tokens ++ after) = pastParens? (last + 1) after := by
  induction tokens generalizing depth with
  | nil => rw [Option.some_inj.1 h, List.nil_append]
  | cons t tokens ih =>
    rw [List.map_cons, openAfter?] at h
    rw [List.cons_append, pastParens?]
    change (if t.kind = .leftParen then _ else if t.kind = .rightParen then _ else _) = _ at h
    by_cases hleft : t.kind = .leftParen
    · rw [if_pos hleft] at h ⊢
      exact ih h
    · rw [if_neg hleft] at h ⊢
      by_cases hright : t.kind = .rightParen
      · rw [if_pos hright] at h ⊢
        by_cases hdepth : depth = 0
        · rw [if_pos hdepth] at h
          cases h
        · rw [if_neg hdepth] at h
          rw [if_neg (by omega), Nat.add_sub_cancel, ← ih h, Nat.sub_add_cancel (by omega)]
      · rw [if_neg hright] at h ⊢
        exact ih h

theorem annotationEnd_of_words {written : Annotation} (hbalanced : written.isBalanced)
    {words : List Word} (hwords : written.words = .atSign :: words)
    (h : tokens.map wordOf = words)
    (hafter : ∀ t ∈ after.head?, t.kind ≠ .dot ∧ t.kind ≠ .leftParen) :
    annotationEnd (tokens ++ after) = .ok after := by
  obtain ⟨name, arguments⟩ := written
  obtain rfl := (List.cons.inj hwords).2
  obtain ⟨front, back, rfl, hfront, hback⟩ := List.map_eq_append_iff.1 h
  rw [List.append_assoc, annotationEnd]
  cases arguments with
  | none =>
    obtain rfl := List.map_eq_nil_iff.1 hback
    rw [List.nil_append, qualifiedName_of_words _ hfront fun t ht => (hafter t ht).1]
    cases after with
    | nil => rfl
    | cons t after => exact if_neg (hafter t rfl).2
  | some arguments =>
    obtain ⟨place, rest, rfl, hrest⟩ := exists_of_map_eq_cons hback
    obtain ⟨inner, last, rfl, hinner, hlast⟩ := List.map_eq_append_iff.1 hrest
    obtain ⟨place', rfl⟩ := exists_of_map_eq_singleton hlast
    have hopen : openAfter? 0 (inner.map wordOf) = some 0 := by
      rw [hinner]
      exact of_decide_eq_true hbalanced
    have hparens : pastParens? 1 (inner ++ ⟨.rightParen, ")", place'⟩ :: after) = some after := by
      rw [pastParens?_of_words hopen]
      rfl
    have hname := qualifiedName_of_words
      (⟨.leftParen, "(", place⟩ :: (inner ++ ⟨.rightParen, ")", place'⟩ :: after)) hfront
      (forall_head_ne (by decide))
    simp [Word.leftParen, Word.rightParen, hname, hparens]

theorem pastAnnotations_of_annotationEnd {t : Token} {rest : List Token} (ht : t.kind = .at)
    (h : annotationEnd rest = .ok after) : pastAnnotations (t :: rest) = pastAnnotations after := by
  rw [pastAnnotations, if_pos ht]
  split
  · rename_i hend
    cases hend.symm.trans h
    rfl
  · rename_i hend
    cases hend.symm.trans h

/-- Annotations are passed over together with their arguments. -/
theorem pastAnnotations_of_words {annotations : List Annotation}
    (hbalanced : ∀ annotation ∈ annotations, annotation.isBalanced)
    (h : tokens.map wordOf = annotations.flatMap (·.words)) {t : Token}
    (ht : t.kind = .identifier) : pastAnnotations (tokens ++ t :: after) = .ok (t :: after) := by
  induction annotations generalizing tokens with
  | nil =>
    obtain rfl := List.map_eq_nil_iff.1 h
    rw [List.nil_append, pastAnnotations, if_neg (by rw [ht]; exact TokenKind.noConfusion)]
  | cons annotation annotations ih =>
    obtain ⟨front, back, rfl, hfront, hback⟩ := List.map_eq_append_iff.1 h
    obtain ⟨place, rest, rfl, hrest⟩ := exists_of_map_eq_cons hfront
    have hnext : ∀ d ∈ (back ++ t :: after).head?, d.kind ≠ .dot ∧ d.kind ≠ .leftParen := by
      cases annotations with
      | nil =>
        obtain rfl := List.map_eq_nil_iff.1 hback
        rintro _ ⟨⟩
        rw [ht]
        exact ⟨TokenKind.noConfusion, TokenKind.noConfusion⟩
      | cons other annotations =>
        obtain ⟨place', rest', rfl, -⟩ := exists_of_map_eq_cons hback
        rintro _ ⟨⟩
        exact ⟨TokenKind.noConfusion, TokenKind.noConfusion⟩
    have hend := annotationEnd_of_words (hbalanced annotation List.mem_cons_self) rfl hrest hnext
    rw [List.append_assoc, List.cons_append, pastAnnotations_of_annotationEnd rfl hend]
    exact ih (fun other hother => hbalanced other (List.mem_cons_of_mem _ hother)) hback

theorem pastImports_of_pastSemicolon? {t : Token} {rest : List Token}
    (ht : isWord "import" t = true) (h : pastSemicolon? rest = some after) :
    pastImports (t :: rest) = pastImports after := by
  rw [pastImports, if_pos ht]
  split
  · rename_i hpast
    cases hpast.symm.trans h
    rfl
  · rename_i hpast
    cases hpast.symm.trans h

/-- Imports are passed over. -/
theorem pastImports_of_words {imports : List (List Word)}
    (hproper : ∀ words ∈ imports, ∀ word ∈ words, word.kind ≠ .semicolon)
    (h : tokens.map wordOf = imports.flatMap importWords)
    (hafter : ∀ t ∈ after.head?, isWord "import" t = false) :
    pastImports (tokens ++ after) = .ok after := by
  induction imports generalizing tokens with
  | nil =>
    obtain rfl := List.map_eq_nil_iff.1 h
    cases after with
    | nil => simp [pastImports]
    | cons t after => simp [pastImports, hafter t rfl]
  | cons words imports ih =>
    obtain ⟨front, back, rfl, hfront, hback⟩ := List.map_eq_append_iff.1 h
    obtain ⟨place, rest, rfl, hrest⟩ := exists_of_map_eq_cons hfront
    obtain ⟨content, place', rfl, hcontent⟩ := exists_of_map_append_semicolon hrest
    have hkinds : ∀ t ∈ content, t.kind ≠ .semicolon := fun t ht =>
      hproper words List.mem_cons_self (wordOf t) (hcontent ▸ List.mem_map_of_mem ht)
    have hpast : pastSemicolon? (content ++ [⟨.semicolon, ";", place'⟩] ++ (back ++ after))
        = some (back ++ after) := by
      rw [List.append_assoc]
      exact pastSemicolon?_of_words hkinds rfl
    rw [List.append_assoc, List.cons_append, pastImports_of_pastSemicolon? rfl hpast]
    exact ih (fun words hwords => hproper words (List.mem_cons_of_mem _ hwords)) hback

/-- The words of a declaration are read as the module that it declares. -/
theorem moduleDeclaration_of_words {unit : CompilationUnit}
    (h : tokens.map wordOf = unit.declarationWords) :
    moduleDeclaration tokens = .ok unit.descriptor := by
  obtain ⟨imports, annotations, isOpen, name, body⟩ := unit
  obtain ⟨unclosed, last, rfl, hunclosed, hlast⟩ := List.map_eq_append_iff.1 h
  obtain ⟨placeRight, rfl⟩ := exists_of_map_eq_singleton hlast
  obtain ⟨head, braced, rfl, hhead, hbraced⟩ := List.map_eq_append_iff.1 hunclosed
  obtain ⟨placeLeft, inner, rfl, hinner⟩ := exists_of_map_eq_cons hbraced
  obtain ⟨front, named, rfl, hfront, hnamed⟩ := List.map_eq_append_iff.1 hhead
  obtain ⟨placeModule, words, rfl, hwords⟩ := exists_of_map_eq_cons hnamed
  have hname : ∀ after, qualifiedName (words ++ ⟨.leftBrace, "\x7b", placeLeft⟩ :: after)
      = .ok (name.text, ⟨.leftBrace, "\x7b", placeLeft⟩ :: after) := fun after =>
    qualifiedName_of_words _ hwords (forall_head_ne (by decide))
  have hbody : directives (inner ++ [⟨.rightBrace, "\x7d", placeRight⟩])
      = .ok (body.map (·.directive), []) := directives_of_words hinner rfl
  cases isOpen with
  | false =>
    obtain rfl := List.map_eq_nil_iff.1 hfront
    simp [moduleDeclaration, Word.identifier, Word.leftBrace, Word.rightBrace, isWord, hname,
      hbody, bind, Except.bind, expect_cons, CompilationUnit.descriptor]
  | true =>
    obtain ⟨placeOpen, rfl⟩ := exists_of_map_eq_singleton hfront
    simp [moduleDeclaration, Word.identifier, Word.leftBrace, Word.rightBrace, isWord, hname,
      hbody, bind, Except.bind, expect_cons, CompilationUnit.descriptor]

/-- The declaration starts with an identifier that starts no import. -/
theorem CompilationUnit.exists_head {unit : CompilationUnit}
    (h : tokens.map wordOf = unit.declarationWords) :
    ∃ t rest, tokens = t :: rest ∧ t.kind = .identifier ∧ isWord "import" t = false := by
  obtain ⟨imports, annotations, isOpen, name, body⟩ := unit
  cases isOpen with
  | false =>
    obtain ⟨place, rest, rfl, -⟩ := exists_of_map_eq_cons h
    exact ⟨_, _, rfl, rfl, by simp [isWord, Word.identifier]⟩
  | true =>
    obtain ⟨place, rest, rfl, -⟩ := exists_of_map_eq_cons h
    exact ⟨_, _, rfl, rfl, by simp [isWord, Word.identifier]⟩

/-- **A compilation unit is read as the module that it declares.** -/
theorem compilationUnit_of_words {unit : CompilationUnit} (hproper : unit.isProper)
    (h : tokens.map wordOf = unit.words) : compilationUnit tokens = .ok unit.descriptor := by
  obtain ⟨himports, hbalanced⟩ := Bool.and_eq_true_iff.1 hproper
  obtain ⟨front, declaration, rfl, hfront, hdeclaration⟩ := List.map_eq_append_iff.1 h
  obtain ⟨imports, annotations, rfl, himportWords, hannotations⟩ :=
    List.map_eq_append_iff.1 hfront
  obtain ⟨t, rest, rfl, ht, himport⟩ := unit.exists_head hdeclaration
  have hnext : ∀ d ∈ (annotations ++ t :: rest).head?, isWord "import" d = false := by
    cases hunit : unit.annotations with
    | nil =>
      rw [hunit] at hannotations
      obtain rfl := List.map_eq_nil_iff.1 hannotations
      rintro _ ⟨⟩
      exact himport
    | cons annotation others =>
      rw [hunit] at hannotations
      obtain ⟨place, rest', rfl, -⟩ := exists_of_map_eq_cons hannotations
      rintro _ ⟨⟩
      simp [isWord, Word.atSign]
  have hpastImports : pastImports (imports ++ (annotations ++ t :: rest))
      = .ok (annotations ++ t :: rest) :=
    pastImports_of_words (by simpa using himports) himportWords hnext
  have hpastAnnotations : pastAnnotations (annotations ++ t :: rest) = .ok (t :: rest) :=
    pastAnnotations_of_words (List.all_eq_true.1 hbalanced) hannotations ht
  rw [compilationUnit, List.append_assoc]
  simp only [hpastImports, hpastAnnotations, bind, Except.bind, List.isEmpty_cons,
    Bool.false_eq_true, if_false]
  exact moduleDeclaration_of_words hdeclaration

end MultiRelease.Declaration
