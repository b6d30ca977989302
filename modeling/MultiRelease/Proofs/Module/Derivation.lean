import MultiRelease.Proofs.Except
import MultiRelease.Proofs.Module.Lexemes

/-!
# The parser accepts its grammar and nothing else

The main statement is `compilationUnit_eq_ok_iff`: the tokens of a text are accepted exactly if a
compilation unit derives them, and the result is the one module that such units declare.

A unit derives tokens (`CompilationUnit.Derives`) if they are its words.  The rule that tells the
modifiers of a requirement from its name is part of the notion (`MarksModifiers`): each of the words
`transitive` and `static` is a modifier exactly if an identifier follows.  The grammar keeps this
rule by itself, since no identifier follows another one in a name (`marksModifiers`).

That units are read as what they declare is shown in `Grammar`.  Here is the way back.  Every
function of the parser that succeeds has taken the words of a part of the grammar from the front of
its tokens (`Takes`), and what it returns is what this part denotes:

* `exists_of_qualifiedName` and `exists_of_nameList` for names;
* `exists_of_directive` and `exists_of_directives` for the body of a module;
* `exists_of_pastImports` and `exists_of_pastAnnotations` for what is passed over;
* `exists_of_compilationUnit` for the unit.

The parser looks only at the kind of a token such as a semicolon, while a word also has a text.  So
all of this supposes that the tokens are lexemes (`Lexed`), which those of a text are
(`isLexeme_of_tokenize`).  Two units may derive the same tokens only if they declare the same
module, since both are read as what they declare.
-/

set_option autoImplicit false

namespace MultiRelease.Declaration

/-! ## Derivations -/

/-- In what stands between the keyword `requires` and the semicolon, each of the words that may be a
modifier is one exactly if an identifier follows it. -/
def MarksModifiers (modifiers : List Modifier) (name : DottedName) : Prop :=
  ∀ front word next back,
    modifiers.map Modifier.word ++ name.words ++ [.semicolon] = front ++ word :: next :: back →
      word ∈ [Modifier.transitive.word, Modifier.static.word] →
        (front.length < modifiers.length ↔ next.kind = .identifier)

/-- The tokens are the words of the unit. -/
structure CompilationUnit.Derives (unit : CompilationUnit) (tokens : List Token) : Prop where
  /-- Imports end at their first semicolon, and arguments of annotations are balanced. -/
  proper : unit.isProper = true
  words : tokens.map wordOf = unit.words
  modifiers : ∀ modifiers name, .requires modifiers name ∈ unit.body → MarksModifiers modifiers name

/-! ## Taking words -/

/-- All tokens are lexemes. -/
def Lexed (tokens : List Token) : Prop := ∀ t ∈ tokens, (wordOf t).isLexeme = true

/-- The words are those of the tokens in front of the others. -/
def Takes (words : List Word) (tokens after : List Token) : Prop :=
  ∃ front, tokens = front ++ after ∧ front.map wordOf = words

variable {tokens between after : List Token} {t : Token} {words others : List Word}

theorem Takes.nil (tokens : List Token) : Takes [] tokens tokens := ⟨[], rfl, rfl⟩

theorem Takes.cons {word : Word} (ht : wordOf t = word) (h : Takes words tokens after) :
    Takes (word :: words) (t :: tokens) after := by
  obtain ⟨front, rfl, rfl⟩ := h
  exact ⟨t :: front, rfl, by rw [List.map_cons, ht]⟩

/-- One part of the grammar may come after another. -/
theorem Takes.append (h : Takes words tokens between) (hothers : Takes others between after) :
    Takes (words ++ others) tokens after := by
  obtain ⟨front, rfl, rfl⟩ := h
  obtain ⟨back, rfl, rfl⟩ := hothers
  exact ⟨front ++ back, (List.append_assoc ..).symm, List.map_append⟩

theorem Takes.map_eq (h : Takes words tokens []) : tokens.map wordOf = words := by
  obtain ⟨front, rfl, rfl⟩ := h
  rw [List.append_nil]

/-- What remains of lexemes are lexemes. -/
theorem Lexed.rest (hlexed : Lexed tokens) (h : Takes words tokens after) : Lexed after := by
  obtain ⟨front, rfl, -⟩ := h
  exact fun t ht => hlexed t (List.mem_append_right _ ht)

theorem Lexed.tail (hlexed : Lexed (t :: tokens)) : Lexed tokens :=
  fun other hother => hlexed other (List.mem_cons_of_mem _ hother)

/-- A token of a kind that has one text only. -/
theorem Lexed.wordOf_eq (hlexed : Lexed (t :: tokens)) {symbol : Word}
    (hkind : t.kind = symbol.kind) (hsymbol : symbol.isLexeme = true)
    (hone : hasOneText symbol.kind = true) : wordOf t = symbol :=
  Word.eq_of_kind (hlexed t List.mem_cons_self) hsymbol hkind hone

theorem wordOf_eq_of_kind_identifier (h : t.kind = .identifier) :
    wordOf t = .identifier t.lexeme := by
  rw [wordOf, h, Word.identifier]

theorem wordOf_of_isWord {word : String} (h : isWord word t = true) :
    wordOf t = .identifier word := by
  rw [isWord, Bool.and_eq_true, decide_eq_true_eq, decide_eq_true_eq] at h
  rw [wordOf_eq_of_kind_identifier h.1, h.2]

/-! ## What is read as a name -/

/-- Segments of a name are taken with the dots between them. -/
theorem exists_of_nameSegments {segments : List String} (hlexed : Lexed tokens)
    (h : nameSegments tokens = .ok (segments, after)) :
    ∃ first others, segments = first :: others ∧
      Takes (segmentWords first others) tokens after := by
  have hdot : Word.dot.isLexeme = true := by decide
  fun_induction nameSegments tokens generalizing segments after with
  | case1 => cases h
  | case2 t ht =>
    cases h
    exact ⟨t.lexeme, [], rfl, .cons (wordOf_eq_of_kind_identifier ht) (.nil [])⟩
  | case3 => cases h
  | case4 t d rest ht hd segments' after' hrest ih =>
    cases h
    obtain ⟨first, others, rfl, hwords⟩ := ih hlexed.tail.tail hrest
    exact ⟨t.lexeme, first :: others, rfl, .cons (wordOf_eq_of_kind_identifier ht)
      (.cons (hlexed.tail.wordOf_eq hd hdot rfl) hwords)⟩
  | case5 => cases h
  | case6 t d rest ht hd =>
    cases h
    exact ⟨t.lexeme, [], rfl, .cons (wordOf_eq_of_kind_identifier ht) (.nil _)⟩
  | case7 => cases h

/-- **What is read as a name is one.** -/
theorem exists_of_qualifiedName {text : String} (hlexed : Lexed tokens)
    (h : qualifiedName tokens = .ok (text, after)) :
    ∃ name : DottedName, name.text = text ∧ Takes name.words tokens after := by
  unfold qualifiedName at h
  split at h
  · rename_i hsegments
    cases h
    obtain ⟨first, others, rfl, hwords⟩ := exists_of_nameSegments hlexed hsegments
    exact ⟨⟨first, others⟩, rfl, hwords⟩
  · cases h

/-- **What is read as a list of names is one.** -/
theorem exists_of_nameList {texts : List String} (hlexed : Lexed tokens)
    (h : nameList tokens = .ok (texts, after)) :
    ∃ names : NameList, names.texts = texts ∧ Takes names.words tokens after := by
  have hcomma : Word.comma.isLexeme = true := by decide
  fun_induction nameList tokens generalizing texts after with
  | case1 => cases h
  | case2 tokens name hname =>
    cases h
    obtain ⟨name, rfl, hwords⟩ := exists_of_qualifiedName hlexed hname
    exact ⟨⟨name, []⟩, rfl, hwords⟩
  | case3 tokens text t rest hname ht names after' hrest ih =>
    cases h
    obtain ⟨name, rfl, hwords⟩ := exists_of_qualifiedName hlexed hname
    have hafter := hlexed.rest hwords
    obtain ⟨⟨first, others⟩, rfl, hothers⟩ := ih hafter.tail hrest
    exact ⟨⟨name, first :: others⟩, rfl,
      hwords.append (.cons (hafter.wordOf_eq ht hcomma rfl) hothers)⟩
  | case4 => cases h
  | case5 tokens text t rest hname ht =>
    cases h
    obtain ⟨name, rfl, hwords⟩ := exists_of_qualifiedName hlexed hname
    exact ⟨⟨name, []⟩, rfl, hwords⟩

/-! ## What is read as a directive -/

theorem exists_of_expect {kind : TokenKind} {what : String}
    (h : expect kind what tokens = .ok after) : ∃ t, tokens = t :: after ∧ t.kind = kind := by
  unfold expect at h
  split at h
  · cases h
  · split at h
    · rename_i t rest ht
      cases h
      exact ⟨t, rfl, ht⟩
    · cases h

/-- A token of an expected kind that has one text only is a given word. -/
theorem takes_of_expect {symbol : Word} {what : String} (hlexed : Lexed tokens)
    (hsymbol : symbol.isLexeme = true) (hone : hasOneText symbol.kind = true)
    (h : expect symbol.kind what tokens = .ok after) : Takes [symbol] tokens after := by
  obtain ⟨t, rfl, ht⟩ := exists_of_expect h
  exact .cons (hlexed.wordOf_eq ht hsymbol hone) (.nil after)

theorem isLexeme_semicolon : Word.semicolon.isLexeme = true := by decide

/-- What is read as modifiers are the words of some, and what follows them is left. -/
theorem exists_of_modifiers {transitive isStatic : Bool} {found : Bool × Bool}
    (h : modifiers transitive isStatic tokens = (found, after)) :
    ∃ written : List Modifier,
      found = (transitive || written.contains .transitive, isStatic || written.contains .static) ∧
        Takes (written.map Modifier.word) tokens after := by
  fun_induction modifiers transitive isStatic tokens with
  | case1 transitive isStatic t next rest ht ih =>
    rw [Bool.and_eq_true] at ht
    obtain ⟨written, rfl, hwords⟩ := ih h
    exact ⟨.transitive :: written, by simp, .cons (wordOf_of_isWord ht.2) hwords⟩
  | case2 transitive isStatic t next rest _ ht ih =>
    rw [Bool.and_eq_true] at ht
    obtain ⟨written, rfl, hwords⟩ := ih h
    exact ⟨.static :: written, by simp, .cons (wordOf_of_isWord ht.2) hwords⟩
  | case3 =>
    cases h
    exact ⟨[], by simp, .nil _⟩
  | case4 =>
    cases h
    exact ⟨[], by simp, .nil _⟩

theorem exists_of_requirement {r : Requirement} (hlexed : Lexed tokens)
    (h : requirement tokens = .ok (r, after)) :
    ∃ written name, Clause.directive (.requires written name) = .requires r ∧
      Takes (Clause.content (.requires written name) ++ [.semicolon]) tokens after := by
  rw [requirement] at h
  cases hmodifiers : modifiers false false tokens with
  | mk found rest =>
    obtain ⟨written, rfl, hwritten⟩ := exists_of_modifiers hmodifiers
    rw [hmodifiers] at h
    obtain ⟨⟨text, rest'⟩, hname, h⟩ := Except.bind_eq_ok_iff.1 h
    obtain ⟨last, hsemicolon, h⟩ := Except.bind_eq_ok_iff.1 h
    cases h
    have hrest := hlexed.rest hwritten
    obtain ⟨name, rfl, hwords⟩ := exists_of_qualifiedName hrest hname
    have hend := takes_of_expect (hrest.rest hwords) isLexeme_semicolon rfl hsemicolon
    exact ⟨written, name, by simp [Clause.directive], (hwritten.append hwords).append hend⟩

/-- What is read as an exported or opened package is one. -/
theorem exists_of_packageExport {e : PackageExport} (hlexed : Lexed tokens)
    (h : packageExport tokens = .ok (e, after)) :
    ∃ package targets, exportOf package targets = e ∧
      Takes (package.words ++ targetWords targets ++ [.semicolon]) tokens after := by
  rw [packageExport] at h
  obtain ⟨⟨text, rest⟩, hname, h⟩ := Except.bind_eq_ok_iff.1 h
  obtain ⟨package, rfl, hwords⟩ := exists_of_qualifiedName hlexed hname
  have hrest := hlexed.rest hwords
  obtain ⟨targets, rest', hlist, h⟩ : ∃ targets rest', Takes (targetWords targets) rest rest' ∧
      (expect .semicolon "';'" rest' >>= fun last => .ok (exportOf package targets, last))
        = .ok (e, after) := by
    cases rest with
    | nil => exact ⟨none, [], .nil [], h⟩
    | cons t others =>
      dsimp only at h
      split at h
      · rename_i hto
        obtain ⟨⟨texts, rest'⟩, htargets, h⟩ := Except.bind_eq_ok_iff.1 h
        obtain ⟨targets, rfl, hnames⟩ := exists_of_nameList hrest.tail htargets
        exact ⟨some targets, rest', .cons (wordOf_of_isWord hto) hnames, h⟩
      · exact ⟨none, t :: others, .nil _, h⟩
  obtain ⟨last, hsemicolon, h⟩ := Except.bind_eq_ok_iff.1 h
  cases h
  have hend := takes_of_expect (hrest.rest hlist) isLexeme_semicolon rfl hsemicolon
  exact ⟨package, targets, rfl, (hwords.append hlist).append hend⟩

theorem exists_of_usedService {text : String} (hlexed : Lexed tokens)
    (h : usedService tokens = .ok (text, after)) :
    ∃ service : DottedName, service.text = text ∧
      Takes (service.words ++ [.semicolon]) tokens after := by
  rw [usedService] at h
  obtain ⟨⟨text, rest⟩, hname, h⟩ := Except.bind_eq_ok_iff.1 h
  obtain ⟨last, hsemicolon, h⟩ := Except.bind_eq_ok_iff.1 h
  cases h
  obtain ⟨service, rfl, hwords⟩ := exists_of_qualifiedName hlexed hname
  have hend := takes_of_expect (hlexed.rest hwords) isLexeme_semicolon rfl hsemicolon
  exact ⟨service, rfl, hwords.append hend⟩

theorem exists_of_provision {p : Provision} (hlexed : Lexed tokens)
    (h : provision tokens = .ok (p, after)) :
    ∃ service implementations, Clause.directive (.provides service implementations) = .provides p ∧
      Takes (Clause.content (.provides service implementations) ++ [.semicolon]) tokens after := by
  rw [provision] at h
  obtain ⟨⟨text, rest⟩, hname, h⟩ := Except.bind_eq_ok_iff.1 h
  obtain ⟨service, rfl, hwords⟩ := exists_of_qualifiedName hlexed hname
  have hrest := hlexed.rest hwords
  cases rest with
  | nil => cases h
  | cons t others =>
    dsimp only at h
    split at h
    · rename_i hwith
      change (nameList others >>= _) = _ at h
      obtain ⟨⟨texts, rest'⟩, hlist, h⟩ := Except.bind_eq_ok_iff.1 h
      obtain ⟨last, hsemicolon, h⟩ := Except.bind_eq_ok_iff.1 h
      cases h
      obtain ⟨implementations, rfl, hnames⟩ := exists_of_nameList hrest.tail hlist
      have hend := takes_of_expect (hrest.tail.rest hnames) isLexeme_semicolon rfl hsemicolon
      exact ⟨service, implementations, rfl,
        (hwords.append (.cons (wordOf_of_isWord hwith) hnames)).append hend⟩
    · cases h

theorem exists_of_map_eq_ok {α β : Type} {x : Except SourceError (α × List Token)} {f : α → β}
    {b : β} (h : x.map (fun (a, rest) => (f a, rest)) = .ok (b, after)) :
    ∃ a, f a = b ∧ x = .ok (a, after) := by
  cases x with
  | error e => cases h
  | ok found =>
    cases h
    exact ⟨found.1, rfl, rfl⟩

/-- **What is read as a directive is denoted by a clause.** -/
theorem exists_of_directive {rest : List Token} {d : Directive} (hlexed : Lexed (t :: rest))
    (h : directive t rest = .ok (d, after)) :
    ∃ clause : Clause, clause.directive = d ∧ Takes clause.words (t :: rest) after := by
  have hkeyword : ∀ {keyword}, t.lexeme = keyword → isIdentifier keyword = true →
      wordOf t = .identifier keyword :=
    fun hlexeme => Word.eq_identifier (hlexed t List.mem_cons_self) hlexeme
  unfold directive at h
  split at h
  · rename_i hlexeme
    have hword := hkeyword hlexeme (by decide)
    obtain ⟨r, rfl, hr⟩ := exists_of_map_eq_ok h
    obtain ⟨written, name, hdenoted, hwords⟩ := exists_of_requirement hlexed.tail hr
    exact ⟨_, hdenoted, .cons hword hwords⟩
  split at h
  · rename_i hlexeme
    have hword := hkeyword hlexeme (by decide)
    obtain ⟨e, rfl, he⟩ := exists_of_map_eq_ok h
    obtain ⟨package, targets, rfl, hwords⟩ := exists_of_packageExport hlexed.tail he
    exact ⟨.exports package targets, rfl, .cons hword hwords⟩
  split at h
  · rename_i hlexeme
    have hword := hkeyword hlexeme (by decide)
    obtain ⟨e, rfl, he⟩ := exists_of_map_eq_ok h
    obtain ⟨package, targets, rfl, hwords⟩ := exists_of_packageExport hlexed.tail he
    exact ⟨.opens package targets, rfl, .cons hword hwords⟩
  split at h
  · rename_i hlexeme
    have hword := hkeyword hlexeme (by decide)
    obtain ⟨service, rfl, hservice⟩ := exists_of_map_eq_ok h
    obtain ⟨name, rfl, hwords⟩ := exists_of_usedService hlexed.tail hservice
    exact ⟨.uses name, rfl, .cons hword hwords⟩
  split at h
  · rename_i hlexeme
    have hword := hkeyword hlexeme (by decide)
    obtain ⟨p, rfl, hp⟩ := exists_of_map_eq_ok h
    obtain ⟨service, implementations, hdenoted, hwords⟩ := exists_of_provision hlexed.tail hp
    exact ⟨_, hdenoted, .cons hword hwords⟩
  · cases h

/-- **What is read as the body of a module is denoted by clauses.** -/
theorem exists_of_directives {ds : List Directive} (hlexed : Lexed tokens)
    (h : directives tokens = .ok (ds, after)) :
    ∃ body : List Clause, body.map (·.directive) = ds ∧
      Takes (body.flatMap (·.words) ++ [.rightBrace]) tokens after := by
  have hbrace : Word.rightBrace.isLexeme = true := by decide
  fun_induction directives tokens generalizing ds after with
  | case1 => cases h
  | case2 t rest ht =>
    cases h
    exact ⟨[], rfl, .cons (hlexed.wordOf_eq ht hbrace rfl) (.nil _)⟩
  | case3 => cases h
  | case4 t rest ht d between hd ds' after' hrest ih =>
    cases h
    obtain ⟨clause, rfl, hclause⟩ := exists_of_directive hlexed hd
    obtain ⟨body, rfl, hbody⟩ := ih (hlexed.rest hclause) hrest
    refine ⟨clause :: body, rfl, ?_⟩
    rw [List.flatMap_cons, List.append_assoc]
    exact hclause.append hbody
  | case5 => cases h

/-! ## What is read as a compilation unit -/

theorem exists_of_pastSemicolon? (hlexed : Lexed tokens)
    (h : pastSemicolon? tokens = some after) :
    ∃ words : List Word, (∀ word ∈ words, word.kind ≠ .semicolon) ∧
      Takes (words ++ [.semicolon]) tokens after := by
  fun_induction pastSemicolon? tokens with
  | case1 => cases h
  | case2 t rest ht =>
    cases h
    exact ⟨[], List.forall_mem_nil _, .cons (hlexed.wordOf_eq ht isLexeme_semicolon rfl) (.nil _)⟩
  | case3 t rest ht ih =>
    obtain ⟨words, hwords, htakes⟩ := ih hlexed.tail h
    exact ⟨wordOf t :: words, List.forall_mem_cons.2 ⟨ht, hwords⟩, .cons rfl htakes⟩

/-- What is passed over in front of the annotations are imports. -/
theorem exists_of_pastImports (hlexed : Lexed tokens) (h : pastImports tokens = .ok after) :
    ∃ imports : List (List Word), (∀ words ∈ imports, ∀ word ∈ words, word.kind ≠ .semicolon) ∧
      Takes (imports.flatMap importWords) tokens after := by
  fun_induction pastImports tokens with
  | case1 =>
    cases h
    exact ⟨[], List.forall_mem_nil _, .nil []⟩
  | case2 t rest ht between hpast ih =>
    obtain ⟨words, hwords, htakes⟩ := exists_of_pastSemicolon? hlexed.tail hpast
    obtain ⟨imports, himports, hothers⟩ := ih (hlexed.tail.rest htakes) h
    refine ⟨words :: imports, List.forall_mem_cons.2 ⟨hwords, himports⟩, ?_⟩
    exact (Takes.cons (wordOf_of_isWord ht) htakes).append hothers
  | case3 => cases h
  | case4 =>
    cases h
    exact ⟨[], List.forall_mem_nil _, .nil _⟩

/-- **What is passed over up to the closing parenthesis is balanced.** -/
theorem exists_of_pastParens? {depth : Nat} (hlexed : Lexed tokens)
    (h : pastParens? (depth + 1) tokens = some after) :
    ∃ words : List Word, openAfter? depth words = some 0 ∧
      Takes (words ++ [.rightParen]) tokens after := by
  have hparen : Word.rightParen.isLexeme = true := by decide
  induction tokens generalizing depth with
  | nil => cases h
  | cons t tokens ih =>
    rw [pastParens?] at h
    by_cases hleft : t.kind = .leftParen
    · rw [if_pos hleft] at h
      obtain ⟨words, hopen, htakes⟩ := ih hlexed.tail h
      exact ⟨wordOf t :: words, by simpa [openAfter?, wordOf, hleft] using hopen, .cons rfl htakes⟩
    · rw [if_neg hleft] at h
      by_cases hright : t.kind = .rightParen
      · rw [if_pos hright] at h
        cases depth with
        | zero =>
          cases h
          exact ⟨[], rfl, .cons (hlexed.wordOf_eq hright hparen rfl) (.nil _)⟩
        | succ depth =>
          rw [if_neg (by omega)] at h
          obtain ⟨words, hopen, htakes⟩ := ih hlexed.tail h
          exact ⟨wordOf t :: words, by simpa [openAfter?, wordOf, hright] using hopen,
            .cons rfl htakes⟩
      · rw [if_neg hright] at h
        obtain ⟨words, hopen, htakes⟩ := ih hlexed.tail h
        exact ⟨wordOf t :: words, by simpa [openAfter?, wordOf, hleft, hright] using hopen,
          .cons rfl htakes⟩

theorem exists_of_annotationEnd (hlexed : Lexed (t :: tokens)) (ht : t.kind = .at)
    (h : annotationEnd tokens = .ok after) :
    ∃ annotation : Annotation, annotation.isBalanced = true ∧
      Takes annotation.words (t :: tokens) after := by
  have hat : wordOf t = .atSign := hlexed.wordOf_eq ht (by decide) rfl
  have hparen : Word.leftParen.isLexeme = true := by decide
  unfold annotationEnd at h
  split at h
  · cases h
  · rename_i text hname
    cases h
    obtain ⟨name, rfl, hwords⟩ := exists_of_qualifiedName hlexed.tail hname
    exact ⟨⟨name, none⟩, rfl, (Takes.cons hat hwords).append (.nil [])⟩
  · rename_i text next rest hname
    obtain ⟨name, rfl, hwords⟩ := exists_of_qualifiedName hlexed.tail hname
    have hrest := hlexed.tail.rest hwords
    split at h
    · rename_i hnext
      split at h
      · rename_i hpast
        cases h
        obtain ⟨arguments, hopen, htakes⟩ := exists_of_pastParens? hrest.tail hpast
        refine ⟨⟨name, some arguments⟩, decide_eq_true hopen, (Takes.cons hat hwords).append ?_⟩
        exact .cons (hrest.wordOf_eq hnext hparen rfl) htakes
      · cases h
    · cases h
      exact ⟨⟨name, none⟩, rfl, (Takes.cons hat hwords).append (.nil _)⟩

/-- What is passed over in front of the declaration are annotations. -/
theorem exists_of_pastAnnotations (hlexed : Lexed tokens)
    (h : pastAnnotations tokens = .ok after) :
    ∃ annotations : List Annotation, (∀ annotation ∈ annotations, annotation.isBalanced = true) ∧
      Takes (annotations.flatMap (·.words)) tokens after := by
  fun_induction pastAnnotations tokens with
  | case1 =>
    cases h
    exact ⟨[], List.forall_mem_nil _, .nil []⟩
  | case2 t rest ht between hend ih =>
    obtain ⟨first, hbalanced, hwords⟩ := exists_of_annotationEnd hlexed ht hend
    obtain ⟨others, hothers, hotherWords⟩ := ih (hlexed.rest hwords) h
    exact ⟨first :: others, List.forall_mem_cons.2 ⟨hbalanced, hothers⟩,
      hwords.append hotherWords⟩
  | case3 => cases h
  | case4 =>
    cases h
    exact ⟨[], List.forall_mem_nil _, .nil _⟩

/-- What is read of a module declaration from its name on. -/
theorem exists_of_named {isOpen : Bool} {m : ModuleDescriptor} (hlexed : Lexed tokens)
    (h : (do
      let (name, tokens) ← qualifiedName tokens
      let tokens ← expect .leftBrace "'\x7b'" tokens
      let (body, tokens) ← directives tokens
      match tokens with
      | [] => .ok (ofDirectives name isOpen body)
      | t :: rest => .error (unexpected "end of input" (t :: rest))) = .ok m) :
    ∃ (name : DottedName) (body : List Clause),
      ofDirectives name.text isOpen (body.map (·.directive)) = m ∧
      Takes (name.words ++ .leftBrace :: body.flatMap (·.words) ++ [.rightBrace]) tokens [] := by
  have hbrace : Word.leftBrace.isLexeme = true := by decide
  obtain ⟨⟨text, rest⟩, hname, h⟩ := Except.bind_eq_ok_iff.1 h
  obtain ⟨name, rfl, hwords⟩ := exists_of_qualifiedName hlexed hname
  obtain ⟨rest', hleft, h⟩ := Except.bind_eq_ok_iff.1 h
  have hopening : Takes [.leftBrace] rest rest' :=
    takes_of_expect (hlexed.rest hwords) hbrace rfl hleft
  obtain ⟨⟨ds, rest''⟩, hbody, h⟩ := Except.bind_eq_ok_iff.1 h
  obtain ⟨body, rfl, hclauses⟩ := exists_of_directives ((hlexed.rest hwords).rest hopening) hbody
  cases rest'' with
  | nil =>
    cases h
    refine ⟨name, body, rfl, ?_⟩
    rw [List.append_assoc]
    exact hwords.append (hopening.append hclauses)
  | cons t others => cases h

/-- What is read as a declaration is one, and nothing follows it. -/
theorem exists_of_moduleDeclaration {m : ModuleDescriptor} (hlexed : Lexed tokens)
    (h : moduleDeclaration tokens = .ok m) :
    ∃ isOpen name body, CompilationUnit.descriptor { isOpen, name, body } = m ∧
      Takes (CompilationUnit.declarationWords { isOpen, name, body }) tokens [] := by
  unfold moduleDeclaration at h
  cases tokens with
  | nil => cases h
  | cons t rest =>
    by_cases hopen : isWord "open" t = true
    · cases rest with
      | nil => simp [hopen, bind, Except.bind] at h
      | cons next rest =>
        simp only [hopen, if_true] at h
        split at h
        · rename_i hmodule
          obtain ⟨name, body, rfl, hwords⟩ := exists_of_named hlexed.tail.tail h
          refine ⟨true, name, body, rfl, ?_⟩
          exact .cons (wordOf_of_isWord hopen) (.cons (wordOf_of_isWord hmodule) hwords)
        · cases h
    · simp only [hopen, Bool.false_eq_true, if_false] at h
      split at h
      · rename_i hmodule
        obtain ⟨name, body, rfl, hwords⟩ := exists_of_named hlexed.tail h
        exact ⟨false, name, body, rfl, .cons (wordOf_of_isWord hmodule) hwords⟩
      · cases h

/-- **What is read as a compilation unit is one, and it is read as the module that it declares.** -/
theorem exists_of_compilationUnit {m : ModuleDescriptor} (hlexed : Lexed tokens)
    (h : compilationUnit tokens = .ok m) :
    ∃ unit : CompilationUnit, unit.isProper = true ∧ tokens.map wordOf = unit.words ∧
      unit.descriptor = m := by
  rw [compilationUnit] at h
  obtain ⟨rest, himports, h⟩ := Except.bind_eq_ok_iff.1 h
  obtain ⟨rest', hannotations, h⟩ := Except.bind_eq_ok_iff.1 h
  obtain ⟨imports, hsemicolons, himportWords⟩ := exists_of_pastImports hlexed himports
  have hrest := hlexed.rest himportWords
  obtain ⟨annotations, hbalanced, hannotationWords⟩ := exists_of_pastAnnotations hrest hannotations
  split at h
  · cases h
  · obtain ⟨isOpen, name, body, rfl, hwords⟩ :=
      exists_of_moduleDeclaration (hrest.rest hannotationWords) h
    refine ⟨{ imports, annotations, isOpen, name, body }, ?_,
      ((himportWords.append hannotationWords).append hwords).map_eq, rfl⟩
    simpa [CompilationUnit.isProper] using ⟨hsemicolons, hbalanced⟩

/-! ## Modifiers and names -/

/-- In a name and the semicolon after it, no identifier follows another one. -/
theorem kind_ne_of_segmentWords {first : String} {segments : List String} {front back : List Word}
    {word next : Word}
    (h : segmentWords first segments ++ [.semicolon] = front ++ word :: next :: back)
    (hword : word.kind = .identifier) : next.kind ≠ .identifier := by
  induction segments generalizing first front with
  | nil =>
    cases front with
    | nil =>
      cases h
      exact TokenKind.noConfusion
    | cons _ front => cases front <;> simp [segmentWords] at h
  | cons second segments ih =>
    rw [segmentWords] at h
    match front with
    | [] =>
      obtain ⟨-, rfl, -⟩ : _ ∧ Word.dot = next ∧ _ := by simpa using h
      exact TokenKind.noConfusion
    | [_] =>
      obtain ⟨-, rfl, -⟩ : _ ∧ Word.dot = word ∧ _ := by simpa using h
      cases hword
    | _ :: _ :: front => exact ih (List.cons.inj (List.cons.inj h).2).2

/-- What follows the modifiers starts with an identifier. -/
theorem exists_head_words (name : DottedName) :
    ∃ text rest, name.words ++ [.semicolon] = Word.identifier text :: rest := by
  obtain ⟨first, others⟩ := name
  cases others with
  | nil => exact ⟨first, _, rfl⟩
  | cons second others => exact ⟨first, _, rfl⟩

/-- **Modifiers and name are told apart by what follows them.** -/
theorem marksModifiers (modifiers : List Modifier) (name : DottedName) :
    MarksModifiers modifiers name := by
  have hkind : ∀ modifier : Modifier, modifier.word.kind = .identifier := by
    rintro (_ | _) <;> rfl
  intro front word next back h hword
  have hword : word.kind = .identifier := by
    simp only [List.mem_cons, List.not_mem_nil, or_false] at hword
    rcases hword with rfl | rfl <;> exact hkind _
  induction modifiers generalizing front with
  | nil => exact ⟨fun hlt => absurd hlt (Nat.not_lt_zero _), fun hnext =>
      absurd hnext (kind_ne_of_segmentWords h hword)⟩
  | cons modifier modifiers ih =>
    cases front with
    | cons first front =>
      rw [List.length_cons, List.length_cons, Nat.add_lt_add_iff_right]
      exact ih front (List.cons.inj h).2
    | nil =>
      refine ⟨fun _ => ?_, fun _ => Nat.zero_lt_succ _⟩
      have hrest : modifiers.map Modifier.word ++ name.words ++ [.semicolon] = next :: back :=
        (List.cons.inj h).2
      cases modifiers with
      | nil =>
        obtain ⟨text, rest, hname⟩ := exists_head_words name
        rw [List.map_nil, List.nil_append, hname] at hrest
        rw [← (List.cons.inj hrest).1]
        rfl
      | cons other modifiers =>
        rw [← (List.cons.inj hrest).1]
        exact hkind other

/-! ## Derivations -/

/-- Whatever the modifiers are, the grammar marks them rightly. -/
theorem CompilationUnit.derives_iff {unit : CompilationUnit} :
    unit.Derives tokens ↔ unit.isProper = true ∧ tokens.map wordOf = unit.words :=
  ⟨fun h => ⟨h.proper, h.words⟩, fun ⟨proper, words⟩ =>
    ⟨proper, words, fun modifiers name _ => marksModifiers modifiers name⟩⟩

/-- **The parser accepts the tokens of a text exactly if a compilation unit derives them**, and it
returns the one module that such units declare. -/
theorem compilationUnit_eq_ok_iff {source : String} (h : tokenize source = .ok tokens)
    (m : ModuleDescriptor) : compilationUnit tokens = .ok m ↔
      (∃ unit : CompilationUnit, unit.Derives tokens) ∧
        ∀ unit : CompilationUnit, unit.Derives tokens → unit.descriptor = m := by
  constructor
  · intro hunit
    obtain ⟨unit, hproper, hwords, rfl⟩ := exists_of_compilationUnit (isLexeme_of_tokenize h) hunit
    refine ⟨⟨unit, CompilationUnit.derives_iff.2 ⟨hproper, hwords⟩⟩, fun other hother => ?_⟩
    exact Except.ok.inj ((compilationUnit_of_words hother.proper hother.words).symm.trans hunit)
  · rintro ⟨⟨unit, hunit⟩, hdenoted⟩
    rw [← hdenoted unit hunit]
    exact compilationUnit_of_words hunit.proper hunit.words

/-- The tokens of `import a; @B(()) module m{requires static transitive;}`, where the last word that
may be a modifier is a name. -/
def annotatedTokens : List Token :=
  [(.identifier, "import", 1), (.identifier, "a", 8), (.semicolon, ";", 9), (.at, "@", 11),
    (.identifier, "B", 12), (.leftParen, "(", 13), (.leftParen, "(", 14), (.rightParen, ")", 15),
    (.rightParen, ")", 16), (.identifier, "module", 18), (.identifier, "m", 25),
    (.leftBrace, "\x7b", 26), (.identifier, "requires", 27), (.identifier, "static", 36),
    (.identifier, "transitive", 43), (.semicolon, ";", 53), (TokenKind.rightBrace, "\x7d", 54)].map
      fun (kind, lexeme, column) => ⟨kind, lexeme, ⟨1, column⟩⟩

/-- The unit that derives them. -/
def annotatedUnit : CompilationUnit where
  imports := [[.identifier "a"]]
  annotations := [{ name := ⟨"B", []⟩, arguments := some [.leftParen, .rightParen] }]
  name := ⟨"m", []⟩
  body := [.requires [.static] ⟨"transitive", []⟩]

theorem compilationUnit_eq_ok_iff_sample :
    tokenize "import a; @B(()) module m\x7brequires static transitive;\x7d" = .ok annotatedTokens ∧
      (∃ unit : CompilationUnit, unit.Derives annotatedTokens) ∧
        ∀ unit : CompilationUnit, unit.Derives annotatedTokens →
          unit.descriptor = { name := "m", requires := [⟨"transitive", false, true⟩] } := by
  have htokens : tokenize "import a; @B(()) module m\x7brequires static transitive;\x7d"
      = .ok annotatedTokens := by cbv
  have hunit : compilationUnit annotatedTokens = .ok annotatedUnit.descriptor :=
    compilationUnit_of_words (by decide) (by decide)
  exact ⟨htokens, (compilationUnit_eq_ok_iff htokens _).1 hunit⟩

end MultiRelease.Declaration
