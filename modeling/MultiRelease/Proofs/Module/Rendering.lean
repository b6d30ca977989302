import MultiRelease.Proofs.Module.Layout

/-!
# Module declarations are read back

A source text *renders* a module descriptor (`Renders`) if it lays out the words of a compilation
unit that denotes the descriptor.  The directives of each kind stand in their order, and those of
different kinds may be mixed; modifiers may stand in any order; imports and annotations may come
first, and there may be blanks and comments between all words.  Names are made of identifiers, which
may be words of the grammar as well.

* `parse_of_renders`: every such text is read as the descriptor, at every level that knows modules.
  The tokenizer gives back the words of the unit (`Layout.exists_tokenize`), and the parser reads
  them as what the unit declares (`compilationUnit_of_words`).
* `exists_renders_iff`: a descriptor has such a text exactly if it can be written (`IsWritable`).
  What that takes is that names are made of identifiers, and that every provision has an
  implementation.  An export without targets is one to everybody, so that an empty list of targets
  can be written.

For the second statement a clause is chosen for each directive (`exists_clause`), the directives
stand kind by kind (`directivesOf`), and one blank after each word keeps the words apart.
-/

set_option autoImplicit false

namespace MultiRelease.Declaration

/-- A source text is a way to write a module. -/
def Renders (source : String) (m : ModuleDescriptor) : Prop :=
  ∃ (unit : CompilationUnit) (layout : Layout), unit.isProper = true ∧ unit.descriptor = m ∧
    layout.words = unit.words ∧ layout.isProper = true ∧ source.toList = layout.text

/-- **What a source text renders is what is read from it**, at every level that knows modules. -/
theorem parse_of_renders {source : String} {m : ModuleDescriptor} (h : Renders source m)
    {options : ParserOptions} (hlevel : 9 ≤ options.sourceLevel) :
    parseDeclaration source options = .ok m := by
  obtain ⟨unit, layout, hproper, rfl, hwords, hlayout, htext⟩ := h
  obtain ⟨tokens, htokens, hfound⟩ := layout.exists_tokenize hlayout htext
  have hunit : compilationUnit tokens = .ok unit.descriptor :=
    compilationUnit_of_words hproper (hfound.trans hwords)
  have hsupports : options.supportsModules = true := decide_eq_true hlevel
  rw [parseDeclaration, if_pos hsupports, htokens]
  exact hunit

/-! ## A declaration whose names are words of the grammar -/

/-- A unit in which names look like keywords and modifiers, and literals and comments hold
punctuation. -/
def sampleUnit : CompilationUnit where
  imports := [[.identifier "java", .dot, .identifier "util", .dot, ⟨.star, "*"⟩]]
  annotations := [{ name := ⟨"Deprecated", []⟩,
                    arguments := some [.identifier "since", ⟨.other, "="⟩,
                      ⟨.literal, "\x22(11\x22"⟩] }]
  isOpen := true
  name := ⟨"m", ["transitive"]⟩
  body := [.requires [.static, .transitive] ⟨"static", ["a"]⟩,
    .exports ⟨"to", []⟩ (some ⟨⟨"with", []⟩, [⟨"open", []⟩]⟩),
    .requires [] ⟨"transitive", []⟩, .provides ⟨"with", []⟩ ⟨⟨"b", []⟩, []⟩]

/-- The text of the unit. -/
def sampleSource : String :=
  "import java.util.*; // all\n@Deprecated(since = \x22(11\x22)\topen module m.transitive\x7b" ++
  "requires static /* \x7d */ transitive static . a;exports to to with, open;" ++
  "requires transitive;provides with with b;\x7d//"

/-- The module that the unit declares. -/
def sampleModule : ModuleDescriptor where
  name := "m.transitive"
  isOpen := true
  requires := [⟨"static.a", true, true⟩, ⟨"transitive", false, false⟩]
  exports := [⟨"to", ["with", "open"]⟩]
  provides := [⟨"with", ["b"]⟩]

/-- The gap after each word of the unit. -/
def sampleGaps : List (List GapPiece) :=
  let one : List GapPiece := [.blank ' ']
  [one, [], [], [], [], [], [.blank ' ', .lineComment " all".toList],
    [], [], [], one, one, [], [.blank '\t'],
    one, one, [], [], [], [],
    one, [.blank ' ', .blockComment " \x7d ".toList, .blank ' '], one, one, one, [], [],
    one, one, one, [], one, [], [],
    one, [], [],
    one, one, one, [], [], []]

/-- The layout of the unit. -/
def sampleLayout : Layout where
  items := sampleUnit.words.zip sampleGaps
  trailing := some []

/-- The text is laid out in the words of the unit.  It is put together from the characters of the
layout, which takes fewer steps than to take it apart. -/
theorem toList_sampleSource : sampleSource.toList = sampleLayout.text := by
  have htext : String.ofList sampleLayout.text = sampleSource := by decide +kernel
  rw [← htext, String.toList_ofList]

theorem parse_of_renders_sample :
    Renders sampleSource sampleModule ∧ 9 ≤ (ParserOptions.ofLevel 9).sourceLevel ∧
      parseDeclaration sampleSource (.ofLevel 9) = .ok sampleModule := by
  have hrenders : Renders sampleSource sampleModule :=
    ⟨sampleUnit, sampleLayout, by decide, by decide, by decide, by decide, toList_sampleSource⟩
  exact ⟨hrenders, by decide, parse_of_renders hrenders (by decide)⟩

/-! ## Which modules can be written -/

/-- Whether a text is a name. -/
def IsName (text : String) : Prop :=
  ∃ name : DottedName, name.text = text ∧
    ∀ segment ∈ name.first :: name.others, isIdentifier segment = true

/-- Whether a directive can be written. -/
def Directive.IsWritable : Directive → Prop
  | .requires r => IsName r.name
  | .exports e => IsName e.package ∧ ∀ target ∈ e.targets, IsName target
  | .opens e => IsName e.package ∧ ∀ target ∈ e.targets, IsName target
  | .uses service => IsName service
  | .provides p => IsName p.service ∧ p.implementations ≠ [] ∧ ∀ i ∈ p.implementations, IsName i

/-- The directives of a module, kind by kind. -/
def directivesOf (m : ModuleDescriptor) : List Directive :=
  m.requires.map .requires ++ m.exports.map .exports ++ m.opens.map .opens ++
    m.uses.map .uses ++ m.provides.map .provides

/-- Whether a module can be written. -/
structure IsWritable (m : ModuleDescriptor) : Prop where
  name : IsName m.name
  directives : ∀ d ∈ directivesOf m, d.IsWritable

theorem ofDirectives_directivesOf (m : ModuleDescriptor) :
    ofDirectives m.name m.isOpen (directivesOf m) = m := by
  simp [ofDirectives, directivesOf, List.filterMap_append, List.filterMap_map]

theorem mem_directivesOf_ofDirectives {name : String} {isOpen : Bool} {body : List Directive}
    {d : Directive} : d ∈ directivesOf (ofDirectives name isOpen body) ↔ d ∈ body := by
  cases d
  all_goals
    simp only [directivesOf, ofDirectives, List.mem_append, List.mem_map, List.mem_filterMap]
    grind

theorem DottedName.all_isLexeme_iff {name : DottedName} :
    name.words.all (·.isLexeme) = true ↔
      ∀ segment ∈ name.first :: name.others, isIdentifier segment = true := by
  obtain ⟨first, others⟩ := name
  change (segmentWords first others).all (·.isLexeme) = true ↔
    ∀ segment ∈ first :: others, isIdentifier segment = true
  induction others generalizing first with
  | nil => simp [segmentWords, Word.isLexeme_identifier]
  | cons second others ih =>
    have hdot : Word.dot.isLexeme = true := by decide
    rw [segmentWords]
    simp [Word.isLexeme_identifier, hdot, ih]

theorem NameList.all_isLexeme_iff {names : NameList} :
    names.words.all (·.isLexeme) = true ↔
      ∀ name ∈ names.first :: names.others, name.words.all (·.isLexeme) = true := by
  obtain ⟨first, others⟩ := names
  change (listWords first others).all (·.isLexeme) = true ↔
    ∀ name ∈ first :: others, name.words.all (·.isLexeme) = true
  induction others generalizing first with
  | nil => simp [listWords]
  | cons second others ih =>
    have hcomma : Word.comma.isLexeme = true := by decide
    rw [listWords, List.all_append, List.all_cons, hcomma, Bool.true_and, Bool.and_eq_true, ih,
      List.forall_mem_cons (a := first)]

theorem isName_iff {text : String} :
    IsName text ↔ ∃ name : DottedName, name.text = text ∧ name.words.all (·.isLexeme) = true := by
  simp only [IsName, DottedName.all_isLexeme_iff]

/-- Members can be chosen one by one. -/
theorem exists_map_eq_iff {α β : Type} {f : α → β} {p : α → Prop} {ys : List β} :
    (∃ xs : List α, xs.map f = ys ∧ ∀ x ∈ xs, p x) ↔ ∀ y ∈ ys, ∃ x, f x = y ∧ p x := by
  constructor
  · rintro ⟨xs, rfl, hxs⟩ y hy
    obtain ⟨x, hx, rfl⟩ := List.mem_map.1 hy
    exact ⟨x, rfl, hxs x hx⟩
  · intro h
    induction ys with
    | nil => exact ⟨[], rfl, nofun⟩
    | cons y ys ih =>
      obtain ⟨⟨x, rfl, hx⟩, hys⟩ := List.forall_mem_cons.1 h
      obtain ⟨xs, rfl, hxs⟩ := ih hys
      exact ⟨x :: xs, rfl, List.forall_mem_cons.2 ⟨hx, hxs⟩⟩

/-- Names can be listed if there is one at least. -/
theorem exists_nameList_iff {texts : List String} :
    (∃ names : NameList, names.texts = texts ∧ names.words.all (·.isLexeme) = true) ↔
      texts ≠ [] ∧ ∀ text ∈ texts, IsName text := by
  simp only [isName_iff, ← exists_map_eq_iff, NameList.all_isLexeme_iff]
  constructor
  · rintro ⟨names, rfl, h⟩
    exact ⟨List.cons_ne_nil _ _, _, rfl, h⟩
  · rintro ⟨hne, names, rfl, h⟩
    cases names with
    | nil => exact absurd rfl hne
    | cons first others => exact ⟨⟨first, others⟩, rfl, h⟩

theorem exists_export_iff {e : PackageExport} :
    (∃ (package : DottedName) (targets : Option NameList), exportOf package targets = e ∧
      (package.words ++ targetWords targets).all (·.isLexeme) = true) ↔
      IsName e.package ∧ ∀ target ∈ e.targets, IsName target := by
  have hto : (Word.identifier "to").isLexeme = true := by decide
  obtain ⟨text, texts⟩ := e
  constructor
  · rintro ⟨package, targets, h, hwords⟩
    rw [List.all_append, Bool.and_eq_true] at hwords
    obtain ⟨rfl, rfl⟩ := PackageExport.mk.inj h
    refine ⟨isName_iff.2 ⟨package, rfl, hwords.1⟩, ?_⟩
    cases targets with
    | none => nofun
    | some targets =>
      have htargets : targets.words.all (·.isLexeme) = true := by
        simpa [targetWords, hto] using hwords.2
      exact (exists_nameList_iff.1 ⟨targets, rfl, htargets⟩).2
  · rintro ⟨hpackage, htargets⟩
    obtain ⟨package, rfl, hwords⟩ := isName_iff.1 hpackage
    cases texts with
    | nil => exact ⟨package, none, rfl, by simpa [targetWords] using hwords⟩
    | cons first others =>
      obtain ⟨targets, hnames, htargets⟩ :=
        exists_nameList_iff.2 ⟨List.cons_ne_nil _ _, htargets⟩
      refine ⟨package, some targets, by rw [exportOf, Option.elim_some, hnames], ?_⟩
      rw [List.all_append, targetWords, List.all_cons, hwords, hto, htargets]
      rfl

theorem Clause.all_isLexeme_iff {clause : Clause} :
    clause.words.all (·.isLexeme) = true ↔ clause.content.all (·.isLexeme) = true := by
  have hkeyword : (Word.identifier clause.keyword).isLexeme = true := by
    cases clause <;> rw [keyword] <;> decide
  have hsemicolon : Word.semicolon.isLexeme = true := by decide
  simp [words, hkeyword, hsemicolon]

theorem isLexeme_with : (Word.identifier "with").isLexeme = true := by decide

/-- What a clause of lexemes denotes can be written. -/
theorem Clause.isWritable_directive {clause : Clause}
    (h : clause.words.all (·.isLexeme) = true) : clause.directive.IsWritable := by
  rw [all_isLexeme_iff] at h
  cases clause with
  | requires modifiers name =>
    rw [content, List.all_append, Bool.and_eq_true] at h
    exact isName_iff.2 ⟨name, rfl, h.2⟩
  | exports package targets => exact exists_export_iff.1 ⟨package, targets, rfl, h⟩
  | opens package targets => exact exists_export_iff.1 ⟨package, targets, rfl, h⟩
  | uses service => exact isName_iff.2 ⟨service, rfl, h⟩
  | provides service implementations =>
    rw [content, List.all_append, List.all_cons, isLexeme_with, Bool.true_and,
      Bool.and_eq_true] at h
    exact ⟨isName_iff.2 ⟨service, rfl, h.1⟩, exists_nameList_iff.1 ⟨implementations, rfl, h.2⟩⟩

/-- A directive that can be written is what some clause of lexemes denotes. -/
theorem exists_clause {d : Directive} (h : d.IsWritable) :
    ∃ clause : Clause, clause.directive = d ∧ clause.words.all (·.isLexeme) = true := by
  have hmodifier : ∀ modifier : Modifier, modifier.word.isLexeme = true := by
    rintro (_ | _) <;> decide
  simp only [Clause.all_isLexeme_iff]
  cases d with
  | requires r =>
    obtain ⟨name, hname, hwords⟩ := isName_iff.1 h
    obtain ⟨text, transitive, isStatic⟩ := r
    refine ⟨.requires ((if transitive then [.transitive] else []) ++
      if isStatic then [.static] else []) name, ?_, ?_⟩
    · cases transitive <;> cases isStatic <;> simp_all [Clause.directive]
    · simp [Clause.content, hmodifier, hwords]
  | exports e =>
    obtain ⟨package, targets, rfl, hwords⟩ := exists_export_iff.2 h
    exact ⟨.exports package targets, rfl, hwords⟩
  | opens e =>
    obtain ⟨package, targets, rfl, hwords⟩ := exists_export_iff.2 h
    exact ⟨.opens package targets, rfl, hwords⟩
  | uses service =>
    obtain ⟨name, rfl, hwords⟩ := isName_iff.1 h
    exact ⟨.uses name, rfl, hwords⟩
  | provides p =>
    obtain ⟨name, hname, hwords⟩ := isName_iff.1 h.1
    obtain ⟨implementations, htexts, himplementations⟩ := exists_nameList_iff.2 h.2
    refine ⟨.provides name implementations, ?_, ?_⟩
    · rw [Clause.directive, hname, htexts]
    · rw [Clause.content, List.all_append, List.all_cons, hwords, isLexeme_with,
        himplementations]
      rfl

theorem CompilationUnit.all_isLexeme_declarationWords_iff {unit : CompilationUnit} :
    unit.declarationWords.all (·.isLexeme) = true ↔ unit.name.words.all (·.isLexeme) = true ∧
      ∀ clause ∈ unit.body, clause.words.all (·.isLexeme) = true := by
  have hopen : (Word.identifier "open").isLexeme = true := by decide
  have hmodule : (Word.identifier "module").isLexeme = true := by decide
  have hbraces : Word.leftBrace.isLexeme = true ∧ Word.rightBrace.isLexeme = true := by
    decide
  rw [declarationWords]
  cases unit.isOpen <;>
    simp only [Bool.false_eq_true, if_true, if_false, List.all_append, List.all_cons, List.all_nil,
      List.all_flatMap, hopen, hmodule, hbraces, Bool.true_and, Bool.and_true, Bool.and_eq_true,
      List.all_eq_true]

/-- What a unit of lexemes declares can be written. -/
theorem CompilationUnit.isWritable_descriptor {unit : CompilationUnit}
    (h : unit.words.all (·.isLexeme) = true) : IsWritable unit.descriptor := by
  rw [words, List.all_append, Bool.and_eq_true, all_isLexeme_declarationWords_iff] at h
  obtain ⟨-, hname, hbody⟩ := h
  refine ⟨isName_iff.2 ⟨unit.name, rfl, hname⟩, fun d hd => ?_⟩
  obtain ⟨clause, hclause, rfl⟩ := List.mem_map.1 (mem_directivesOf_ofDirectives.1 hd)
  exact Clause.isWritable_directive (hbody clause hclause)

/-- **A descriptor can be rendered exactly if its names are names and its provisions are not
empty.** -/
theorem exists_renders_iff {m : ModuleDescriptor} :
    (∃ source, Renders source m) ↔ IsWritable m := by
  constructor
  · rintro ⟨source, unit, layout, -, rfl, hwords, hlayout, -⟩
    simp only [Layout.isProper, Bool.and_eq_true] at hlayout
    refine CompilationUnit.isWritable_descriptor ?_
    rw [← hwords]
    exact isLexeme_of_areApart hlayout.1.2
  · rintro ⟨hname, hdirectives⟩
    obtain ⟨name, hname, hwords⟩ := isName_iff.1 hname
    obtain ⟨body, hbody, hclauses⟩ :=
      exists_map_eq_iff.2 fun d hd => exists_clause (hdirectives d hd)
    let unit : CompilationUnit := { isOpen := m.isOpen, name, body }
    have hlexemes : unit.words.all (·.isLexeme) = true :=
      CompilationUnit.all_isLexeme_declarationWords_iff.2 ⟨hwords, hclauses⟩
    let layout : Layout := { items := unit.words.map fun word => (word, [.blank ' ']) }
    refine ⟨String.ofList layout.text, unit, layout, rfl, ?_, ?_, ?_, String.toList_ofList⟩
    · change ofDirectives name.text m.isOpen (body.map (·.directive)) = m
      rw [hname, hbody, ofDirectives_directivesOf]
    · simp [layout, Layout.words, Function.comp_def]
    · simp [layout, Layout.isProper, Layout.ending, areApart_of_blanks hlexemes]

end MultiRelease.Declaration
