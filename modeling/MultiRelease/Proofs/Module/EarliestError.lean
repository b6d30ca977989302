import MultiRelease.Proofs.Module.Following
import MultiRelease.Proofs.Module.Scanning

/-!
# Errors are reported at the earliest token

Where a declaration is rejected, the parser reports the first token with which it had to be
(`isEarliest_of_parseDeclaration`): the tokens in front of it are the first tokens of a declaration
that is accepted, and with it they are so no more.  At the end of the input, everything that is
there can still be completed.

* What can be completed (`IsViable`) and what cannot (`IsHopeless`) is said of texts that are
  accepted, and not of states or of the parser's functions.
* The parser follows the states, so a state was reached in front of the error, and none comes next
  for the token that is reported (`Leads.exists_stuck`).
* No state is a dead end: words lead from it to the end of a unit.  They are written on a line of
  their own after the part of the text that is kept (`exists_tokenize_take`), which leaves all
  tokens in front where they stand, and so `isViable_of_run` finds a text for every state that is
  reached.
* The parser accepts exactly the tokens that lead to the last state
  (`exists_compilationUnit_eq_ok_iff`), so that tokens which lead nowhere are the first tokens of no
  declaration that is accepted (`isHopeless_of_run`).
-/

set_option autoImplicit false

namespace MultiRelease.Declaration

open State Text

variable {s s' : State} {tokens after : List Token} {source : String}

/-! ## Runs of the parser -/

theorem Leads.exists_take (h : Leads s tokens s' after) :
    ∃ i, tokens.drop i = after ∧ s.run ((tokens.take i).map wordOf) = some s' := by
  obtain ⟨_, ⟨front, rfl, rfl⟩, hrun⟩ := h
  exact ⟨front.length, by rw [List.drop_left], by rwa [List.take_left]⟩

theorem Leads.run_map (h : Leads s tokens s' []) : s.run (tokens.map wordOf) = some s' := by
  obtain ⟨words, hwords, hrun⟩ := h
  rwa [hwords.map_eq]

/-- No state comes next for the token that is not expected. -/
theorem Leads.exists_stuck {t : Token} (h : Leads s tokens s' (t :: after))
    (hstuck : s'.next? (wordOf t) = none) :
    ∃ i, tokens[i]? = some t ∧ s.run ((tokens.take i).map wordOf) = some s' ∧
      s.run ((tokens.take (i + 1)).map wordOf) = none := by
  obtain ⟨i, hdrop, hrun⟩ := h.exists_take
  have ht : tokens[i]? = some t := by rw [← List.head?_drop, hdrop]; rfl
  refine ⟨i, ht, hrun, ?_⟩
  rw [List.take_add_one, ht, List.map_append, run_append, hrun]
  simp [run, hstuck]

/-- Words that lead to no state cannot be completed. -/
theorem run_eq_none_of_take {i : Nat} (h : s.run ((tokens.take i).map wordOf) = none)
    (more : List Token) : s.run ((tokens.take i ++ more).map wordOf) = none := by
  rw [List.map_append, run_append, h]
  rfl

/-- **The parser accepts exactly what leads to the end of a unit.** -/
theorem exists_compilationUnit_eq_ok_iff :
    (∃ m, compilationUnit tokens = .ok m) ↔ imports.run (tokens.map wordOf) = some done := by
  have hfollows := follows_compilationUnit tokens
  constructor
  · rintro ⟨m, hm⟩
    obtain ⟨s', hleads, rfl⟩ := hfollows.exists_leads hm
    exact hleads.run_map
  · intro hrun
    generalize compilationUnit tokens = result at hfollows ⊢
    cases hfollows with
    | ok => exact ⟨_, rfl⟩
    | ending what hleads hopen =>
      exact absurd (Option.some.inj (hleads.run_map.symm.trans hrun)) hopen
    | missing hleads hopen =>
      exact absurd (Option.some.inj (hleads.run_map.symm.trans hrun)) hopen
    | token what hleads hstuck =>
      obtain ⟨i, -, -, hnone⟩ := hleads.exists_stuck hstuck
      have hall := run_eq_none_of_take hnone (tokens.drop (i + 1))
      rw [List.take_append_drop, hrun] at hall
      cases hall

/-! ## Going on with a text -/

theorem itemsText_append (ending : List Char) (front back : List (Word × List GapPiece)) :
    itemsText ending (front ++ back) = itemsText (itemsText ending back) front := by
  induction front with
  | nil => rfl
  | cons item front ih =>
    obtain ⟨word, gap⟩ := item
    rw [List.cons_append, itemsText, itemsText, ih]

/-- The first words are kept apart from those after them. -/
theorem areApart_of_append {ending : List Char} {front back : List (Word × List GapPiece)}
    (h : areApart ending (front ++ back) = true) :
    areApart (itemsText ending back) front = true := by
  induction front with
  | nil => rfl
  | cons item front ih =>
    obtain ⟨word, gap⟩ := item
    rw [List.cons_append, areApart, itemsText_append, Bool.and_eq_true] at h
    rw [areApart, h.1, ih h.2, Bool.and_self]

/-- A blank at the end keeps the last word apart from what comes behind. -/
theorem areApart_blank {c : Char} (hc : isBlank c = true) (rest : List Char)
    {items : List (Word × List GapPiece)} (h : areApart [] items = true) :
    areApart (c :: rest) items = true := by
  induction items with
  | nil => rfl
  | cons item items ih =>
    obtain ⟨word, gap⟩ := item
    simp only [areApart, Bool.and_eq_true, Option.all_eq_true] at h ⊢
    obtain ⟨⟨⟨hword, hgap⟩, hafter⟩, hitems⟩ := h
    refine ⟨⟨⟨hword, hgap⟩, fun d hd => ?_⟩, ih hitems⟩
    rw [itemsText_eq, ← List.append_assoc, List.head?_append, Option.or_eq_some_iff] at hd
    rcases hd with hd | ⟨-, hd⟩
    · exact hafter d hd
    · cases hd
      exact word.stopsBefore_of_isBlank hc

theorem tokensAt_take (place : Position) (items : List (Word × List GapPiece)) (i : Nat) :
    (tokensAt place items).take i = tokensAt place (items.take i) := by
  induction items generalizing place i with
  | nil => simp [tokensAt]
  | cons item items ih =>
    cases i with
    | zero => rfl
    | succ i =>
      rw [List.take_succ_cons, tokensAt, tokensAt, List.take_succ_cons, ih]

/-- A line feed and the words, with a blank after each. -/
def lineText (words : List Word) : List Char :=
  '\n' :: itemsText [] (words.map fun word => (word, [.blank ' ']))

/-- Words on a line of their own are tokens, wherever the line stands. -/
theorem exists_tokensFrom_lineText {words : List Word} (h : words.all (·.isLexeme) = true)
    (place : Position) :
    ∃ more, tokensFrom place (lineText words) = .ok more ∧ more.map wordOf = words := by
  have hline : ∀ piece ∈ [GapPiece.blank '\n'], piece.isProper = true := by decide
  have hgap :=
    tokensFrom_gap hline (itemsText [] (words.map fun word => (word, [.blank ' ']))) place
  rw [tokensFrom_itemsText (areApart_of_blanks h), tokensFrom, Except.map, List.append_nil] at hgap
  refine ⟨_, hgap, ?_⟩
  rw [map_wordOf_tokensAt, List.map_map]
  exact List.map_id' words

/-- **The first tokens of a text and any words after them are the tokens of a text.** -/
theorem exists_tokenize_take (h : tokenize source = .ok tokens) (i : Nat) {words : List Word}
    (hwords : words.all (·.isLexeme) = true) :
    ∃ source' more, tokenize source' = .ok (tokens.take i ++ more) ∧ more.map wordOf = words := by
  have hscanned := scanned_tokenize source
  rw [h] at hscanned
  generalize source.toList = text at hscanned
  cases hscanned with
  | accepted layout hproper _ =>
    simp only [Layout.isProper, Bool.and_eq_true, List.all_eq_true] at hproper
    obtain ⟨⟨hlead, hitems⟩, -⟩ := hproper
    rw [← layout.items.take_append_drop i] at hitems
    have hkept : areApart (lineText words) (layout.items.take i) = true :=
      areApart_blank (by decide) _ (areApart_nil (areApart_of_append hitems))
    obtain ⟨more, hmore, hmap⟩ := exists_tokensFrom_lineText hwords
      (((⟨1, 1⟩ : Position).after (gapText layout.lead)).after (itemsText [] (layout.items.take i)))
    let kept := gapText layout.lead ++ itemsText (lineText words) (layout.items.take i)
    refine ⟨String.ofList kept, more, ?_, hmap⟩
    rw [tokenize, String.toList_ofList, tokensFrom_gap hlead, tokensFrom_itemsText hkept, hmore,
      ← layout.tokens_eq, Layout.tokens, tokensAt_take]
    rfl

/-! ## The earliest token -/

/-- The tokens are the first ones of a declaration that is accepted. -/
def IsViable (options : ParserOptions) (front : List Token) : Prop :=
  ∃ source more m, tokenize source = .ok (front ++ more) ∧ parseDeclaration source options = .ok m

/-- No tokens that start with these are accepted. -/
def IsHopeless (front : List Token) : Prop := ∀ more m, compilationUnit (front ++ more) ≠ .ok m

/-- The error is reported at the first token with which the tokens cannot be completed, or else at
the end of tokens that can be. -/
inductive IsEarliest (options : ParserOptions) (tokens : List Token) : SourceError → Prop where
  | ending (what : String) (h : IsViable options tokens) :
      IsEarliest options tokens (.unexpectedEnd what)
  | missing (h : IsViable options tokens) : IsEarliest options tokens .missingDeclaration
  | token (what : String) {i : Nat} {t : Token} (ht : tokens[i]? = some t)
      (hfront : IsViable options (tokens.take i)) (hstuck : IsHopeless (tokens.take (i + 1))) :
      IsEarliest options tokens (.unexpectedToken what t.lexeme t.place)

theorem parseDeclaration_eq {options : ParserOptions} (hlevel : 9 ≤ options.sourceLevel)
    (h : tokenize source = .ok tokens) :
    parseDeclaration source options = compilationUnit tokens := by
  have hsupports : options.supportsModules = true := decide_eq_true hlevel
  rw [parseDeclaration, if_pos hsupports, h]
  rfl

/-- Tokens of a text that lead to a state can be completed, since the state is alive. -/
theorem isViable_of_run {options : ParserOptions} (hlevel : 9 ≤ options.sourceLevel)
    (h : tokenize source = .ok tokens) {i : Nat}
    (hrun : imports.run ((tokens.take i).map wordOf) = some s) :
    IsViable options (tokens.take i) := by
  obtain ⟨words, hwords, hdone⟩ := s.isAlive
  obtain ⟨source', more, hsource', rfl⟩ := exists_tokenize_take h i hwords
  obtain ⟨m, hm⟩ : ∃ m, compilationUnit (tokens.take i ++ more) = .ok m := by
    rw [exists_compilationUnit_eq_ok_iff, List.map_append, run_append, hrun]
    exact hdone
  exact ⟨source', more, m, hsource', (parseDeclaration_eq hlevel hsource').trans hm⟩

theorem isViable_of_run_all {options : ParserOptions} (hlevel : 9 ≤ options.sourceLevel)
    (h : tokenize source = .ok tokens) (hrun : imports.run (tokens.map wordOf) = some s) :
    IsViable options tokens := by
  rw [← tokens.take_length] at hrun ⊢
  exact isViable_of_run hlevel h hrun

/-- Tokens that lead to no state are the first ones of no declaration that is accepted. -/
theorem isHopeless_of_run {i : Nat} (h : imports.run ((tokens.take i).map wordOf) = none) :
    IsHopeless (tokens.take i) := by
  intro more m hm
  have hdone := exists_compilationUnit_eq_ok_iff.1 ⟨m, hm⟩
  rw [run_eq_none_of_take h] at hdone
  cases hdone

/-- **Every error of the parser is reported at the earliest token.** -/
theorem isEarliest_of_parseDeclaration {options : ParserOptions} {e : SourceError}
    (hlevel : 9 ≤ options.sourceLevel) (htokens : tokenize source = .ok tokens)
    (h : parseDeclaration source options = .error e) : IsEarliest options tokens e := by
  have hfollows := follows_compilationUnit tokens
  rw [← parseDeclaration_eq hlevel htokens, h] at hfollows
  cases hfollows with
  | ending what hleads _ => exact .ending what (isViable_of_run_all hlevel htokens hleads.run_map)
  | missing hleads _ => exact .missing (isViable_of_run_all hlevel htokens hleads.run_map)
  | token what hleads hstuck =>
    obtain ⟨i, ht, hrun, hnone⟩ := hleads.exists_stuck hstuck
    exact .token what ht (isViable_of_run hlevel htokens hrun) (isHopeless_of_run hnone)

/-- The tokens of a body in which a directive ends with the brace that closes the body. -/
def unendedTokens : List Token :=
  [(.identifier, "module", 1, 1), (.identifier, "m", 1, 8), (.leftBrace, "\x7b", 1, 10),
    (.identifier, "requires", 2, 2), (.identifier, "a", 2, 11), (.dot, ".", 2, 12),
    (.identifier, "b", 2, 13), (TokenKind.rightBrace, "\x7d", 2, 15)].map
      fun (kind, lexeme, line, column) => ⟨kind, lexeme, ⟨line, column⟩⟩

theorem isEarliest_of_parseDeclaration_sample :
    9 ≤ (ParserOptions.ofLevel 11).sourceLevel ∧
      tokenize "module m \x7b\n requires a.b \x7d" = .ok unendedTokens ∧
      parseDeclaration "module m \x7b\n requires a.b \x7d" (.ofLevel 11)
        = .error (.unexpectedToken "';'" "\x7d" ⟨2, 15⟩) ∧
      IsEarliest (.ofLevel 11) unendedTokens (.unexpectedToken "';'" "\x7d" ⟨2, 15⟩) := by
  have hlevel : 9 ≤ (ParserOptions.ofLevel 11).sourceLevel := by decide
  have htokens : tokenize "module m \x7b\n requires a.b \x7d" = .ok unendedTokens := by cbv
  have herror : parseDeclaration "module m \x7b\n requires a.b \x7d" (.ofLevel 11)
      = .error (.unexpectedToken "';'" "\x7d" ⟨2, 15⟩) := by
    rw [parseDeclaration_eq hlevel htokens]
    simp [unendedTokens, compilationUnit, pastImports, pastAnnotations, moduleDeclaration, isWord,
      qualifiedName, nameSegments, expect, directives, directive, requirement, modifiers,
      unexpected, bind, Except.bind, Except.map]
  exact ⟨hlevel, htokens, herror, isEarliest_of_parseDeclaration hlevel htokens herror⟩

end MultiRelease.Declaration
