import MultiRelease.Proofs.Module.Layout

/-!
# Tokens are lexemes

Whatever text is tokenized, each token that comes out is a lexeme of its kind
(`isLexeme_of_tokenize`): an identifier, a literal up to the quote that closes it, or one of the
characters that are tokens by themselves.  For one piece this is `isLexeme_of_pieceAt`, which goes
through the branches of the tokenizer, and the tokens of a text follow by induction on its length.

So the kind of a token says what its text is where a kind has one text only (`Word.eq_of_kind`), and
a token whose text is an identifier is one (`Word.eq_identifier`).  The parser looks at kinds in
some places and at texts in others, and with these two facts it makes no difference which of them it
looks at.
-/

set_option autoImplicit false

namespace MultiRelease.Declaration

/-! ## Pieces -/

theorem closes_cons {quote c : Char} (h : c ≠ '\\') (rest : List Char) :
    closes quote (c :: rest)
      = if c = '\n' then false else if c = quote then rest.isEmpty else closes quote rest :=
  closes.eq_4 quote c rest (fun hc => absurd hc h) fun _ _ hc => absurd hc h

/-- A literal goes up to the quote that closes it. -/
theorem closes_of_literalLength? {quote : Char} {rest : List Char} {n : Nat}
    (h : literalLength? quote rest = some n) : closes quote (rest.take n) = true := by
  fun_induction literalLength? quote rest generalizing n with
  | case1 => cases h
  | case2 => cases h
  | case3 c rest ih =>
    obtain ⟨k, hk, rfl⟩ := Option.map_eq_some_iff.1 h
    rw [List.take_succ_cons, List.take_succ_cons, closes]
    exact ih hk
  | case4 => cases h
  | case5 rest hlast hescape hline =>
    obtain rfl := Option.some_inj.1 h
    have hplain : quote ≠ '\\' := by
      cases rest with
      | nil => exact fun hc => hlast hc rfl
      | cons d rest => exact fun hc => hescape d rest hc rfl
    rw [List.take_succ_cons, List.take_zero, closes_cons hplain, if_neg hline, if_pos rfl]
    rfl
  | case6 c rest hlast hescape hline hquote ih =>
    obtain ⟨k, hk, rfl⟩ := Option.map_eq_some_iff.1 h
    have hplain : c ≠ '\\' := by
      cases rest with
      | nil => exact fun hc => hlast hc rfl
      | cons d rest => exact fun hc => hescape d rest hc rfl
    rw [List.take_succ_cons, closes_cons hplain, if_neg hline, if_neg hquote]
    exact ih hk

theorem Word.isLexeme_iff {word : Word} : word.isLexeme = true ↔
    word.kind = .identifier ∧ isIdentifier word.text = true ∨
      word.kind = .literal ∧ isQuoted word.text = true ∨ isSymbol word.kind word.text = true := by
  simp [isLexeme, or_assoc]

/-- What the tokenizer takes for a token of some kind is a lexeme of this kind. -/
theorem isLexeme_of_pieceAt {c : Char} {rest : List Char} {kind : TokenKind} {more : Nat}
    (h : pieceAt c rest = .ok ⟨some kind, more⟩) :
    Word.isLexeme ⟨kind, String.ofList (c :: rest.take more)⟩ = true := by
  rw [Word.isLexeme_iff]
  unfold pieceAt at h
  split at h
  · cases h
  split at h
  · cases h
  split at h
  · split at h <;> cases h
  split at h
  · rename_i hquote
    split at h
    · rename_i hlength
      cases h
      refine .inr (.inl ⟨rfl, ?_⟩)
      rw [isQuoted, String.toList_ofList]
      simpa [closes_of_literalLength? hlength] using hquote
    · cases h
  split at h
  · rename_i hstart
    cases h
    refine .inl ⟨rfl, ?_⟩
    rw [isIdentifier, String.toList_ofList, ← List.prefix_iff_eq_take.1 (List.takeWhile_prefix _)]
    simp [hstart]
  split at h
  · rename_i hsymbol
    cases h
    refine .inr (.inr ?_)
    rw [isSymbol, String.toList_ofList]
    exact decide_eq_true hsymbol
  · cases h

/-! ## Tokens -/

theorem isLexeme_of_tokensFrom {text : List Char} {place : Position} {tokens : List Token}
    (h : tokensFrom place text = .ok tokens) : ∀ t ∈ tokens, (wordOf t).isLexeme = true := by
  fun_induction tokensFrom place text generalizing tokens with
  | case1 =>
    cases h
    exact nofun
  | case2 => cases h
  | case3 => cases h
  | case4 place c rest piece hpiece text found hrest kind hkind =>
    rename_i ih
    cases h
    refine List.forall_mem_cons.2 ⟨?_, ih hrest⟩
    obtain ⟨_, more⟩ := piece
    obtain rfl : _ = some kind := hkind
    exact isLexeme_of_pieceAt hpiece
  | case5 place c rest piece hpiece text found hrest hkind =>
    rename_i ih
    cases h
    exact ih hrest

/-- **Every token of a text is a lexeme.** -/
theorem isLexeme_of_tokenize {source : String} {tokens : List Token}
    (h : tokenize source = .ok tokens) : ∀ t ∈ tokens, (wordOf t).isLexeme = true :=
  isLexeme_of_tokensFrom h

/-! ## Kinds and texts -/

/-- The kinds of tokens that have one text only. -/
def hasOneText : TokenKind → Bool
  | .identifier | .literal | .other => false
  | _ => true

theorem eq_of_symbolKind? {c d : Char} {kind : TokenKind} (hc : symbolKind? c = some kind)
    (hd : symbolKind? d = some kind) (hone : hasOneText kind = true) : c = d := by
  unfold symbolKind? at hc hd
  grind [hasOneText]

/-- A word of a kind that has one text only consists of one character. -/
theorem Word.exists_char {word : Word} (h : word.isLexeme = true)
    (hone : hasOneText word.kind = true) :
    ∃ c, word.text.toList = [c] ∧ symbolKind? c = some word.kind := by
  rcases isLexeme_iff.1 h with ⟨hkind, -⟩ | ⟨hkind, -⟩ | hsymbol
  · rw [hkind] at hone
    cases hone
  · rw [hkind] at hone
    cases hone
  · exact exists_of_isSymbol hsymbol

/-- **A word of a kind that has one text only is the word of this kind.** -/
theorem Word.eq_of_kind {word symbol : Word} (h : word.isLexeme = true)
    (hsymbol : symbol.isLexeme = true) (hkind : word.kind = symbol.kind)
    (hone : hasOneText symbol.kind = true) : word = symbol := by
  obtain ⟨c, htext, hc⟩ := exists_char h (hkind ▸ hone)
  obtain ⟨d, hsymbolText, hd⟩ := exists_char hsymbol hone
  obtain ⟨kind, text⟩ := word
  obtain ⟨_, symbolText⟩ := symbol
  obtain rfl : kind = _ := hkind
  obtain rfl := eq_of_symbolKind? hc hd hone
  have hsame : text = symbolText := String.toList_inj.1 (htext.trans hsymbolText.symm)
  rw [hsame]

/-- **A word whose text is an identifier is one.** -/
theorem Word.eq_identifier {word : Word} {text : String} (h : word.isLexeme = true)
    (htext : word.text = text) (hidentifier : isIdentifier text = true) :
    word = identifier text := by
  obtain ⟨kind, _⟩ := word
  obtain rfl : _ = text := htext
  obtain ⟨c, more, htext, hstart, -⟩ := exists_of_isIdentifier hidentifier
  rcases isLexeme_iff.1 h with ⟨hkind, -⟩ | ⟨-, hquoted⟩ | hsymbol
  · rw [identifier, ← hkind]
  · -- no quote starts an identifier
    obtain ⟨quote, body, hbody, hquote, -⟩ := exists_of_isQuoted hquoted
    obtain rfl : c = quote := (List.cons.inj (htext.symm.trans hbody)).1
    rcases hquote with rfl | rfl <;> exact absurd hstart (by decide)
  · obtain ⟨d, hsingle, hd⟩ := exists_of_isSymbol hsymbol
    obtain rfl : c = d := (List.cons.inj (htext.symm.trans hsingle)).1
    rw [(plain_of_symbolKind? hd).2.1] at hstart
    cases hstart

end MultiRelease.Declaration
