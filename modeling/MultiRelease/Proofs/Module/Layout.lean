import Mathlib.Data.List.Infix
import MultiRelease.Proofs.Module.Grammar

/-!
# How words are laid out in a text

Between its words a source text has *gaps*: blanks, line comments with the line feed that ends them,
and block comments (`GapPiece`).  After the last word there may be one more line comment that the
end of the text ends.  A layout says which words and gaps a text consists of (`Layout.text`).

A word must be one that can stand in a text (`Word.isLexeme`), and it must not run into what follows
it: an identifier would take in further letters and digits, and a slash another slash or an asterisk
(`Word.stopsBefore`).  Blanks keep every word apart from what follows them
(`Word.stopsBefore_of_isBlank`), because no character is both a blank and a part of identifiers.

Main statements:

* `Layout.tokenize_eq`: if no word runs into what follows it, tokenizing the text gives back the
  words with the places where they are laid out (`Layout.tokens`).
* `Layout.exists_tokenize`: places apart, these are the words of the layout.
* `areApart_of_blanks`: with a blank behind each word, no word runs into the next.

The argument goes along the text.  For each kind of piece one lemma says what the tokenizer finds at
its front and where it goes on (`pieceAt_blank`, `pieceAt_identifier` and so on), so that a gap only
moves the place (`tokensFrom_gap`) and a word is a token at its place (`tokensFrom_word`).  An
induction over the words with their gaps puts this together (`tokensFrom_itemsText`).
-/

set_option autoImplicit false

namespace MultiRelease.Declaration

open Text

/-! ## Gaps -/

/-- A piece of the text between words. -/
inductive GapPiece where
  | blank (c : Char)
  /-- A comment up to a line feed. -/
  | lineComment (text : List Char)
  | blockComment (text : List Char)
deriving Repr, DecidableEq

namespace GapPiece

/-- The text of the piece. -/
def text : GapPiece → List Char
  | blank c => [c]
  | lineComment text => '/' :: '/' :: text ++ ['\n']
  | blockComment text => '/' :: '*' :: text ++ ['*', '/']

/-- Whether the piece ends where it says. -/
def isProper : GapPiece → Bool
  | blank c => isBlank c
  | lineComment text => '\n' ∉ text
  | blockComment text => ¬ ['*', '/'] <:+: text

end GapPiece

/-- The text of a gap. -/
def gapText (gap : List GapPiece) : List Char := gap.flatMap (·.text)

/-! ## Lexemes -/

/-- Whether a text is an identifier. -/
def isIdentifier (text : String) : Bool :=
  match text.toList with
  | [] => false
  | c :: rest => isIdentifierStart c && rest.all isIdentifierPart

/-- Whether a text ends at the first quote that closes a literal, on the same line.  A backslash
keeps the character after it from closing or breaking the literal. -/
def closes (quote : Char) : List Char → Bool
  | [] => false
  | ['\\'] => false
  | '\\' :: _ :: rest => closes quote rest
  | c :: rest =>
    if c = '\n' then false else if c = quote then rest.isEmpty else closes quote rest

/-- Whether a text is a literal between quotes. -/
def isQuoted (text : String) : Bool :=
  match text.toList with
  | [] => false
  | quote :: rest => (quote = '\x22' || quote = '\x27') && closes quote rest

/-- Whether a text is a character that is a token of the given kind by itself. -/
def isSymbol (kind : TokenKind) (text : String) : Bool :=
  match text.toList with
  | [c] => symbolKind? c = some kind
  | _ => false

namespace Word

/-- Whether the text of a word is one of its kind. -/
def isLexeme (word : Word) : Bool :=
  (word.kind = .identifier && isIdentifier word.text) ||
    (word.kind = .literal && isQuoted word.text) || isSymbol word.kind word.text

/-- Whether a word ends if the given character follows it. -/
def stopsBefore (word : Word) (c : Char) : Bool :=
  !(word.kind = .identifier && isIdentifierPart c) &&
    !(word.text = "/" && (c = '/' || c = '*'))

end Word

/-! ## Layouts -/

/-- The words of a text with the gap after each. -/
structure Layout where
  /-- The gap before the first word. -/
  lead : List GapPiece := []
  items : List (Word × List GapPiece)
  /-- A line comment that goes up to the end of the text. -/
  trailing : Option (List Char) := none

/-- The text from a word on, and what stands at its end. -/
def itemsText (ending : List Char) : List (Word × List GapPiece) → List Char
  | [] => ending
  | (word, gap) :: items => word.text.toList ++ (gapText gap ++ itemsText ending items)

/-- Whether each word is a lexeme and ends before what follows it. -/
def areApart (ending : List Char) : List (Word × List GapPiece) → Bool
  | [] => true
  | (word, gap) :: items =>
    word.isLexeme && gap.all (·.isProper) &&
      (gapText gap ++ itemsText ending items).head?.all word.stopsBefore &&
      areApart ending items

/-- The tokens that words are, with the first at the given place. -/
def tokensAt (place : Position) : List (Word × List GapPiece) → List Token
  | [] => []
  | (word, gap) :: items =>
    ⟨word.kind, word.text, place⟩ ::
      tokensAt ((place.after word.text.toList).after (gapText gap)) items

namespace Layout

/-- The words of a text. -/
def words (layout : Layout) : List Word := layout.items.map (·.1)

/-- What stands at the end. -/
def ending (layout : Layout) : List Char :=
  layout.trailing.elim [] fun text => '/' :: '/' :: text

/-- The text that is laid out. -/
def text (layout : Layout) : List Char :=
  gapText layout.lead ++ itemsText layout.ending layout.items

/-- The words with their places. -/
def tokens (layout : Layout) : List Token :=
  tokensAt ((⟨1, 1⟩ : Position).after (gapText layout.lead)) layout.items

/-- Whether the gaps are gaps and the words are apart. -/
def isProper (layout : Layout) : Bool :=
  layout.lead.all (·.isProper) && areApart layout.ending layout.items &&
    layout.trailing.all fun text => '\n' ∉ text

end Layout

/-! ## Characters -/

theorem ne_of_holds {p : Char → Bool} {c d : Char} (hc : p c = true) (hd : p d = false) :
    c ≠ d := by
  rintro rfl
  exact Bool.noConfusion (hc.symm.trans hd)

theorem exists_of_covers {ranges : CodePoints} {n : Nat} (h : ranges.covers n = true) :
    ∃ range ∈ ranges, range.1 ≤ n ∧ n ≤ range.2 := by
  induction ranges with
  | nil => cases h
  | cons range ranges ih =>
    obtain ⟨low, high⟩ := range
    rw [CodePoints.covers] at h
    split at h
    · cases h
    · rename_i hlow
      rcases Bool.or_eq_true_iff.1 h with hhigh | hothers
      · exact ⟨_, List.mem_cons_self, Nat.le_of_not_lt hlow, of_decide_eq_true hhigh⟩
      · obtain ⟨range, hmem, hrange⟩ := ih hothers
        exact ⟨range, List.mem_cons_of_mem _ hmem, hrange⟩

/-- A character is in one of two sets at most if no range of one meets a range of the other. -/
theorem has_eq_false_of_disjoint {a b : CodePoints}
    (h : ∀ range ∈ a, ∀ other ∈ b, range.2 < other.1 ∨ other.2 < range.1) {c : Char}
    (ha : a.has c = true) : b.has c = false := by
  rw [← Bool.not_eq_true]
  intro hb
  obtain ⟨range, hrange, hlow, hhigh⟩ := exists_of_covers ha
  obtain ⟨other, hother, hlow', hhigh'⟩ := exists_of_covers hb
  rcases h range hrange other hother with hlt | hlt <;> omega

theorem isAlphanumeric_of_isBlank {c : Char} (h : isBlank c = true) : isAlphanumeric c = false := by
  have halphabetic : ∀ range ∈ blankRanges, ∀ other ∈ alphabeticRanges,
      range.2 < other.1 ∨ other.2 < range.1 := by decide +kernel
  have hnumeric : ∀ range ∈ blankRanges, ∀ other ∈ numericRanges,
      range.2 < other.1 ∨ other.2 < range.1 := by decide +kernel
  rw [isAlphanumeric, isAlphabetic, has_eq_false_of_disjoint halphabetic h,
    has_eq_false_of_disjoint hnumeric h, Bool.or_false]

/-- No blank is a part of an identifier. -/
theorem isIdentifierPart_of_isBlank {c : Char} (h : isBlank c = true) :
    isIdentifierPart c = false := by
  have hline : c ≠ '_' := ne_of_holds h (by decide)
  have hdollar : c ≠ '$' := ne_of_holds h (by decide)
  simp [isIdentifierPart, isAlphanumeric_of_isBlank h, hline, hdollar]

theorem isIdentifierPart_of_isIdentifierStart {c : Char} (h : isIdentifierStart c = true) :
    isIdentifierPart c = true := by
  simp only [isIdentifierStart, isIdentifierPart, isAlphanumeric, Bool.or_eq_true] at h ⊢
  tauto

theorem isBlank_of_isIdentifierStart {c : Char} (h : isIdentifierStart c = true) :
    isBlank c = false := by
  rw [← Bool.not_eq_true]
  intro hblank
  have hpart := isIdentifierPart_of_isBlank hblank
  rw [isIdentifierPart_of_isIdentifierStart h] at hpart
  cases hpart

/-- **A blank keeps every word apart from what follows it.** -/
theorem Word.stopsBefore_of_isBlank (word : Word) {c : Char} (h : isBlank c = true) :
    word.stopsBefore c = true := by
  have hslash : c ≠ '/' := ne_of_holds h (by decide)
  have hstar : c ≠ '*' := ne_of_holds h (by decide)
  simp [stopsBefore, isIdentifierPart_of_isBlank h, hslash, hstar]

/-- A character that is a token by itself is nothing else. -/
theorem plain_of_symbolKind? {c : Char} {kind : TokenKind} (h : symbolKind? c = some kind) :
    isBlank c = false ∧ isIdentifierStart c = false ∧ c ≠ '\x22' ∧ c ≠ '\x27' := by
  have hdigits : ∀ n < 10, isBlank (Char.ofNat (48 + n)) = false ∧
      isIdentifierStart (Char.ofNat (48 + n)) = false ∧ Char.ofNat (48 + n) ≠ '\x22' ∧
      Char.ofNat (48 + n) ≠ '\x27' := by decide
  have hothers : ['=', '+', '-', '[', ']', '<', '>', '?', ':', '&', '|', '!', '~', '^', '%',
      '/'].all (fun c => !isBlank c && !isIdentifierStart c && c != '\x22' && c != '\x27') = true := by
    decide
  unfold symbolKind? at h
  split at h
  iterate 9 decide
  · split at h
    · rename_i hmem
      simpa [and_assoc] using List.all_eq_true.1 hothers c hmem
    · split at h
      · rename_i hdigit
        rw [isDecimalDigit, Bool.and_eq_true, decide_eq_true_eq, decide_eq_true_eq] at hdigit
        have hlow : 48 ≤ c.toNat := UInt32.le_iff_toNat_le.1 hdigit.1
        have hhigh : c.toNat ≤ 57 := UInt32.le_iff_toNat_le.1 hdigit.2
        have hfacts := hdigits (c.toNat - 48) (by omega)
        rwa [Nat.add_sub_cancel' hlow, Char.ofNat_toNat] at hfacts
      · cases h

/-! ## Pieces -/

theorem takeWhile_append_of_head {p : Char → Bool} {front rest : List Char}
    (hfront : ∀ c ∈ front, p c = true) (hrest : ∀ c ∈ rest.head?, p c = false) :
    (front ++ rest).takeWhile p = front := by
  rw [List.takeWhile_append_of_pos hfront]
  cases rest with
  | nil => simp
  | cons c rest => simp [hrest c rfl]

theorem commentLength?_cons {c : Char} {rest : List Char}
    (h : ¬ (c = '*' ∧ rest.head? = some '/')) :
    commentLength? (c :: rest) = (commentLength? rest).map (· + 1) := by
  rw [commentLength?]
  rintro tail rfl rfl
  exact h ⟨rfl, rfl⟩

/-- A block comment goes up to the first mark that closes it. -/
theorem commentLength?_of_notInfix {text : List Char} (h : ¬ ['*', '/'] <:+: text)
    (rest : List Char) : commentLength? (text ++ '*' :: '/' :: rest) = some (text.length + 2) := by
  induction text with
  | nil => rfl
  | cons c text ih =>
    have hcons : ¬ (c = '*' ∧ (text ++ '*' :: '/' :: rest).head? = some '/') := by
      rintro ⟨rfl, hhead⟩
      cases text with
      | nil => exact absurd (Option.some_inj.1 hhead) (by decide)
      | cons d text =>
        obtain rfl : d = '/' := Option.some_inj.1 hhead
        exact h ⟨[], text, rfl⟩
    rw [List.cons_append, commentLength?_cons hcons,
      ih fun hpart => h (hpart.trans (List.infix_cons (List.infix_refl text)))]
    rfl

theorem literalLength?_cons {quote c : Char} (h : c ≠ '\\') (rest : List Char) :
    literalLength? quote (c :: rest)
      = if c = '\n' then none else if c = quote then some 1
        else (literalLength? quote rest).map (· + 1) :=
  literalLength?.eq_4 quote c rest (fun hc => absurd hc h) fun _ _ hc => absurd hc h

/-- A literal goes up to the quote that closes it. -/
theorem literalLength?_of_closes {quote : Char} {body : List Char} (h : closes quote body = true)
    (rest : List Char) : literalLength? quote (body ++ rest) = some body.length := by
  fun_induction closes quote body with
  | case1 => cases h
  | case2 => cases h
  | case3 c body ih => simp [literalLength?, ih h]
  | case4 => cases h
  | case5 body hlast _ hline =>
    obtain rfl := List.isEmpty_iff.1 h
    rw [List.cons_append, literalLength?_cons fun hquote => hlast hquote rfl, if_neg hline,
      if_pos rfl]
    rfl
  | case6 c body hlast hescape hline hquote ih =>
    have hplain : c ≠ '\\' := by
      cases body with
      | nil => exact fun hc => hlast hc rfl
      | cons d body => exact fun hc => hescape d body hc rfl
    rw [List.cons_append, literalLength?_cons hplain, if_neg hline, if_neg hquote, ih h]
    rfl

/-! ## Tokens -/

/-- A piece of a gap only moves the place. -/
theorem tokensFrom_gapPiece {c : Char} {more rest : List Char}
    (h : pieceAt c (more ++ rest) = .ok ⟨none, more.length⟩) (place : Position) :
    tokensFrom place (c :: more ++ rest) = tokensFrom (place.after (c :: more)) rest := by
  rw [List.cons_append, tokensFrom, h]
  dsimp only
  rw [List.take_left, List.drop_left]
  cases tokensFrom (place.after (c :: more)) rest <;> rfl

/-- A token comes before those of the text after it. -/
theorem tokensFrom_token {c : Char} {more rest : List Char} {kind : TokenKind}
    (h : pieceAt c (more ++ rest) = .ok ⟨some kind, more.length⟩) (place : Position) :
    tokensFrom place (c :: more ++ rest)
      = (tokensFrom (place.after (c :: more)) rest).map
          (⟨kind, String.ofList (c :: more), place⟩ :: ·) := by
  rw [List.cons_append, tokensFrom, h]
  dsimp only
  rw [List.take_left, List.drop_left]
  cases tokensFrom (place.after (c :: more)) rest <;> rfl

theorem after_append (place : Position) (front back : List Char) :
    place.after (front ++ back) = (place.after front).after back :=
  List.foldl_append

theorem pieceAt_blank {c : Char} (h : isBlank c = true) (rest : List Char) :
    pieceAt c rest = .ok ⟨none, 0⟩ := if_pos h

theorem pieceAt_lineComment {text rest : List Char} (htext : '\n' ∉ text)
    (hrest : ∀ c ∈ rest.head?, c = '\n') :
    pieceAt '/' ('/' :: text ++ rest) = .ok ⟨none, ('/' :: text).length⟩ := by
  have htake : ('/' :: text ++ rest).takeWhile (· ≠ '\n') = '/' :: text := by
    refine takeWhile_append_of_head (fun c hc => decide_eq_true ?_) fun c hc => ?_
    · rintro rfl
      exact htext (by simpa using hc)
    · simp [hrest c hc]
  rw [pieceAt, if_neg (by decide), if_pos ⟨rfl, rfl⟩, htake]

theorem pieceAt_blockComment {text rest : List Char} (h : ¬ ['*', '/'] <:+: text) :
    pieceAt '/' ('*' :: text ++ ['*', '/'] ++ rest)
      = .ok ⟨none, ('*' :: text ++ ['*', '/']).length⟩ := by
  have hlength : commentLength? (text ++ ['*', '/'] ++ rest) = some (text.length + 2) := by
    rw [List.append_assoc]
    exact commentLength?_of_notInfix h rest
  rw [pieceAt, if_neg (by decide), if_neg (by simp), if_pos ⟨rfl, rfl⟩]
  simp [List.append_assoc] at hlength ⊢
  simp [hlength]

/-- An identifier goes up to the first character that is no part of it. -/
theorem pieceAt_identifier {c : Char} {more rest : List Char} (hc : isIdentifierStart c = true)
    (hmore : ∀ d ∈ more, isIdentifierPart d = true)
    (hrest : ∀ d ∈ rest.head?, isIdentifierPart d = false) :
    pieceAt c (more ++ rest) = .ok ⟨some .identifier, more.length⟩ := by
  have hslash : c ≠ '/' := ne_of_holds hc (by decide)
  have hquote : ¬ (c = '\x22' ∨ c = '\x27') := fun h =>
    h.elim (ne_of_holds hc (by decide)) (ne_of_holds hc (by decide))
  rw [pieceAt, if_neg (by rw [isBlank_of_isIdentifierStart hc]; exact Bool.false_ne_true),
    if_neg fun h => hslash h.1, if_neg fun h => hslash h.1, if_neg hquote, if_pos hc,
    takeWhile_append_of_head hmore hrest]

theorem pieceAt_quoted {quote : Char} {body : List Char} (hquote : quote = '\x22' ∨ quote = '\x27')
    (h : closes quote body = true) (rest : List Char) :
    pieceAt quote (body ++ rest) = .ok ⟨some .literal, body.length⟩ := by
  have hblank : isBlank quote = false := by rcases hquote with rfl | rfl <;> decide
  have hslash : quote ≠ '/' := by rcases hquote with rfl | rfl <;> decide
  rw [pieceAt, if_neg (by rw [hblank]; exact Bool.false_ne_true), if_neg fun h => hslash h.1,
    if_neg fun h => hslash h.1, if_pos hquote, literalLength?_of_closes h]

/-- A slash is a token by itself if it does not start a comment. -/
theorem pieceAt_symbol {c : Char} {kind : TokenKind} (h : symbolKind? c = some kind)
    {rest : List Char} (hrest : c = '/' → ∀ d ∈ rest.head?, d ≠ '/' ∧ d ≠ '*') :
    pieceAt c rest = .ok ⟨some kind, 0⟩ := by
  obtain ⟨hblank, hstart, hquote⟩ := plain_of_symbolKind? h
  have hcomment : ∀ d, d = '/' ∨ d = '*' → ¬ (c = '/' ∧ rest.head? = some d) := by
    rintro d hd ⟨hc, hhead⟩
    obtain ⟨hslash, hstar⟩ := hrest hc d hhead
    exact hd.elim hslash hstar
  rw [pieceAt, if_neg (by rw [hblank]; exact Bool.false_ne_true),
    if_neg (hcomment '/' (.inl rfl)), if_neg (hcomment '*' (.inr rfl)),
    if_neg fun h => h.elim hquote.1 hquote.2,
    if_neg (by rw [hstart]; exact Bool.false_ne_true), h]

theorem tokensFrom_text {piece : GapPiece} (h : piece.isProper = true) (rest : List Char)
    (place : Position) :
    tokensFrom place (piece.text ++ rest) = tokensFrom (place.after piece.text) rest := by
  cases piece with
  | blank c => exact tokensFrom_gapPiece (pieceAt_blank h _) place
  | lineComment text =>
    have hline : '\n' ∉ text := of_decide_eq_true h
    have hcomment : tokensFrom place ('/' :: '/' :: text ++ '\n' :: rest)
        = tokensFrom (place.after ('/' :: '/' :: text)) ('\n' :: rest) :=
      tokensFrom_gapPiece (pieceAt_lineComment hline (by simp)) place
    have hend : ∀ start, tokensFrom start (['\n'] ++ rest)
        = tokensFrom (start.after ['\n']) rest :=
      fun start => tokensFrom_gapPiece (pieceAt_blank (by decide) _) start
    rw [GapPiece.text, List.append_assoc, after_append]
    exact hcomment.trans (hend _)
  | blockComment text =>
    exact tokensFrom_gapPiece (pieceAt_blockComment (of_decide_eq_true h)) place

/-- **A gap disappears.** -/
theorem tokensFrom_gap {gap : List GapPiece} (h : ∀ piece ∈ gap, piece.isProper = true)
    (rest : List Char) (place : Position) :
    tokensFrom place (gapText gap ++ rest) = tokensFrom (place.after (gapText gap)) rest := by
  induction gap generalizing place with
  | nil => rfl
  | cons piece gap ih =>
    rw [gapText, List.flatMap_cons, List.append_assoc,
      tokensFrom_text (h piece List.mem_cons_self), after_append]
    exact ih (fun other hother => h other (List.mem_cons_of_mem _ hother)) _

theorem exists_of_isIdentifier {text : String} (h : isIdentifier text = true) :
    ∃ c more, text.toList = c :: more ∧ isIdentifierStart c = true ∧
      ∀ d ∈ more, isIdentifierPart d = true := by
  rw [isIdentifier] at h
  cases htext : text.toList with
  | nil => simp [htext] at h
  | cons c more =>
    rw [htext] at h
    obtain ⟨hc, hmore⟩ := Bool.and_eq_true_iff.1 h
    exact ⟨c, more, rfl, hc, List.all_eq_true.1 hmore⟩

theorem exists_of_isQuoted {text : String} (h : isQuoted text = true) :
    ∃ quote body, text.toList = quote :: body ∧ (quote = '\x22' ∨ quote = '\x27') ∧
      closes quote body = true := by
  rw [isQuoted] at h
  cases htext : text.toList with
  | nil => simp [htext] at h
  | cons quote body =>
    rw [htext] at h
    obtain ⟨hquote, hbody⟩ := Bool.and_eq_true_iff.1 h
    exact ⟨quote, body, rfl, by simpa using hquote, hbody⟩

theorem exists_of_isSymbol {kind : TokenKind} {text : String} (h : isSymbol kind text = true) :
    ∃ c, text.toList = [c] ∧ symbolKind? c = some kind := by
  unfold isSymbol at h
  split at h
  · rename_i c htext
    exact ⟨c, htext, of_decide_eq_true h⟩
  · cases h

theorem symbolKind?_ne_identifier (c : Char) : symbolKind? c ≠ some .identifier := by
  intro h
  unfold symbolKind? at h
  repeat' split at h
  all_goals cases h

/-- An identifier is no character that is a token by itself. -/
theorem Word.isLexeme_identifier (text : String) :
    (identifier text).isLexeme = isIdentifier text := by
  have hsymbol : isSymbol .identifier text = false := by
    rw [← Bool.not_eq_true]
    intro h
    obtain ⟨c, -, hc⟩ := exists_of_isSymbol h
    exact symbolKind?_ne_identifier c hc
  simp [isLexeme, identifier, hsymbol]

theorem Word.isIdentifierPart_of_stopsBefore {word : Word} (hkind : word.kind = .identifier)
    {c : Char} (h : word.stopsBefore c = true) : isIdentifierPart c = false := by
  simp only [stopsBefore, hkind, decide_true, Bool.true_and, Bool.and_eq_true,
    Bool.not_eq_true'] at h
  exact h.1

/-- **A word that ends before what follows it is a token.** -/
theorem tokensFrom_word {word : Word} (h : word.isLexeme = true) {rest : List Char}
    (hrest : ∀ c ∈ rest.head?, word.stopsBefore c = true) (place : Position) :
    tokensFrom place (word.text.toList ++ rest)
      = (tokensFrom (place.after word.text.toList) rest).map
          (⟨word.kind, word.text, place⟩ :: ·) := by
  obtain ⟨kind, text⟩ := word
  have hpiece : ∃ c more, text.toList = c :: more ∧
      pieceAt c (more ++ rest) = .ok ⟨some kind, more.length⟩ := by
    simp only [Word.isLexeme, Bool.or_eq_true, Bool.and_eq_true, decide_eq_true_eq] at h
    rcases h with (⟨rfl, hidentifier⟩ | ⟨rfl, hquoted⟩) | hsymbol
    · obtain ⟨c, more, htext, hc, hmore⟩ := exists_of_isIdentifier hidentifier
      exact ⟨c, more, htext, pieceAt_identifier hc hmore fun d hd =>
        Word.isIdentifierPart_of_stopsBefore rfl (hrest d hd)⟩
    · obtain ⟨quote, body, htext, hquote, hbody⟩ := exists_of_isQuoted hquoted
      exact ⟨quote, body, htext, pieceAt_quoted hquote hbody rest⟩
    · obtain ⟨c, htext, hc⟩ := exists_of_isSymbol hsymbol
      refine ⟨c, [], htext, pieceAt_symbol hc ?_⟩
      rintro rfl d hd
      have hslash : text = "/" := String.toList_inj.1 htext
      have hstop := hrest d hd
      simp only [Word.stopsBefore, hslash, decide_true, Bool.true_and, Bool.and_eq_true,
        Bool.not_eq_true', Bool.or_eq_false_iff, decide_eq_false_iff_not] at hstop
      exact hstop.2
  obtain ⟨c, more, htext, hpiece⟩ := hpiece
  have hlexeme : String.ofList (c :: more) = text := by rw [← htext, String.ofList_toList]
  dsimp only
  rw [htext, tokensFrom_token hpiece, hlexeme]

theorem isLexeme_of_areApart {ending : List Char} {items : List (Word × List GapPiece)}
    (h : areApart ending items = true) : (items.map (·.1)).all (·.isLexeme) = true := by
  induction items with
  | nil => rfl
  | cons item items ih =>
    simp only [areApart, Bool.and_eq_true] at h
    rw [List.map_cons, List.all_cons, h.1.1.1, ih h.2]
    rfl

/-- **Words that are laid out properly are tokens.**  What stands at the end is tokenized where the
last gap ends. -/
theorem tokensFrom_itemsText {ending : List Char} {items : List (Word × List GapPiece)}
    (h : areApart ending items = true) (place : Position) :
    tokensFrom place (itemsText ending items)
      = (tokensFrom (place.after (itemsText [] items)) ending).map (tokensAt place items ++ ·) := by
  induction items generalizing place with
  | nil =>
    show tokensFrom place ending = (tokensFrom place ending).map ([] ++ ·)
    cases tokensFrom place ending <;> rfl
  | cons item items ih =>
    obtain ⟨word, gap⟩ := item
    simp only [areApart, Bool.and_eq_true, List.all_eq_true] at h
    obtain ⟨⟨⟨hword, hgap⟩, hafter⟩, hitems⟩ := h
    rw [itemsText, tokensFrom_word hword (by simpa [Option.all_eq_true] using hafter),
      tokensFrom_gap hgap, ih hitems, itemsText, after_append, after_append]
    cases tokensFrom _ ending <;> rfl

/-- Where words are laid out does not change what they are. -/
theorem map_wordOf_tokensAt (place : Position) (items : List (Word × List GapPiece)) :
    (tokensAt place items).map wordOf = items.map (·.1) := by
  induction items generalizing place with
  | nil => rfl
  | cons item items ih =>
    rw [tokensAt, List.map_cons, ih]
    rfl

/-- The end of a layout holds no tokens. -/
theorem Layout.tokensFrom_ending {layout : Layout}
    (h : (layout.trailing.all fun text => '\n' ∉ text) = true) (place : Position) :
    tokensFrom place layout.ending = .ok [] := by
  rw [ending]
  cases htrailing : layout.trailing with
  | none => rw [Option.elim_none, tokensFrom]
  | some text =>
    rw [htrailing] at h
    have hline : '\n' ∉ text := of_decide_eq_true h
    have hcomment : tokensFrom place ('/' :: '/' :: text ++ [])
        = tokensFrom (place.after ('/' :: '/' :: text)) [] :=
      tokensFrom_gapPiece (pieceAt_lineComment hline (by simp)) place
    rw [List.append_nil] at hcomment
    rw [Option.elim_some, hcomment, tokensFrom]

/-- **The tokens of a text are the words that are laid out in it, where they are laid out.** -/
theorem Layout.tokenize_eq {layout : Layout} (h : layout.isProper = true) {source : String}
    (htext : source.toList = layout.text) : tokenize source = .ok layout.tokens := by
  simp only [isProper, Bool.and_eq_true, List.all_eq_true] at h
  obtain ⟨⟨hlead, hitems⟩, htrailing⟩ := h
  rw [tokenize, htext, text, tokensFrom_gap hlead, tokensFrom_itemsText hitems,
    tokensFrom_ending htrailing, Except.map, List.append_nil, tokens]

/-- **Tokenizing a text gives back the words that are laid out in it.** -/
theorem Layout.exists_tokenize {layout : Layout} (h : layout.isProper = true) {source : String}
    (htext : source.toList = layout.text) :
    ∃ tokens, tokenize source = .ok tokens ∧ tokens.map wordOf = layout.words :=
  ⟨layout.tokens, layout.tokenize_eq h htext, map_wordOf_tokensAt _ _⟩

/-! ## Texts with one blank after each word -/

/-- Blanks keep all words apart. -/
theorem areApart_of_blanks {words : List Word} (h : words.all (·.isLexeme) = true) :
    areApart [] (words.map fun word => (word, [.blank ' '])) = true := by
  induction words with
  | nil => rfl
  | cons word words ih =>
    rw [List.all_cons, Bool.and_eq_true] at h
    have hblank : (GapPiece.blank ' ').isProper = true := by decide
    simp [areApart, h.1, hblank, gapText, GapPiece.text,
      Word.stopsBefore_of_isBlank word (c := ' ') (by decide), ih h.2]

end MultiRelease.Declaration
