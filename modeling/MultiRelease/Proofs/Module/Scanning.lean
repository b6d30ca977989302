import Mathlib.Data.List.TakeWhile
import MultiRelease.Proofs.Module.Lexemes

/-!
# Tokenizing keeps the whole text

The main statement, `scanned_tokenize`, says of every text what tokenizing makes of it (`Scanned`).
Either the text is laid out in words and gaps, and the tokens are these words with the places where
they stand.  Or it is so up to a character at which nothing can start, or at which a comment or
literal starts that has no end, and the error is reported for the place of this character.  In each
layout that is found, every identifier is maximal (`Occurrence.IsMaximal`).

* A place is what it says: one more than the line feeds in front of it, and one more than the
  characters since the last of them (`after_eq_placeAfter`).  It is counted in the text, and not as
  it is kept while scanning.
* `AtFront` lists what can stand at the front of a text, with one constructor for each branch of the
  tokenizer.  It is all that is used of `pieceAt` from then on.
* `exists_parts` cuts a text into words and gaps, piece by piece.  The last part is what the
  tokenizer stops at (`IsEnding`).
* No identifier goes across a boundary between pieces (`IsBoundary`), which is why the identifiers
  that are found are maximal.  Boundaries are kept from piece to piece, because comments end with a
  line feed or a slash, literals with a quote, and no word runs into what follows it
  (`IsBoundary.gap`, `IsBoundary.word`).  A digit that stands in front of an identifier is a literal
  of its own and does not belong to it, since no identifier starts with a digit.
* `closes_iff` says where a literal ends without reference to how it is scanned: at the first quote
  that no backslash stands in front of, backslashes taken in pairs with what they escape.
-/

set_option autoImplicit false

namespace MultiRelease.Declaration

open Text

/-! ## Places -/

/-- The place after a text, counted in the text. -/
def placeAfter (before : List Char) : Position where
  line := 1 + before.count '\n'
  column := 1 + (before.reverse.takeWhile (· ≠ '\n')).length

/-- **The place that is kept while scanning is the one that is counted in the text.** -/
theorem after_eq_placeAfter (before : List Char) :
    (⟨1, 1⟩ : Position).after before = placeAfter before := by
  induction before using List.reverseRecOn with
  | nil => rfl
  | append_singleton before c ih =>
    rw [after_append, ih]
    show (placeAfter before).next c = _
    by_cases hline : c = '\n'
    · simp [Position.next, placeAfter, hline, Nat.add_assoc]
    · have hcount : (before ++ [c]).count '\n' = before.count '\n' := by
        simp [List.count_append, hline]
      simp [Position.next, placeAfter, hline, hcount, Nat.add_assoc]

example : placeAfter ['a', '\n', 'b', 'c'] = ⟨2, 3⟩ := by decide

theorem placeAfter_append (before text : List Char) :
    placeAfter (before ++ text) = (placeAfter before).after text := by
  rw [← after_eq_placeAfter, after_append, after_eq_placeAfter]

/-! ## What stands at the front -/

/-- What follows the longest front on which a condition holds does not go on with it. -/
theorem exists_takeWhile_append (p : Char → Bool) (text : List Char) :
    ∃ after, text = text.takeWhile p ++ after ∧ ∀ d ∈ after.head?, p d = false := by
  refine ⟨text.dropWhile p, List.takeWhile_append_dropWhile.symm, fun d hd => ?_⟩
  have hhead := List.head?_dropWhile_not p text
  rwa [hd] at hhead

theorem notInfix_cons {c : Char} {rest : List Char} (hopen : ∀ tail, c = '*' → rest ≠ '/' :: tail)
    (h : ¬ ['*', '/'] <:+: rest) : ¬ ['*', '/'] <:+: c :: rest := by
  intro hinfix
  rcases List.infix_cons_iff.1 hinfix with ⟨tail, htail⟩ | hinfix
  · obtain ⟨rfl, rfl⟩ := List.cons.inj htail
    exact hopen tail rfl rfl
  · exact h hinfix

/-- A block comment ends at the first mark that closes it. -/
theorem exists_of_commentLength? {text : List Char} {n : Nat} (h : commentLength? text = some n) :
    ∃ comment after, text = comment ++ ['*', '/'] ++ after ∧ ¬ ['*', '/'] <:+: comment ∧
      n = comment.length + 2 := by
  fun_induction commentLength? text generalizing n with
  | case1 => cases h
  | case2 rest => exact ⟨[], rest, rfl, by simp, (Option.some_inj.1 h).symm⟩
  | case3 c rest hopen ih =>
    obtain ⟨k, hk, rfl⟩ := Option.map_eq_some_iff.1 h
    obtain ⟨comment, after, rfl, hcomment, rfl⟩ := ih hk
    refine ⟨c :: comment, after, rfl, notInfix_cons (fun tail hc htail => ?_) hcomment, rfl⟩
    exact hopen (tail ++ ['*', '/'] ++ after) hc (by rw [htail]; rfl)

/-- A block comment without a mark that closes it is open. -/
theorem notInfix_of_commentLength? {text : List Char} (h : commentLength? text = none) :
    ¬ ['*', '/'] <:+: text := by
  fun_induction commentLength? text with
  | case1 => simp
  | case2 => cases h
  | case3 c rest hopen ih =>
    exact notInfix_cons (fun tail hc htail => hopen tail hc htail) (ih (Option.map_eq_none_iff.1 h))

/-- A literal that is nowhere closed is open. -/
theorem not_closes_of_literalLength? {quote : Char} {rest : List Char}
    (h : literalLength? quote rest = none) {body : List Char} (hbody : body <+: rest) :
    closes quote body = false := by
  rw [← Bool.not_eq_true]
  intro hcloses
  obtain ⟨after, rfl⟩ := hbody
  rw [literalLength?_of_closes hcloses] at h
  cases h

/-- What can stand at the front of a text, and what is answered to it.  One constructor for each
branch of `pieceAt`, with what the branch says of the text. -/
inductive AtFront (c : Char) (rest : List Char) : Except (Position → SourceError) Piece → Prop where
  | blank (hblank : isBlank c = true) : AtFront c rest (.ok ⟨none, 0⟩)
  | lineComment {comment after : List Char} (hc : c = '/') (hrest : rest = '/' :: comment ++ after)
      (hline : '\n' ∉ comment) (hafter : ∀ d ∈ after.head?, d = '\n') :
      AtFront c rest (.ok ⟨none, comment.length + 1⟩)
  | blockComment {comment after : List Char} (hc : c = '/')
      (hrest : rest = '*' :: comment ++ ['*', '/'] ++ after)
      (hcomment : ¬ ['*', '/'] <:+: comment) : AtFront c rest (.ok ⟨none, comment.length + 3⟩)
  | openComment {tail : List Char} (hc : c = '/') (hrest : rest = '*' :: tail)
      (hopen : ¬ ['*', '/'] <:+: tail) : AtFront c rest (.error (.unterminated .comment))
  | literal {n : Nat} (hc : c = '\x22' ∨ c = '\x27') (hclosed : literalLength? c rest = some n) :
      AtFront c rest (.ok ⟨some .literal, n⟩)
  | openLiteral (hc : c = '\x22' ∨ c = '\x27')
      (hopen : ∀ body, body <+: rest → closes c body = false) :
      AtFront c rest (.error (.unterminated .literal))
  | identifier {more after : List Char} (hc : isIdentifierStart c = true)
      (hrest : rest = more ++ after) (hafter : ∀ d ∈ after.head?, isIdentifierPart d = false) :
      AtFront c rest (.ok ⟨some .identifier, more.length⟩)
  | symbol {kind : TokenKind} (hc : symbolKind? c = some kind)
      (hrest : c = '/' → ∀ d ∈ rest.head?, d ≠ '/' ∧ d ≠ '*') :
      AtFront c rest (.ok ⟨some kind, 0⟩)
  | unexpected (hblank : isBlank c = false) (hquote : ¬ (c = '\x22' ∨ c = '\x27'))
      (hstart : isIdentifierStart c = false) (hsymbol : symbolKind? c = none) :
      AtFront c rest (.error (.unexpectedChar c))

/-- What is answered is one of the things that can stand at the front. -/
theorem atFront_pieceAt (c : Char) (rest : List Char) : AtFront c rest (pieceAt c rest) := by
  unfold pieceAt
  split
  · rename_i hblank
    exact .blank hblank
  rename_i hblank
  split
  · rename_i hcomment
    obtain ⟨rfl, hslash⟩ := hcomment
    obtain ⟨tail, rfl⟩ := List.head?_eq_some_iff.1 hslash
    obtain ⟨after, hrest, hafter⟩ := exists_takeWhile_append (· ≠ '\n') tail
    have hline : '\n' ∉ tail.takeWhile (· ≠ '\n') := fun hmem => by
      simpa using List.mem_takeWhile_imp hmem
    exact .lineComment rfl (congrArg ('/' :: ·) hrest) hline fun d hd => by simpa using hafter d hd
  rename_i hslash
  split
  · rename_i hcomment
    obtain ⟨rfl, hstar⟩ := hcomment
    obtain ⟨tail, rfl⟩ := List.head?_eq_some_iff.1 hstar
    split
    · rename_i hlength
      obtain ⟨comment, after, htail, hcomment, rfl⟩ := exists_of_commentLength? hlength
      exact .blockComment rfl (congrArg ('*' :: ·) htail) hcomment
    · rename_i hlength
      exact .openComment rfl rfl (notInfix_of_commentLength? hlength)
  rename_i hstar
  split
  · rename_i hquote
    split
    · rename_i hlength
      exact .literal hquote hlength
    · rename_i hlength
      exact .openLiteral hquote fun _ hbody => not_closes_of_literalLength? hlength hbody
  rename_i hquote
  split
  · rename_i hstart
    obtain ⟨after, hrest, hafter⟩ := exists_takeWhile_append isIdentifierPart rest
    exact .identifier hstart hrest hafter
  rename_i hstart
  split
  · rename_i hsymbol
    refine .symbol hsymbol fun hc d hd => ⟨?_, ?_⟩
    · rintro rfl
      exact hslash ⟨hc, hd⟩
    · rintro rfl
      exact hstar ⟨hc, hd⟩
  · rename_i hsymbol
    exact .unexpected (by simpa using hblank) hquote (by simpa using hstart) hsymbol

/-- Where no token stands, there is a piece of a gap, or else the comment that ends the text. -/
theorem AtFront.exists_gapPiece {c : Char} {rest : List Char} {more : Nat}
    (h : AtFront c rest (.ok ⟨none, more⟩)) :
    (∃ (piece : GapPiece) (after : List Char), piece.isProper = true ∧
      c :: rest = piece.text ++ after) ∨
      ∃ comment, '\n' ∉ comment ∧ c :: rest = '/' :: '/' :: comment := by
  cases h with
  | blank hblank => exact .inl ⟨.blank c, rest, hblank, rfl⟩
  | @lineComment comment after hc hrest hline hafter =>
    subst hc hrest
    cases after with
    | nil => exact .inr ⟨comment, hline, by simp⟩
    | cons d after =>
      obtain rfl := hafter d rfl
      exact .inl ⟨.lineComment comment, after, decide_eq_true hline, by simp [GapPiece.text]⟩
  | @blockComment comment after hc hrest hcomment =>
    subst hc hrest
    exact .inl ⟨.blockComment comment, after, decide_eq_true hcomment, by simp [GapPiece.text]⟩

/-- A token ends before what follows it. -/
theorem AtFront.stopsBefore {c : Char} {rest : List Char} {kind : TokenKind} {more : Nat}
    (h : AtFront c rest (.ok ⟨some kind, more⟩)) {d : Char} (hd : d ∈ (rest.drop more).head?) :
    Word.stopsBefore ⟨kind, String.ofList (c :: rest.take more)⟩ d = true := by
  have hpart : kind = .identifier → isIdentifierPart d = false := by
    rintro rfl
    cases h with
    | identifier hc hrest hafter =>
      rw [hrest, List.drop_left] at hd
      exact hafter d hd
    | symbol hc => exact absurd hc (symbolKind?_ne_identifier c)
  have hslash : c = '/' → d ≠ '/' ∧ d ≠ '*' := by
    rintro rfl
    cases h with
    | literal hc => exact absurd hc (by decide)
    | identifier hc => exact absurd hc (by decide)
    | symbol hc hrest => exact hrest rfl d hd
  have htext : String.ofList (c :: rest.take more) = "/" → c = '/' := by
    intro htext
    have hchars := congrArg String.toList htext
    rw [String.toList_ofList] at hchars
    exact (List.cons.inj hchars).1
  simp only [Word.stopsBefore, Bool.and_eq_true, Bool.not_eq_true', Bool.and_eq_false_iff,
    decide_eq_false_iff_not, Bool.or_eq_false_iff]
  exact ⟨imp_iff_not_or.1 hpart, imp_iff_not_or.1 fun h => hslash (htext h)⟩

/-- What starts a lexeme. -/
theorem Word.starts_of_isLexeme {word : Word} (h : word.isLexeme = true) {c : Char}
    (hc : word.text.toList.head? = some c) :
    isIdentifierStart c = true ∨ (c = '\x22' ∨ c = '\x27') ∨ symbolKind? c ≠ none := by
  obtain ⟨others, htext⟩ := List.head?_eq_some_iff.1 hc
  rcases isLexeme_iff.1 h with ⟨-, hidentifier⟩ | ⟨-, hquoted⟩ | hsymbol
  · obtain ⟨d, more, hmore, hd, -⟩ := exists_of_isIdentifier hidentifier
    obtain ⟨rfl, -⟩ := List.cons.inj (hmore.symm.trans htext)
    exact .inl hd
  · obtain ⟨d, body, hbody, hd, -⟩ := exists_of_isQuoted hquoted
    obtain ⟨rfl, -⟩ := List.cons.inj (hbody.symm.trans htext)
    exact .inr (.inl hd)
  · obtain ⟨d, hsingle, hd⟩ := exists_of_isSymbol hsymbol
    obtain ⟨rfl, -⟩ := List.cons.inj (hsingle.symm.trans htext)
    exact .inr (.inr (by rw [hd]; exact Option.some_ne_none _))

/-! ## Cutting a text -/

/-- What the tokenizer stops at: nothing, a comment up to the end of the text, or a character at
which no piece starts. -/
inductive IsEnding : List Char → Prop where
  | nil : IsEnding []
  | comment {text : List Char} (htext : '\n' ∉ text) : IsEnding ('/' :: '/' :: text)
  | stuck {c : Char} {rest : List Char} {cause : Position → SourceError}
      (h : pieceAt c rest = .error cause) : IsEnding (c :: rest)

/-- **Every text consists of words and gaps up to what the tokenizer stops at.**  By induction on
the length of the text, with one piece taken off its front. -/
theorem exists_parts (text : List Char) :
    ∃ lead items ending, lead.all GapPiece.isProper = true ∧ areApart ending items = true ∧
      IsEnding ending ∧ gapText lead ++ itemsText ending items = text := by
  induction hlength : text.length using Nat.strongRecOn generalizing text with
  | ind length ih =>
    subst hlength
    cases text with
    | nil => exact ⟨[], [], [], rfl, rfl, .nil, rfl⟩
    | cons c rest =>
      have hfront := atFront_pieceAt c rest
      match hpiece : pieceAt c rest with
      | .error cause => exact ⟨[], [], c :: rest, rfl, rfl, .stuck hpiece, rfl⟩
      | .ok ⟨none, more⟩ =>
        rw [hpiece] at hfront
        rcases hfront.exists_gapPiece with ⟨piece, after, hproper, htext⟩ | hcomment
        · have hshort : after.length < (c :: rest).length := by
            rw [htext]
            cases piece <;> simp [GapPiece.text] <;> omega
          obtain ⟨lead, items, ending, hlead, hitems, hending, rfl⟩ := ih _ hshort after rfl
          refine ⟨piece :: lead, items, ending, ?_, hitems, hending, ?_⟩
          · rw [List.all_cons, hproper, hlead, Bool.and_self]
          · rw [htext, gapText, List.flatMap_cons, List.append_assoc, gapText]
        · obtain ⟨comment, hline, htext⟩ := hcomment
          exact ⟨[], [], _, rfl, rfl, .comment hline, htext.symm⟩
      | .ok ⟨some kind, more⟩ =>
        rw [hpiece] at hfront
        have hshort : (rest.drop more).length < (c :: rest).length := by
          rw [List.length_drop, List.length_cons]
          omega
        obtain ⟨lead, items, ending, hlead, hitems, hending, hrest⟩ := ih _ hshort _ rfl
        refine ⟨[], (⟨kind, String.ofList (c :: rest.take more)⟩, lead) :: items, ending, rfl, ?_,
          hending, ?_⟩
        · rw [areApart, hrest, isLexeme_of_pieceAt hpiece, hlead, hitems, Bool.and_true,
            Bool.and_true, Bool.true_and, Option.all_eq_true]
          exact fun d hd => hfront.stopsBefore hd
        · rw [itemsText, hrest, String.toList_ofList, List.cons_append, List.take_append_drop]
          rfl

/-! ## Words where they stand -/

/-- A word with the text on both sides of it. -/
structure Occurrence where
  before : List Char
  word : Word
  behind : List Char

/-- The words of a text that stand behind the given one. -/
def occurrences (ending before : List Char) : List (Word × List GapPiece) → List Occurrence
  | [] => []
  | (word, gap) :: items =>
    ⟨before, word, gapText gap ++ itemsText ending items⟩ ::
      occurrences ending (before ++ word.text.toList ++ gapText gap) items

namespace Occurrence

/-- The word as a token. -/
def token (occurrence : Occurrence) : Token :=
  ⟨occurrence.word.kind, occurrence.word.text, placeAfter occurrence.before⟩

/-- No longer part of the text around the word is an identifier.  That is all that maximal means: a
literal of digits may stand directly before the word, as in `1abc`, which is the literal `1` and the
identifier `abc`, since no identifier starts with a digit. -/
def IsMaximal (occurrence : Occurrence) : Prop :=
  ∀ front back, front <:+ occurrence.before → back <+: occurrence.behind →
    isIdentifier (String.ofList (front ++ occurrence.word.text.toList ++ back)) = true →
      front = [] ∧ back = []

end Occurrence

/-- The words of a layout where they stand. -/
def Layout.occurrences (layout : Layout) : List Occurrence :=
  Declaration.occurrences layout.ending (gapText layout.lead) layout.items

theorem tokensAt_placeAfter (ending before : List Char) (items : List (Word × List GapPiece)) :
    tokensAt (placeAfter before) items
      = (occurrences ending before items).map Occurrence.token := by
  induction items generalizing before with
  | nil => rfl
  | cons item items ih =>
    obtain ⟨word, gap⟩ := item
    rw [tokensAt, ← placeAfter_append, ← placeAfter_append, ih]
    rfl

/-- The tokens of a layout are its words where they stand in the text. -/
theorem Layout.tokens_eq (layout : Layout) :
    layout.tokens = layout.occurrences.map Occurrence.token := by
  rw [tokens, after_eq_placeAfter, tokensAt_placeAfter layout.ending]
  rfl

/-! ## Boundaries -/

theorem isIdentifier_ofList_iff {text : List Char} :
    isIdentifier (String.ofList text) = true ↔
      ∃ c more, text = c :: more ∧ isIdentifierStart c = true ∧
        ∀ d ∈ more, isIdentifierPart d = true := by
  rw [isIdentifier, String.toList_ofList]
  cases text with
  | nil => simp
  | cons c more => simp

theorem isIdentifierPart_of_mem {text : List Char} (h : isIdentifier (String.ofList text) = true)
    {d : Char} (hd : d ∈ text) : isIdentifierPart d = true := by
  obtain ⟨c, more, rfl, hc, hmore⟩ := isIdentifier_ofList_iff.1 h
  rcases List.mem_cons.1 hd with rfl | hd
  · exact isIdentifierPart_of_isIdentifierStart hc
  · exact hmore d hd

/-- The front of an identifier is one. -/
theorem isIdentifier_of_append {front back : List Char} (hne : front ≠ [])
    (h : isIdentifier (String.ofList (front ++ back)) = true) :
    isIdentifier (String.ofList front) = true := by
  obtain ⟨c, others, rfl⟩ := List.exists_cons_of_ne_nil hne
  obtain ⟨d, more, htext, hd, hmore⟩ := isIdentifier_ofList_iff.1 h
  obtain ⟨rfl, rfl⟩ := List.cons.inj htext
  exact isIdentifier_ofList_iff.2
    ⟨c, others, rfl, hd, fun d hd => hmore d (List.mem_append_left _ hd)⟩

/-- No identifier in front of the boundary goes on behind it. -/
def IsBoundary (before behind : List Char) : Prop :=
  ∀ front, front <:+ before → isIdentifier (String.ofList front) = true →
    ∀ c ∈ behind.head?, isIdentifierPart c = false

theorem isBoundary_nil (behind : List Char) : IsBoundary [] behind := by
  intro front hfront hidentifier
  obtain rfl := List.suffix_nil.1 hfront
  cases hidentifier

theorem isBoundary_of_last {before behind : List Char} {c : Char}
    (hc : isIdentifierPart c = false) : IsBoundary (before ++ [c]) behind := by
  intro front hfront hidentifier
  rcases List.suffix_concat_iff.1 hfront with rfl | ⟨others, rfl, -⟩
  · cases hidentifier
  · have hpart := isIdentifierPart_of_mem hidentifier (List.mem_concat_self ..)
    rw [hc] at hpart
    cases hpart

/-- No piece of a gap ends with a character of identifiers. -/
theorem GapPiece.exists_last {piece : GapPiece} (h : piece.isProper = true) :
    ∃ front c, piece.text = front ++ [c] ∧ isIdentifierPart c = false := by
  cases piece with
  | blank c => exact ⟨[], c, rfl, isIdentifierPart_of_isBlank h⟩
  | lineComment text => exact ⟨'/' :: '/' :: text, '\n', rfl, by decide⟩
  | blockComment text =>
    exact ⟨'/' :: '*' :: text ++ ['*'], '/', by simp [GapPiece.text], by decide⟩

/-- A gap keeps a boundary. -/
theorem IsBoundary.gap {before behind : List Char} {gap : List GapPiece}
    (h : IsBoundary before (gapText gap ++ behind)) (hgap : gap.all GapPiece.isProper = true) :
    IsBoundary (before ++ gapText gap) behind := by
  cases gap using List.reverseRecOn with
  | nil => simpa [gapText] using h
  | append_singleton gap piece =>
    rw [List.all_append, Bool.and_eq_true, List.all_cons, Bool.and_eq_true] at hgap
    obtain ⟨front, c, htext, hc⟩ := GapPiece.exists_last hgap.2.1
    rw [gapText, List.flatMap_append, List.flatMap_singleton, htext, ← List.append_assoc,
      ← List.append_assoc]
    exact isBoundary_of_last hc

/-- What a literal is made of in front of the quote that closes it: characters that neither close
nor break it, and backslashes with any character behind each. -/
inductive IsLiteralPart (quote : Char) : List Char → Prop where
  | plain {c : Char} (hescape : c ≠ '\\') (hline : c ≠ '\n') (hquote : c ≠ quote) :
      IsLiteralPart quote [c]
  | escape (c : Char) : IsLiteralPart quote ['\\', c]

/-- **A literal ends at its first quote that is not escaped.** -/
theorem closes_iff {quote : Char} (hquote : quote = '\x22' ∨ quote = '\x27') {body : List Char} :
    closes quote body = true ↔
      ∃ parts : List (List Char), body = parts.flatten ++ [quote] ∧
        ∀ part ∈ parts, IsLiteralPart quote part := by
  constructor
  · intro h
    fun_induction closes quote body with
    | case1 => cases h
    | case2 => cases h
    | case3 c body ih =>
      obtain ⟨parts, rfl, hparts⟩ := ih h
      exact ⟨['\\', c] :: parts, rfl, List.forall_mem_cons.2 ⟨.escape c, hparts⟩⟩
    | case4 => cases h
    | case5 body =>
      obtain rfl := List.isEmpty_iff.1 h
      exact ⟨[], rfl, by simp⟩
    | case6 c body hlast hescape hline hother ih =>
      obtain ⟨parts, rfl, hparts⟩ := ih h
      have hplain : c ≠ '\\' := by
        rintro rfl
        cases hbody : parts.flatten ++ [quote] with
        | nil => exact hlast rfl hbody
        | cons d body => exact hescape d body rfl hbody
      exact ⟨[c] :: parts, rfl, List.forall_mem_cons.2 ⟨.plain hplain hline hother, hparts⟩⟩
  · rintro ⟨parts, rfl, hparts⟩
    induction parts with
    | nil => rcases hquote with rfl | rfl <;> decide
    | cons part parts ih =>
      obtain ⟨hpart, hothers⟩ := List.forall_mem_cons.1 hparts
      rw [List.flatten_cons, List.append_assoc]
      cases hpart with
      | plain hescape hline hother =>
        rw [List.singleton_append, closes_cons hescape, if_neg hline, if_neg hother, ih hothers]
      | escape c => exact ih hothers

/-- A word that ends before what follows it keeps a boundary. -/
theorem IsBoundary.word {before behind : List Char} {word : Word}
    (h : IsBoundary before (word.text.toList ++ behind)) (hword : word.isLexeme = true)
    (hstops : ∀ c ∈ behind.head?, word.stopsBefore c = true) :
    IsBoundary (before ++ word.text.toList) behind := by
  rcases Word.isLexeme_iff.1 hword with ⟨hkind, -⟩ | ⟨-, hquoted⟩ | hsymbol
  · exact fun _ _ _ c hc => Word.isIdentifierPart_of_stopsBefore hkind (hstops c hc)
  · obtain ⟨quote, body, htext, hquote, hbody⟩ := exists_of_isQuoted hquoted
    obtain ⟨parts, rfl, -⟩ := (closes_iff hquote).1 hbody
    rw [htext, ← List.cons_append, ← List.append_assoc]
    exact isBoundary_of_last (by rcases hquote with rfl | rfl <;> decide)
  · obtain ⟨c, htext, hc⟩ := exists_of_isSymbol hsymbol
    rw [htext] at h ⊢
    cases hpart : isIdentifierPart c with
    | false => exact isBoundary_of_last hpart
    | true =>
      -- a digit starts no identifier, and none goes on with it either
      intro front hfront hidentifier
      exfalso
      rcases List.suffix_concat_iff.1 hfront with rfl | ⟨others, rfl, hothers⟩
      · cases hidentifier
      · rcases eq_or_ne others [] with rfl | hne
        · obtain ⟨d, more, hd, hstart, -⟩ := isIdentifier_ofList_iff.1 hidentifier
          obtain ⟨rfl, -⟩ := List.cons.inj hd
          rw [(plain_of_symbolKind? hc).2.1] at hstart
          cases hstart
        · have hnot := h others hothers (isIdentifier_of_append hne hidentifier) c rfl
          rw [hpart] at hnot
          cases hnot

/-- An identifier between boundaries is maximal. -/
theorem Occurrence.isMaximal_of_isBoundary {occurrence : Occurrence}
    (hbefore : IsBoundary occurrence.before (occurrence.word.text.toList ++ occurrence.behind))
    (hidentifier : isIdentifier occurrence.word.text = true)
    (hbehind : ∀ c ∈ occurrence.behind.head?, isIdentifierPart c = false) :
    occurrence.IsMaximal := by
  intro front back hfront hback hlonger
  obtain ⟨c, more, htext, hc, -⟩ := exists_of_isIdentifier hidentifier
  constructor
  · by_contra hne
    rw [List.append_assoc] at hlonger
    have hnot := hbefore front hfront (isIdentifier_of_append hne hlonger) c (by rw [htext]; rfl)
    rw [isIdentifierPart_of_isIdentifierStart hc] at hnot
    cases hnot
  · by_contra hne
    obtain ⟨d, others, rfl⟩ := List.exists_cons_of_ne_nil hne
    obtain ⟨after, hafter⟩ := hback
    have hnot := hbehind d (by rw [← hafter]; rfl)
    rw [isIdentifierPart_of_mem hlonger (by simp)] at hnot
    cases hnot

/-- **All identifiers of a layout are maximal.**  By induction on the words, with a boundary in
front of each. -/
theorem isMaximal_of_mem_occurrences {ending before : List Char}
    {items : List (Word × List GapPiece)} (hitems : areApart ending items = true)
    (hbefore : IsBoundary before (itemsText ending items)) {occurrence : Occurrence}
    (h : occurrence ∈ occurrences ending before items)
    (hkind : occurrence.word.kind = .identifier) : occurrence.IsMaximal := by
  induction items generalizing before with
  | nil => cases h
  | cons item items ih =>
    obtain ⟨word, gap⟩ := item
    simp only [areApart, Bool.and_eq_true] at hitems
    obtain ⟨⟨⟨hword, hgap⟩, hafter⟩, hitems⟩ := hitems
    have hstops : ∀ c ∈ (gapText gap ++ itemsText ending items).head?,
        word.stopsBefore c = true := by simpa [Option.all_eq_true] using hafter
    rcases List.mem_cons.1 h with rfl | h
    · have hidentifier : isIdentifier word.text = true := by
        rw [← Word.isLexeme_identifier, Word.identifier, ← hkind]
        exact hword
      exact Occurrence.isMaximal_of_isBoundary hbefore hidentifier fun c hc =>
        Word.isIdentifierPart_of_stopsBefore hkind (hstops c hc)
    · exact ih hitems ((hbefore.word hword hstops).gap hgap) h

/-! ## The tokenizer -/

/-- What tokenizing makes of a text. -/
inductive Scanned : List Char → Except SourceError (List Token) → Prop where
  /-- The text is laid out in words and gaps.  The tokens are the words with the places where they
  stand, and each identifier is as long as can be. -/
  | accepted (layout : Layout) (hproper : layout.isProper = true)
      (hmaximal : ∀ occurrence ∈ layout.occurrences,
        occurrence.word.kind = .identifier → occurrence.IsMaximal) :
      Scanned layout.text (.ok (layout.occurrences.map Occurrence.token))
  /-- A character that is no blank and that no lexeme starts with. -/
  | unexpected (front : List Char) (c : Char) (rest : List Char)
      (hfront : ∃ tokens, tokenize (String.ofList front) = .ok tokens) (hblank : isBlank c = false)
      (hstart : ∀ word : Word, word.isLexeme = true → word.text.toList.head? ≠ some c) :
      Scanned (front ++ c :: rest) (.error (.unexpectedChar c (placeAfter front)))
  /-- A block comment that is nowhere closed. -/
  | openComment (front rest : List Char)
      (hfront : ∃ tokens, tokenize (String.ofList front) = .ok tokens)
      (hopen : ¬ ['*', '/'] <:+: rest) :
      Scanned (front ++ '/' :: '*' :: rest) (.error (.unterminated .comment (placeAfter front)))
  /-- A quote that opens a literal, which no part of the text behind it closes. -/
  | openLiteral (front : List Char) (quote : Char) (rest : List Char)
      (hfront : ∃ tokens, tokenize (String.ofList front) = .ok tokens)
      (hquote : quote = '\x22' ∨ quote = '\x27')
      (hopen : ∀ body, body <+: rest → closes quote body = false) :
      Scanned (front ++ quote :: rest) (.error (.unterminated .literal (placeAfter front)))

/-- A text that is laid out properly is scanned as its layout says. -/
theorem scanned_of_layout {layout : Layout} (h : layout.isProper = true) {source : String}
    (htext : layout.text = source.toList) : Scanned source.toList (tokenize source) := by
  rw [layout.tokenize_eq h htext.symm, layout.tokens_eq, ← htext]
  refine .accepted layout h fun occurrence hmem => ?_
  simp only [Layout.isProper, Bool.and_eq_true] at h
  obtain ⟨⟨hlead, hitems⟩, -⟩ := h
  exact isMaximal_of_mem_occurrences hitems ((isBoundary_nil _).gap hlead) hmem

theorem itemsText_eq (ending : List Char) (items : List (Word × List GapPiece)) :
    itemsText ending items = itemsText [] items ++ ending := by
  induction items with
  | nil => rfl
  | cons item items ih =>
    obtain ⟨word, gap⟩ := item
    rw [itemsText, itemsText, ih]
    simp

/-- What stands at the end can be left out. -/
theorem areApart_nil {ending : List Char} {items : List (Word × List GapPiece)}
    (h : areApart ending items = true) : areApart [] items = true := by
  induction items with
  | nil => rfl
  | cons item items ih =>
    obtain ⟨word, gap⟩ := item
    simp only [areApart, Bool.and_eq_true, Option.all_eq_true] at h ⊢
    obtain ⟨⟨⟨hword, hgap⟩, hafter⟩, hitems⟩ := h
    refine ⟨⟨⟨hword, hgap⟩, fun c hc => hafter c ?_⟩, ih hitems⟩
    rw [itemsText_eq, ← List.append_assoc]
    rw [List.head?_append, Option.mem_def.1 hc]
    rfl

/-- A text in front of a character at which no piece starts is tokenized, and the error is reported
for that character. -/
theorem tokenize_of_stuck {lead : List GapPiece} {items : List (Word × List GapPiece)} {c : Char}
    {rest : List Char} {cause : Position → SourceError}
    (hlead : lead.all GapPiece.isProper = true) (hitems : areApart (c :: rest) items = true)
    (hpiece : pieceAt c rest = .error cause) {source : String}
    (htext : gapText lead ++ itemsText (c :: rest) items = source.toList) :
    ∃ front, source.toList = front ++ c :: rest ∧
      (∃ tokens, tokenize (String.ofList front) = .ok tokens) ∧
      tokenize source = .error (cause (placeAfter front)) := by
  have hlayout : Layout.isProper ⟨lead, items, none⟩ = true := by
    simp [Layout.isProper, Layout.ending, hlead, areApart_nil hitems]
  have hplace := after_eq_placeAfter (gapText lead ++ itemsText [] items)
  refine ⟨gapText lead ++ itemsText [] items, ?_, ⟨_, Layout.tokenize_eq hlayout ?_⟩, ?_⟩
  · rw [← htext, itemsText_eq, List.append_assoc]
  · rw [String.toList_ofList]
    rfl
  · rw [tokenize, ← htext, tokensFrom_gap (List.all_eq_true.1 hlead), tokensFrom_itemsText hitems,
      ← after_append, hplace, tokensFrom, hpiece]
    rfl

/-- **Tokenizing keeps the whole text.** -/
theorem scanned_tokenize (source : String) : Scanned source.toList (tokenize source) := by
  obtain ⟨lead, items, ending, hlead, hitems, hending, htext⟩ := exists_parts source.toList
  cases hending with
  | nil =>
    have hproper : Layout.isProper ⟨lead, items, none⟩ = true := by
      simp [Layout.isProper, Layout.ending, hlead, hitems]
    exact scanned_of_layout hproper htext
  | @comment comment hline =>
    have hproper : Layout.isProper ⟨lead, items, some comment⟩ = true := by
      simp [Layout.isProper, Layout.ending, hlead, hitems, hline]
    exact scanned_of_layout hproper htext
  | @stuck c rest cause hpiece =>
    obtain ⟨front, hsource, hfront, hresult⟩ := tokenize_of_stuck hlead hitems hpiece htext
    rw [hsource, hresult]
    have hcause := atFront_pieceAt c rest
    rw [hpiece] at hcause
    cases hcause with
    | openComment hc hrest hopen =>
      subst hc hrest
      exact .openComment front _ hfront hopen
    | openLiteral hc hopen => exact .openLiteral front c rest hfront hc hopen
    | unexpected hblank hquote hstart hsymbol =>
      refine .unexpected front c rest hfront hblank fun word hword hc => ?_
      rcases Word.starts_of_isLexeme hword hc with hstarts | hstarts | hstarts
      · exact Bool.noConfusion (hstart.symm.trans hstarts)
      · exact hquote hstarts
      · exact hstarts hsymbol

end MultiRelease.Declaration
