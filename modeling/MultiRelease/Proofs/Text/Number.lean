import MultiRelease.Text.Number

/-!
# Written numbers

Releases are written as numbers of sixteen bits, in the names of overlay folders, in compliance
levels and on the command line.  What is written is read back (`number16?_toString`).  The digits
are read from left to right, so the induction is on the number without its last digit.

Other texts are read as numbers, too.  `Writes` says which: those made of decimal digits, with one
plus sign in front or none, and zeros in front of the digits do not count.  `number16?_eq_some_iff`
says that the reader takes these and no others.  The reader gives up as soon as the number leaves
the range, and what it has read up to there is never less than what it had before
(`le_ofDigitChars`), so it does not give up too early (`appendDigits_eq_ok_iff`).

Texts of digits that write the same number differ in leading zeros only (`digits_eq_iff`), because
behind its zeros such a text is the decimal form of the number (`eq_takeWhile_append_toDigits`).
This is where two platform libraries of one release can still be different ones.
-/

set_option autoImplicit false

namespace MultiRelease.Text

theorem appendDigits_append (front back : List Char) :
    ∀ n, appendDigits n (front ++ back) = (appendDigits n front).bind (appendDigits · back) := by
  induction front with
  | nil => exact fun _ => rfl
  | cons c front ih =>
    intro n
    rw [List.cons_append, appendDigits, appendDigits]
    split
    · split
      · exact ih _
      · rfl
    · rfl

theorem digit_digitChar {d : Nat} (h : d < 10) :
    isDecimalDigit (Nat.digitChar d) = true ∧ digitValue (Nat.digitChar d) = d := by
  have hall : ∀ d : Fin 10, isDecimalDigit (Nat.digitChar d) = true ∧
      digitValue (Nat.digitChar d) = d := by decide
  exact hall ⟨d, h⟩

theorem appendDigits_digitChar {n d : Nat} (hd : d < 10) (hn : n * 10 + d < 65536) :
    appendDigits n [Nat.digitChar d] = .ok (n * 10 + d) := by
  obtain ⟨hdigit, hvalue⟩ := digit_digitChar hd
  rw [appendDigits, if_pos hdigit, hvalue, if_pos hn, appendDigits]

theorem appendDigits_toDigits (n : Nat) (h : n < 65536) :
    appendDigits 0 (Nat.toDigits 10 n) = .ok n := by
  induction n using Nat.strongRecOn with
  | ind n ih =>
    by_cases hsmall : n < 10
    · rw [Nat.toDigits_of_lt_base hsmall, appendDigits_digitChar hsmall (by omega)]
      simp
    · have hlast := appendDigits_digitChar (n := n / 10) (d := n % 10) (by omega) (by omega)
      rw [Nat.toDigits_of_base_le (by decide) (by omega), appendDigits_append,
        ih (n / 10) (by omega) (by omega)]
      refine hlast.trans (congrArg _ ?_)
      omega

theorem number16Chars_of_digits {digits : List Char} (hne : digits ≠ [])
    (h : ∀ c ∈ digits, c.isDigit = true) :
    number16Chars digits = (appendDigits 0 digits).map Nat.toUInt16 := by
  have hplus : ∀ rest, digits ≠ '+' :: rest := by
    rintro rest rfl
    exact absurd (h '+' List.mem_cons_self) (by decide)
  rw [number16Chars.eq_def]
  split
  · exact absurd rfl hne
  · exact absurd rfl (hplus [])
  · rename_i rest _
    exact absurd rfl (hplus rest)
  · rfl

/-- **A number is read back from its digits.** -/
theorem number16?_toString (n : UInt16) : number16? (toString n.toNat) = some n := by
  have htext : (toString n.toNat).toList = Nat.toDigits 10 n.toNat := Nat.toList_repr
  rw [number16?, number16, htext, number16Chars_of_digits Nat.toDigits_ne_nil fun c hc =>
    Nat.isDigit_of_mem_toDigits (by decide) (by decide) hc,
    appendDigits_toDigits n.toNat n.toNat_lt]
  exact congrArg some n.ofNat_toNat

/-! ## All texts that are read as numbers -/

/-- The text consists of the decimal digits of the number, behind one plus sign or none.  Zeros in
front of the digits do not count. -/
def Writes (text : String) (number : UInt16) : Prop :=
  ∃ sign digits : List Char, text.toList = sign ++ digits ∧ (sign = [] ∨ sign = ['+']) ∧
    digits ≠ [] ∧ (∀ c ∈ digits, c.isDigit = true) ∧ Nat.ofDigitChars 10 digits 0 = number.toNat

theorem isDecimalDigit_eq (c : Char) : isDecimalDigit c = c.isDigit := rfl

theorem le_ofDigitChars (digits : List Char) : ∀ n, n ≤ Nat.ofDigitChars 10 digits n := by
  induction digits with
  | nil => exact fun _ => Nat.le_refl _
  | cons c digits ih =>
    intro n
    rw [Nat.ofDigitChars_cons]
    exact Nat.le_trans (by omega) (ih _)

/-- **Digits are appended until the number leaves the range.** -/
theorem appendDigits_eq_ok_iff {m : Nat} (digits : List Char) : ∀ {n : Nat}, n < 65536 →
    (appendDigits n digits = .ok m ↔ (∀ c ∈ digits, c.isDigit = true) ∧
      Nat.ofDigitChars 10 digits n = m ∧ m < 65536) := by
  induction digits with
  | nil =>
    intro n hn
    rw [appendDigits, Nat.ofDigitChars_nil, Except.ok.injEq]
    exact ⟨fun heq => ⟨fun _ hmem => absurd hmem List.not_mem_nil, heq, heq ▸ hn⟩, fun h => h.2.1⟩
  | cons c digits ih =>
    intro n hn
    have hvalue : 10 * n + (c.toNat - '0'.toNat) = n * 10 + digitValue c := by
      rw [Nat.mul_comm]
      rfl
    rw [appendDigits, isDecimalDigit_eq, List.forall_mem_cons, Nat.ofDigitChars_cons, hvalue]
    by_cases hdigit : c.isDigit = true
    · rw [if_pos hdigit]
      by_cases hrange : n * 10 + digitValue c < 65536
      · rw [if_pos hrange, ih hrange]
        simp [hdigit]
      · -- more digits do not bring it back into the range
        rw [if_neg hrange]
        refine iff_of_false (by simp) fun ⟨_, heq, hm⟩ => hrange ?_
        exact Nat.lt_of_le_of_lt (heq ▸ le_ofDigitChars digits _) hm
    · rw [if_neg hdigit]
      exact iff_of_false (by simp) fun h => hdigit h.1.1

theorem ok_map_toUInt16_iff {result : Except NumberFault Nat} {number : UInt16}
    (h : ∀ m, result = .ok m → m < 65536) :
    result.map Nat.toUInt16 = .ok number ↔ result = .ok number.toNat := by
  cases result with
  | error fault => exact iff_of_false (fun heq => nomatch heq) (fun heq => nomatch heq)
  | ok m =>
    have hm := h m rfl
    rw [Except.map, Except.ok.injEq, Except.ok.injEq]
    constructor
    · rintro rfl
      exact (UInt16.toNat_ofNat_of_lt' hm).symm
    · rintro rfl
      exact number.ofNat_toNat

/-- What is read behind the sign. -/
theorem map_appendDigits_iff {digits : List Char} {number : UInt16} :
    (appendDigits 0 digits).map Nat.toUInt16 = .ok number ↔
      (∀ c ∈ digits, c.isDigit = true) ∧ Nat.ofDigitChars 10 digits 0 = number.toNat := by
  rw [ok_map_toUInt16_iff fun m h => ((appendDigits_eq_ok_iff digits (by decide)).1 h).2.2,
    appendDigits_eq_ok_iff digits (by decide)]
  exact and_congr_right fun _ => and_iff_left number.toNat_lt

/-- **A text is read as a number if and only if it writes the number.** -/
theorem number16?_eq_some_iff {text : String} {number : UInt16} :
    number16? text = some number ↔ Writes text number := by
  have hread : number16? text = some number ↔ number16Chars text.toList = .ok number := by
    rw [number16?, number16]
    cases number16Chars text.toList with
    | error fault => exact iff_of_false (fun heq => nomatch heq) (fun heq => nomatch heq)
    | ok m => exact ⟨fun h => congrArg _ (Option.some_inj.1 h), fun h => by rw [h]; rfl⟩
  rw [hread]
  constructor
  · intro h
    rw [number16Chars.eq_def] at h
    split at h
    · cases h
    · cases h
    · rename_i digits hne htext
      obtain ⟨hdigits, hvalue⟩ := map_appendDigits_iff.1 h
      exact ⟨['+'], digits, htext, .inr rfl, hne, hdigits, hvalue⟩
    · rename_i hne _ _
      obtain ⟨hdigits, hvalue⟩ := map_appendDigits_iff.1 h
      exact ⟨[], text.toList, rfl, .inl rfl, hne, hdigits, hvalue⟩
  · rintro ⟨sign, digits, htext, rfl | rfl, hne, hdigits, hvalue⟩
    · rw [htext, List.nil_append, number16Chars_of_digits hne hdigits]
      exact map_appendDigits_iff.2 ⟨hdigits, hvalue⟩
    · obtain ⟨first, others, rfl⟩ := List.exists_cons_of_ne_nil hne
      rw [htext, List.singleton_append, number16Chars]
      · exact map_appendDigits_iff.2 ⟨hdigits, hvalue⟩
      · exact List.cons_ne_nil _ _

/-! ## Leading zeros -/

theorem digitChar_sub_of_isDigit {c : Char} (h : c.isDigit = true) :
    c.toNat - 48 < 10 ∧ Nat.digitChar (c.toNat - 48) = c := by
  have hdigit : 48 ≤ c.toNat ∧ c.toNat ≤ 57 := by
    simpa [Char.isDigit, UInt32.le_iff_toNat_le] using h
  have hsmall : c.toNat - 48 < 10 := by omega
  refine ⟨hsmall, Char.toNat_inj.1 ?_⟩
  rw [Nat.toNat_digitChar_of_lt_ten hsmall]
  omega

/-- Digits go on with the decimal form of a number that is not zero. -/
theorem toDigits_append_of_isDigit {digits : List Char} (h : ∀ c ∈ digits, c.isDigit = true) :
    ∀ {n : Nat}, 0 < n →
      Nat.toDigits 10 n ++ digits = Nat.toDigits 10 (Nat.ofDigitChars 10 digits n) := by
  induction digits with
  | nil => exact fun _ => by rw [List.append_nil, Nat.ofDigitChars_nil]
  | cons c digits ih =>
    intro n hn
    obtain ⟨hc, hdigits⟩ := List.forall_mem_cons.1 h
    obtain ⟨hsmall, hchar⟩ := digitChar_sub_of_isDigit hc
    have hone := Nat.toDigits_append_toDigits (by decide : 1 < 10) hn hsmall
    rw [Nat.toDigits_of_lt_base hsmall, hchar] at hone
    rw [Nat.ofDigitChars_cons, ← List.singleton_append, ← List.append_assoc, hone,
      ih hdigits (by omega)]
    rfl

/-- **Digits are the decimal form of what they write, behind zeros.** -/
theorem eq_takeWhile_append_toDigits {digits : List Char} (h : ∀ c ∈ digits, c.isDigit = true)
    (hvalue : 0 < Nat.ofDigitChars 10 digits 0) :
    digits = digits.takeWhile (· = '0') ++ Nat.toDigits 10 (Nat.ofDigitChars 10 digits 0) := by
  induction digits with
  | nil => exact absurd hvalue (by decide)
  | cons c digits ih =>
    obtain ⟨hc, hdigits⟩ := List.forall_mem_cons.1 h
    rw [Nat.ofDigitChars_cons] at hvalue ⊢
    by_cases hzero : c = '0'
    · subst hzero
      have hvalue : 0 < Nat.ofDigitChars 10 digits 0 := hvalue
      rw [List.takeWhile_cons_of_pos (by decide), List.cons_append]
      exact congrArg ('0' :: ·) (ih hdigits hvalue)
    · obtain ⟨hsmall, hchar⟩ := digitChar_sub_of_isDigit hc
      have hpos : 0 < c.toNat - 48 := by
        refine Nat.pos_of_ne_zero fun hsame => hzero ?_
        rw [← hchar, hsame]
        rfl
      have happend := toDigits_append_of_isDigit hdigits hpos
      rw [Nat.toDigits_of_lt_base hsmall, hchar] at happend
      rw [List.takeWhile_cons_of_neg (by simpa using hzero), List.nil_append, Nat.mul_zero,
        Nat.zero_add]
      exact happend

/-- **Digits are told apart by what they write and by the zeros in front.** -/
theorem digits_eq_iff {a b : List Char} (ha : ∀ c ∈ a, c.isDigit = true)
    (hb : ∀ c ∈ b, c.isDigit = true) (hvalue : 0 < Nat.ofDigitChars 10 a 0) :
    a = b ↔ Nat.ofDigitChars 10 a 0 = Nat.ofDigitChars 10 b 0 ∧
      a.takeWhile (· = '0') = b.takeWhile (· = '0') := by
  constructor
  · rintro rfl
    exact ⟨rfl, rfl⟩
  · rintro ⟨hsame, hzeros⟩
    rw [eq_takeWhile_append_toDigits ha hvalue, eq_takeWhile_append_toDigits hb (hsame ▸ hvalue),
      hsame, hzeros]

end MultiRelease.Text
