import MultiRelease.Proofs.ClassFile.Pooling

/-!
# Modified UTF-8

The encoding of text in class files (`modifiedBytes`).  A text is taken apart into UTF-16 units, a
pair of surrogates for each character beyond the basic plane, and every unit is written in one to
three bytes.  The unit 0 takes two of them, so that no byte is zero.

A reader that tries plain UTF-8 first reads back every text (`decodeText?_modifiedBytes`):

* The bytes spell the units that were written (`units?_flatMap_unitBytes`).  The lead byte tells how
  many bytes belong to a unit, and the low bits of the bytes are its digits in base 64, so that the
  reader's arithmetic of bits is arithmetic of numbers (`toNat_unitOfTwo`, `toNat_unitOfThree`).
* The units determine the text (`charsOfUnits?_flatMap_charUnits`).  No character is a surrogate, so
  a high surrogate is always the first half of a pair.
* Trying plain UTF-8 first makes no difference to bytes that spell units (`decodeText?_of_units?`):
  if they are the UTF-8 of some text, then the units are those of that text
  (`eq_textUnits_of_utf8Bytes`).  Where the encodings differ, UTF-8 has a byte that no unit starts
  with (`units?_utf8EncodeChar_append`), except for NUL, which both readers take for the unit 0.
-/

set_option autoImplicit false

namespace MultiRelease.ClassFile

/-- The UTF-16 units of a character: one, or a surrogate pair. -/
def charUnits (c : Char) : List UInt16 :=
  if c.toNat < 0x10000 then [c.toNat.toUInt16]
  else
    [(0xD800 + (c.toNat - 0x10000) / 0x400).toUInt16,
      (0xDC00 + (c.toNat - 0x10000) % 0x400).toUInt16]

/-- The bytes of a UTF-16 unit.  The bits of a unit are spread over bytes with six bits each, the
first byte excepted; only units from 1 to 127 take a single byte. -/
def unitBytes (unit : UInt16) : List UInt8 :=
  let n := unit.toNat
  if 0 < n ∧ n < 0x80 then [n.toUInt8]
  else if n < 0x800 then [(0xC0 + n / 0x40).toUInt8, (0x80 + n % 0x40).toUInt8]
  else
    [(0xE0 + n / 0x1000).toUInt8, (0x80 + n / 0x40 % 0x40).toUInt8, (0x80 + n % 0x40).toUInt8]

/-- The UTF-16 units of a text. -/
def textUnits (text : String) : List UInt16 := text.toList.flatMap charUnits

/-- The bytes of a text in modified UTF-8. -/
def modifiedBytes (text : String) : List UInt8 := (textUnits text).flatMap unitBytes

/-- A NUL takes two bytes, and what lies beyond the basic plane takes six. -/
example : modifiedBytes "a\x00😀" = [0x61, 0xC0, 0x80, 0xED, 0xA0, 0xBD, 0xED, 0xB8, 0x80] := by
  decide

/-! ## Bits of bytes -/

/-- What holds of the 256 bytes holds of all. -/
theorem forall_byte {p : UInt8 → Prop} (h : ∀ n : Fin 256, p (UInt8.ofFin n)) (b : UInt8) : p b :=
  h b.toFin

/-- The high bits of a byte say how great it is. -/
theorem lead_iff : ∀ b : UInt8, (b &&& 0x80 = 0 ↔ b.toNat < 0x80) ∧
    (b &&& 0xE0 = 0xC0 ↔ 0xC0 ≤ b.toNat ∧ b.toNat < 0xE0) ∧
    (b &&& 0xF0 = 0xE0 ↔ 0xE0 ≤ b.toNat ∧ b.toNat < 0xF0) :=
  forall_byte (by decide +kernel)

theorem lead_one_iff (b : UInt8) : b &&& 0x80 = 0 ↔ b.toNat < 0x80 := (lead_iff b).1

theorem lead_two_iff (b : UInt8) : b &&& 0xE0 = 0xC0 ↔ 0xC0 ≤ b.toNat ∧ b.toNat < 0xE0 :=
  (lead_iff b).2.1

theorem lead_three_iff (b : UInt8) : b &&& 0xF0 = 0xE0 ↔ 0xE0 ≤ b.toNat ∧ b.toNat < 0xF0 :=
  (lead_iff b).2.2

theorem toNat_and_low (b : UInt8) :
    (b &&& 0x0F).toNat = b.toNat % 0x10 ∧ (b &&& 0x1F).toNat = b.toNat % 0x20 ∧
      (b &&& 0x3F).toNat = b.toNat % 0x40 := by
  simp only [UInt8.toNat_and]
  exact ⟨Nat.and_two_pow_sub_one_eq_mod _ 4, Nat.and_two_pow_sub_one_eq_mod _ 5,
    Nat.and_two_pow_sub_one_eq_mod _ 6⟩

/-- The bits of two bytes, as digits. -/
theorem toNat_unitOfTwo (lead next : UInt8) :
    (unitOfTwo lead next).toNat = lead.toNat % 0x20 * 0x40 + next.toNat % 0x40 := by
  obtain ⟨-, hlead, -⟩ := toNat_and_low lead
  obtain ⟨-, -, hnext⟩ := toNat_and_low next
  have hhigh : ((lead &&& 0x1F).toUInt16 <<< 6).toNat = lead.toNat % 0x20 * 2 ^ 6 := by
    rw [UInt16.toNat_shiftLeft, UInt8.toNat_toUInt16, hlead, Nat.shiftLeft_eq]
    simp
    omega
  rw [unitOfTwo, UInt16.toNat_or, hhigh, UInt8.toNat_toUInt16, hnext]
  exact (Decoder.or_eq_add (by omega)).trans (by omega)

theorem toNat_unitOfThree (lead second third : UInt8) :
    (unitOfThree lead second third).toNat
      = lead.toNat % 0x10 * 0x1000 + second.toNat % 0x40 * 0x40 + third.toNat % 0x40 := by
  obtain ⟨hlead, -, -⟩ := toNat_and_low lead
  obtain ⟨-, -, hsecond⟩ := toNat_and_low second
  obtain ⟨-, -, hthird⟩ := toNat_and_low third
  have hhigh : ((lead &&& 0x0F).toUInt16 <<< 12).toNat = lead.toNat % 0x10 * 2 ^ 12 := by
    rw [UInt16.toNat_shiftLeft, UInt8.toNat_toUInt16, hlead, Nat.shiftLeft_eq]
    simp
    omega
  have hmiddle : ((second &&& 0x3F).toUInt16 <<< 6).toNat = second.toNat % 0x40 * 2 ^ 6 := by
    rw [UInt16.toNat_shiftLeft, UInt8.toNat_toUInt16, hsecond, Nat.shiftLeft_eq]
    simp
    omega
  rw [unitOfThree, UInt16.toNat_or, UInt16.toNat_or, hhigh, hmiddle, UInt8.toNat_toUInt16, hthird,
    Decoder.or_eq_add (by omega)]
  -- what has been put together so far ends in zeros, where the last six bits go
  rw [show lead.toNat % 0x10 * 2 ^ 12 + second.toNat % 0x40 * 2 ^ 6
      = (lead.toNat % 0x10 * 0x40 + second.toNat % 0x40) * 2 ^ 6 by omega]
  exact (Decoder.or_eq_add (by omega)).trans (by omega)

/-! ## The units that bytes spell -/

section

variable {lead : UInt8}

/-- A byte below 128 is a unit by itself. -/
theorem units?_one (h : lead.toNat < 0x80) (rest : List UInt8) :
    units? (lead :: rest) = (units? rest).map (lead.toUInt16 :: ·) := by
  rw [units?.eq_def]
  exact if_pos ((lead_one_iff lead).2 h)

theorem units?_two (h : 0xC0 ≤ lead.toNat) (h' : lead.toNat < 0xE0) (next : UInt8)
    (rest : List UInt8) :
    units? (lead :: next :: rest) = (units? rest).map (unitOfTwo lead next :: ·) := by
  have hone : ¬ lead &&& 0x80 = 0 := by
    rw [lead_one_iff]
    omega
  rw [units?, if_neg hone, if_pos ((lead_two_iff lead).2 ⟨h, h'⟩)]

/-- A lead byte that is too great for one or two bytes. -/
theorem not_lead_of_le (h : 0xE0 ≤ lead.toNat) :
    ¬ lead &&& 0x80 = 0 ∧ ¬ lead &&& 0xE0 = 0xC0 := by
  rw [lead_one_iff, lead_two_iff]
  omega

theorem units?_three (h : 0xE0 ≤ lead.toNat) (h' : lead.toNat < 0xF0) (second third : UInt8)
    (rest : List UInt8) :
    units? (lead :: second :: third :: rest)
      = (units? rest).map (unitOfThree lead second third :: ·) := by
  obtain ⟨hone, htwo⟩ := not_lead_of_le h
  rw [units?, if_neg hone, if_neg htwo, if_pos ((lead_three_iff lead).2 ⟨h, h'⟩)]

/-- Four bytes at once are never a unit. -/
theorem units?_four (h : 0xF0 ≤ lead.toNat) (rest : List UInt8) :
    units? (lead :: rest) = none := by
  obtain ⟨hone, htwo⟩ := not_lead_of_le (Nat.le_trans (by decide) h)
  have hthree : ¬ lead &&& 0xF0 = 0xE0 := by
    rw [lead_three_iff]
    omega
  rw [units?.eq_def]
  dsimp only
  rw [if_neg hone, if_neg htwo, if_neg hthree]

end

/-- A unit that is written at the front is read from there. -/
theorem units?_unitBytes_append (unit : UInt16) (rest : List UInt8) :
    units? (unitBytes unit ++ rest) = (units? rest).map (unit :: ·) := by
  have hunit := unit.toNat_lt
  have htoNat : ∀ n < 256, n.toUInt8.toNat = n := fun n hn => UInt8.toNat_ofNat_of_lt' hn
  rw [unitBytes]
  split
  · rename_i hone
    have hlead := htoNat unit.toNat (by omega)
    have hread : unit.toNat.toUInt8.toUInt16 = unit := by
      rw [← UInt16.toNat_inj, UInt8.toNat_toUInt16, hlead]
    rw [List.singleton_append, units?_one (by omega), hread]
  · split
    · rename_i htwo
      have hlead := htoNat (0xC0 + unit.toNat / 0x40) (by omega)
      have hnext := htoNat (0x80 + unit.toNat % 0x40) (by omega)
      have hread : unitOfTwo (0xC0 + unit.toNat / 0x40).toUInt8 (0x80 + unit.toNat % 0x40).toUInt8
          = unit := by
        rw [← UInt16.toNat_inj, toNat_unitOfTwo, hlead, hnext]
        omega
      rw [List.cons_append, List.singleton_append, units?_two (by omega) (by omega), hread]
    · have hlead := htoNat (0xE0 + unit.toNat / 0x1000) (by omega)
      have hsecond := htoNat (0x80 + unit.toNat / 0x40 % 0x40) (by omega)
      have hthird := htoNat (0x80 + unit.toNat % 0x40) (by omega)
      have hread : unitOfThree (0xE0 + unit.toNat / 0x1000).toUInt8
          (0x80 + unit.toNat / 0x40 % 0x40).toUInt8 (0x80 + unit.toNat % 0x40).toUInt8 = unit := by
        rw [← UInt16.toNat_inj, toNat_unitOfThree, hlead, hsecond, hthird]
        omega
      rw [List.cons_append, List.cons_append, List.singleton_append,
        units?_three (by omega) (by omega), hread]

/-- **The units of modified UTF-8 are the ones that were written.** -/
theorem units?_flatMap_unitBytes (units : List UInt16) :
    units? (units.flatMap unitBytes) = some units := by
  induction units with
  | nil => rfl
  | cons unit units ih => rw [List.flatMap_cons, units?_unitBytes_append, ih, Option.map_some]

/-! ## The text that units spell -/

theorem isHighSurrogate_iff (unit : UInt16) :
    isHighSurrogate unit = true ↔ 0xD800 ≤ unit.toNat ∧ unit.toNat < 0xDC00 := by
  rw [isHighSurrogate, Bool.and_eq_true, decide_eq_true_eq, decide_eq_true_eq,
    UInt16.le_iff_toNat_le, UInt16.lt_iff_toNat_lt]
  rfl

theorem isLowSurrogate_iff (unit : UInt16) :
    isLowSurrogate unit = true ↔ 0xDC00 ≤ unit.toNat ∧ unit.toNat < 0xE000 := by
  rw [isLowSurrogate, Bool.and_eq_true, decide_eq_true_eq, decide_eq_true_eq,
    UInt16.le_iff_toNat_le, UInt16.lt_iff_toNat_lt]
  rfl

/-- No character is a surrogate, and there is an end to characters. -/
theorem toNat_char (c : Char) : (c.toNat < 0xD800 ∨ 0xDFFF < c.toNat) ∧ c.toNat < 0x110000 := by
  rcases c.valid with h | ⟨h, h'⟩
  · exact ⟨.inl h, Nat.lt_trans h (by decide)⟩
  · exact ⟨.inr h, h'⟩

/-- A character that is written at the front is read from there. -/
theorem charsOfUnits?_charUnits_append (c : Char) (rest : List UInt16) :
    charsOfUnits? (charUnits c ++ rest) = (charsOfUnits? rest).map (c :: ·) := by
  obtain ⟨hsurrogate, hend⟩ := toNat_char c
  have htoNat : ∀ n < 65536, n.toUInt16.toNat = n := fun n hn => UInt16.toNat_ofNat_of_lt' hn
  rw [charUnits]
  split
  · rename_i hone
    have hunit := htoNat c.toNat hone
    have hhigh : ¬ isHighSurrogate c.toNat.toUInt16 = true := by
      rw [isHighSurrogate_iff, hunit]
      omega
    have hlow : ¬ isLowSurrogate c.toNat.toUInt16 = true := by
      rw [isLowSurrogate_iff, hunit]
      omega
    rw [List.singleton_append, charsOfUnits?.eq_def]
    dsimp only
    rw [if_neg hhigh, if_neg hlow, hunit, Char.ofNat_toNat]
  · have hfirst := htoNat (0xD800 + (c.toNat - 0x10000) / 0x400) (by omega)
    have hsecond := htoNat (0xDC00 + (c.toNat - 0x10000) % 0x400) (by omega)
    have hhigh : isHighSurrogate (0xD800 + (c.toNat - 0x10000) / 0x400).toUInt16 = true := by
      rw [isHighSurrogate_iff, hfirst]
      omega
    have hlow : isLowSurrogate (0xDC00 + (c.toNat - 0x10000) % 0x400).toUInt16 = true := by
      rw [isLowSurrogate_iff, hsecond]
      omega
    have hpair : pairedChar (0xD800 + (c.toNat - 0x10000) / 0x400).toUInt16
        (0xDC00 + (c.toNat - 0x10000) % 0x400).toUInt16 = c := by
      have hcode : 0x10000 + (0xD800 + (c.toNat - 0x10000) / 0x400 - 0xD800) * 0x400
          + (0xDC00 + (c.toNat - 0x10000) % 0x400 - 0xDC00) = c.toNat := by omega
      rw [pairedChar, hfirst, hsecond, hcode, Char.ofNat_toNat]
    rw [List.cons_append, List.singleton_append, charsOfUnits?, if_pos hhigh, if_pos hlow, hpair]

/-- **Units determine the text.** -/
theorem charsOfUnits?_flatMap_charUnits (chars : List Char) :
    charsOfUnits? (chars.flatMap charUnits) = some chars := by
  induction chars with
  | nil => rfl
  | cons c chars ih => rw [List.flatMap_cons, charsOfUnits?_charUnits_append, ih, Option.map_some]

/-! ## Bytes that are plain UTF-8 -/

/-- In the basic plane, all characters but NUL are written alike in both encodings. -/
theorem utf8EncodeChar_eq_unitBytes {c : Char} (hnul : c.toNat ≠ 0) (hplane : c.toNat < 0x10000) :
    String.utf8EncodeChar c = unitBytes c.toNat.toUInt16 := by
  have hval : c.val.toNat = c.toNat := rfl
  have hunit : c.toNat.toUInt16.toNat = c.toNat := UInt16.toNat_ofNat_of_lt' hplane
  have hlast : c.toNat % 64 + 128 = 0x80 + c.toNat % 0x40 := Nat.add_comm _ _
  simp only [String.utf8EncodeChar, unitBytes, hval, hunit]
  by_cases hone : c.toNat ≤ 127
  · rw [if_pos hone, if_pos (by omega)]
  · by_cases htwo : c.toNat ≤ 2047
    · have hfirst : c.toNat / 64 % 32 + 192 = 0xC0 + c.toNat / 0x40 := by omega
      rw [if_neg hone, if_pos htwo, if_neg (by omega), if_pos (by omega), hfirst, hlast]
    · have hfirst : c.toNat / 4096 % 16 + 224 = 0xE0 + c.toNat / 0x1000 := by omega
      have hmiddle : c.toNat / 64 % 64 + 128 = 0x80 + c.toNat / 0x40 % 0x40 := Nat.add_comm _ _
      rw [if_neg hone, if_neg htwo, if_pos (by omega), if_neg (by omega), if_neg (by omega),
        hfirst, hmiddle, hlast]

/-- Beyond the basic plane, UTF-8 needs four bytes at once. -/
theorem exists_utf8EncodeChar_of_le {c : Char} (hplane : 0x10000 ≤ c.toNat) :
    ∃ lead others, String.utf8EncodeChar c = lead :: others ∧ 0xF0 ≤ lead.toNat := by
  have hend := (toNat_char c).2
  have hval : c.val.toNat = c.toNat := rfl
  simp only [String.utf8EncodeChar, hval]
  rw [if_neg (by omega), if_neg (by omega), if_neg (by omega)]
  refine ⟨_, _, rfl, ?_⟩
  rw [UInt8.toNat_ofNat_of_lt' (by rw [show UInt8.size = 256 from rfl]; omega)]
  omega

/-- In the basic plane, UTF-8 spells the unit of a character; elsewhere it spells no unit. -/
theorem units?_utf8EncodeChar_append (c : Char) (rest : List UInt8) :
    units? (String.utf8EncodeChar c ++ rest)
      = if c.toNat < 0x10000 then (units? rest).map (charUnits c ++ ·) else none := by
  split
  · rename_i hplane
    rw [charUnits, if_pos hplane]
    by_cases hnul : c.toNat = 0
    · -- the one unit that plain UTF-8 writes in another way
      have hc : c = Char.ofNat 0 := by rw [← hnul, Char.ofNat_toNat]
      rw [hc]
      exact units?_one (by decide) rest
    · rw [utf8EncodeChar_eq_unitBytes hnul hplane, units?_unitBytes_append]
      rfl
  · rename_i hplane
    obtain ⟨lead, others, hbytes, hlead⟩ := exists_utf8EncodeChar_of_le (Nat.not_lt.1 hplane)
    rw [hbytes, List.cons_append, units?_four hlead]

/-- If plain UTF-8 spells any units, then they are those of the text. -/
theorem eq_textUnits_of_utf8Bytes {text : String} {units : List UInt16}
    (h : units? (utf8Bytes text) = some units) : units = textUnits text := by
  rw [utf8Bytes_eq] at h
  rw [textUnits]
  generalize text.toList = chars at h ⊢
  induction chars generalizing units with
  | nil => exact (Option.some_inj.1 h).symm
  | cons c chars ih =>
    rw [List.flatMap_cons, units?_utf8EncodeChar_append] at h
    split at h
    · obtain ⟨others, hothers, rfl⟩ := Option.map_eq_some_iff.1 h
      rw [ih hothers, List.flatMap_cons]
    · cases h

/-- What is found to be plain is the UTF-8 of the text that is found. -/
theorem utf8Bytes_of_plainText? {bytes : List UInt8} {text : String}
    (h : plainText? bytes = some text) : utf8Bytes text = bytes := by
  rw [plainText?, String.fromUTF8?] at h
  split at h
  · rw [← Option.some_inj.1 h]
    rfl
  · cases h

/-! ## Texts -/

/-- **Trying plain UTF-8 first changes nothing.**  Bytes that spell units are read as the text of
these units. -/
theorem decodeText?_of_units? {bytes : List UInt8} {units : List UInt16}
    (h : units? bytes = some units) :
    decodeText? bytes = (charsOfUnits? units).map String.ofList := by
  rw [decodeText?]
  cases hplain : plainText? bytes with
  | none =>
    dsimp only
    rw [h, Option.bind_some]
  | some text =>
    rw [← utf8Bytes_of_plainText? hplain] at h
    rw [eq_textUnits_of_utf8Bytes h, textUnits, charsOfUnits?_flatMap_charUnits, Option.map_some,
      String.ofList_toList]

/-- **A text in modified UTF-8 is read as what it is**, also by a reader that tries plain UTF-8
first. -/
theorem decodeText?_modifiedBytes (text : String) :
    decodeText? (modifiedBytes text) = some text := by
  have hunits : units? (modifiedBytes text) = some (textUnits text) :=
    units?_flatMap_unitBytes _
  rw [decodeText?_of_units? hunits, textUnits, charsOfUnits?_flatMap_charUnits, Option.map_some,
    String.ofList_toList]

end MultiRelease.ClassFile
