import Mathlib.Data.List.Forall2
import MultiRelease.Proofs.ClassFile.ModifiedText

/-!
# Which bytes are read as a text

The bytes of a text constant may be plain UTF-8 or modified UTF-8 (`modifiedBytes`), and they are
not told apart by anything but themselves.

* Every text is read back from both encodings, and trying plain UTF-8 first changes the meaning of
  no bytes that spell UTF-16 units (`decodeText?_encodings`).  The two encodings differ exactly in
  NUL and in what lies beyond the basic plane, and bytes with either in modified UTF-8 are no plain
  UTF-8 of anything (`plainText?_modifiedBytes`).
* What else is read as a text are bytes that are no plain UTF-8 and that spell the units of the text
  in *blocks* of one to three bytes.  Of the bytes of a block only the low bits count
  (`Spells`), so that a block need not be the one that modified UTF-8 has for its unit: a byte that
  continues nothing may stand behind a lead byte, a unit may take more bytes than it needs, and NUL
  may be a zero byte (`isWellFormed` tells the proper blocks).  `decodeText?_eq_some_iff` says that
  nothing but this is accepted.
-/

set_option autoImplicit false

namespace MultiRelease.ClassFile

/-! ## The units of a text -/

theorem toNat_ofNat_of_isValidChar {n : Nat} (h : n.isValidChar) : (Char.ofNat n).toNat = n := by
  rw [Char.ofNat, dif_pos h]
  rfl

/-- A unit that is no surrogate is a character. -/
theorem charUnits_ofNat {unit : UInt16} (hhigh : ¬ isHighSurrogate unit = true)
    (hlow : ¬ isLowSurrogate unit = true) : charUnits (Char.ofNat unit.toNat) = [unit] := by
  have hunit := unit.toNat_lt
  rw [isHighSurrogate_iff] at hhigh
  rw [isLowSurrogate_iff] at hlow
  have hvalid : unit.toNat.isValidChar := by
    rw [Nat.isValidChar]
    omega
  rw [charUnits, toNat_ofNat_of_isValidChar hvalid, if_pos hunit, Nat.toUInt16_eq,
    UInt16.ofNat_toNat]

/-- A pair of surrogates is a character. -/
theorem charUnits_pairedChar {high low : UInt16} (hhigh : isHighSurrogate high = true)
    (hlow : isLowSurrogate low = true) : charUnits (pairedChar high low) = [high, low] := by
  rw [isHighSurrogate_iff] at hhigh
  rw [isLowSurrogate_iff] at hlow
  have hvalid : (0x10000 + (high.toNat - 0xD800) * 0x400 + (low.toNat - 0xDC00)).isValidChar := by
    rw [Nat.isValidChar]
    omega
  rw [charUnits, pairedChar, toNat_ofNat_of_isValidChar hvalid, if_neg (by omega)]
  have hfirst : 0xD800 + (0x10000 + (high.toNat - 0xD800) * 0x400 + (low.toNat - 0xDC00) - 0x10000)
      / 0x400 = high.toNat := by omega
  have hsecond : 0xDC00 + (0x10000 + (high.toNat - 0xD800) * 0x400 + (low.toNat - 0xDC00) - 0x10000)
      % 0x400 = low.toNat := by omega
  rw [hfirst, hsecond]
  simp

/-- **Units pair up to characters exactly if they are the units of these characters.** -/
theorem charsOfUnits?_eq_some_iff {units : List UInt16} {chars : List Char} :
    charsOfUnits? units = some chars ↔ units = chars.flatMap charUnits := by
  refine ⟨fun h => ?_, fun h => h ▸ charsOfUnits?_flatMap_charUnits chars⟩
  fun_induction charsOfUnits? units generalizing chars with
  | case1 =>
    obtain rfl := Option.some_inj.1 h
    rfl
  | case2 high hhigh low rest hlow ih =>
    obtain ⟨others, hothers, rfl⟩ := Option.map_eq_some_iff.1 h
    rw [List.flatMap_cons, charUnits_pairedChar hhigh hlow, ih hothers]
    rfl
  | case3 => cases h
  | case4 => cases h
  | case5 => cases h
  | case6 unit rest hhigh hlow ih =>
    obtain ⟨others, hothers, rfl⟩ := Option.map_eq_some_iff.1 h
    rw [List.flatMap_cons, charUnits_ofNat hhigh hlow, ih hothers]
    rfl

/-- Bytes that spell units are read as a text exactly if the units are those of the text. -/
theorem decodeText?_eq_some_of_units? {bytes : List UInt8} {units : List UInt16}
    (h : units? bytes = some units) {text : String} :
    decodeText? bytes = some text ↔ units = textUnits text := by
  rw [decodeText?_of_units? h, Option.map_eq_some_iff]
  constructor
  · rintro ⟨chars, hchars, rfl⟩
    rw [textUnits, String.toList_ofList, ← charsOfUnits?_eq_some_iff, hchars]
  · rintro rfl
    exact ⟨text.toList, charsOfUnits?_flatMap_charUnits _, String.ofList_toList⟩

/-! ## Where the encodings differ -/

/-- The characters that plain and modified UTF-8 write alike. -/
def isWrittenAlike (c : Char) : Bool := c.toNat ≠ 0 && c.toNat < 0x10000

/-- Modified UTF-8 has no zero byte and no lead byte of four bytes. -/
theorem bounds_of_mem_unitBytes {unit : UInt16} {b : UInt8} (h : b ∈ unitBytes unit) :
    b ≠ 0 ∧ b.toNat < 0xF0 := by
  have hunit := unit.toNat_lt
  have hbyte : ∀ n, 0 < n → n < 0xF0 → n.toUInt8 ≠ 0 ∧ n.toUInt8.toNat < 0xF0 := by
    intro n hpos hlt
    have htoNat : n.toUInt8.toNat = n := UInt8.toNat_ofNat_of_lt' (Nat.lt_trans hlt (by decide))
    refine ⟨fun hzero => ?_, by omega⟩
    rw [hzero] at htoNat
    exact absurd htoNat.symm (Nat.ne_of_gt hpos)
  rw [unitBytes] at h
  split at h
  · obtain rfl := List.mem_singleton.1 h
    exact hbyte _ (by omega) (by omega)
  · split at h
    · rcases List.mem_pair.1 h with rfl | rfl <;> exact hbyte _ (by omega) (by omega)
    · rcases List.mem_cons.1 h with rfl | h
      · exact hbyte _ (by omega) (by omega)
      · rcases List.mem_pair.1 h with rfl | rfl <;> exact hbyte _ (by omega) (by omega)

/-- A character that is not written alike has a byte in plain UTF-8 that modified UTF-8 never
has. -/
theorem exists_mem_utf8EncodeChar {c : Char} (h : isWrittenAlike c = false) :
    ∃ b ∈ String.utf8EncodeChar c, b = 0 ∨ 0xF0 ≤ b.toNat := by
  by_cases hplane : c.toNat < 0x10000
  · have hnul : c.toNat = 0 := by simpa [isWrittenAlike, hplane] using h
    have hc : c = Char.ofNat 0 := by rw [← hnul, Char.ofNat_toNat]
    exact ⟨0, by rw [hc]; decide, .inl rfl⟩
  · obtain ⟨lead, others, hbytes, hlead⟩ := exists_utf8EncodeChar_of_le (Nat.not_lt.1 hplane)
    exact ⟨lead, by rw [hbytes]; exact List.mem_cons_self, .inr hlead⟩

/-- **The two encodings of a text are the same exactly if the text has neither NUL nor characters
beyond the basic plane.** -/
theorem modifiedBytes_eq_utf8Bytes_iff {text : String} :
    modifiedBytes text = utf8Bytes text ↔ text.toList.all isWrittenAlike = true := by
  rw [utf8Bytes_eq, modifiedBytes, textUnits, List.flatMap_assoc, List.all_eq_true]
  constructor
  · intro h c hc
    rw [← Bool.not_eq_false]
    intro hdiffers
    obtain ⟨b, hb, hbound⟩ := exists_mem_utf8EncodeChar hdiffers
    have hmem : b ∈ text.toList.flatMap String.utf8EncodeChar := List.mem_flatMap.2 ⟨c, hc, hb⟩
    rw [← h] at hmem
    obtain ⟨d, -, hd⟩ := List.mem_flatMap.1 hmem
    obtain ⟨unit, -, hunit⟩ := List.mem_flatMap.1 hd
    obtain ⟨hzero, hlt⟩ := bounds_of_mem_unitBytes hunit
    exact hbound.elim hzero (Nat.not_le.2 hlt)
  · intro h
    refine List.flatMap_congr fun c hc => ?_
    have hc := h c hc
    simp only [isWrittenAlike, Bool.and_eq_true, decide_eq_true_eq] at hc
    rw [charUnits, if_pos hc.2, List.flatMap_singleton, utf8EncodeChar_eq_unitBytes hc.1 hc.2]

/-- **Modified UTF-8 passes for plain UTF-8 only where it is plain UTF-8 of the same text.** -/
theorem plainText?_modifiedBytes (text : String) :
    plainText? (modifiedBytes text)
      = if text.toList.all isWrittenAlike then some text else none := by
  split
  · rename_i halike
    rw [modifiedBytes_eq_utf8Bytes_iff.2 halike, plainText?_utf8Bytes]
  · rename_i hdiffers
    cases hplain : plainText? (modifiedBytes text) with
    | none => rfl
    | some other =>
      have hbytes := utf8Bytes_of_plainText? hplain
      have hread : some text = some other := by
        rw [← decodeText?_modifiedBytes text, ← hbytes, decodeText?_utf8Bytes]
      rw [← Option.some_inj.1 hread] at hbytes
      exact absurd (modifiedBytes_eq_utf8Bytes_iff.1 hbytes.symm) hdiffers

/-- **A text is read back from both encodings, and trying plain UTF-8 first changes no meaning.**
Modified UTF-8 passes for plain UTF-8 only where it is plain UTF-8 of the same text, which is where
the text has neither NUL nor characters beyond the basic plane.  Whatever units are written in
modified UTF-8, surrogates without partners among them, the bytes are read as these units are. -/
theorem decodeText?_encodings (text : String) :
    decodeText? (modifiedBytes text) = some text ∧
      decodeText? (utf8Bytes text) = some text ∧
      plainText? (modifiedBytes text)
        = (if text.toList.all (fun c => c.toNat ≠ 0 && c.toNat < 0x10000) then some text
          else none) ∧
      ∀ units : List UInt16,
        decodeText? (units.flatMap unitBytes) = (charsOfUnits? units).map String.ofList :=
  ⟨decodeText?_modifiedBytes text, decodeText?_utf8Bytes text, plainText?_modifiedBytes text,
    fun units => decodeText?_of_units? (units?_flatMap_unitBytes units)⟩

/-! ## Blocks of bytes -/

/-- A block of bytes spells a unit: the first byte says how many there are, and the low bits of all
of them make up the unit.  Nothing is asked of the high bits of the other bytes. -/
inductive Spells : List UInt8 → UInt16 → Prop where
  | one {lead : UInt8} {unit : UInt16} (hlead : lead.toNat < 0x80)
      (hunit : unit.toNat = lead.toNat) : Spells [lead] unit
  | two {lead next : UInt8} {unit : UInt16} (hlead : 0xC0 ≤ lead.toNat) (hlead' : lead.toNat < 0xE0)
      (hunit : unit.toNat = lead.toNat % 0x20 * 0x40 + next.toNat % 0x40) : Spells [lead, next] unit
  | three {lead second third : UInt8} {unit : UInt16} (hlead : 0xE0 ≤ lead.toNat)
      (hlead' : lead.toNat < 0xF0)
      (hunit : unit.toNat
        = lead.toNat % 0x10 * 0x1000 + second.toNat % 0x40 * 0x40 + third.toNat % 0x40) :
      Spells [lead, second, third] unit

/-- Whether a byte continues a block. -/
def isContinuation (b : UInt8) : Bool := 0x80 ≤ b.toNat && b.toNat < 0xC0

/-- Whether a block that spells a unit does so as modified UTF-8 has it: continued by bytes that
continue a block, in no more bytes than are needed, and without a zero byte. -/
def isWellFormed : List UInt8 → Bool
  | [lead] => lead ≠ 0
  | [lead, next] => isContinuation next && (0xC2 ≤ lead.toNat || (lead = 0xC0 && next = 0x80))
  | [lead, second, third] =>
    isContinuation second && isContinuation third && (lead ≠ 0xE0 || 0xA0 ≤ second.toNat)
  | _ => false

theorem eq_toUInt8_iff {b : UInt8} {n : Nat} (h : n < 256) : b = n.toUInt8 ↔ b.toNat = n := by
  rw [← UInt8.toNat_inj, UInt8.toNat_ofNat_of_lt' h]

/-- The bytes of a unit are the one well-formed block that spells it. -/
theorem Spells.isWellFormed_iff {block : List UInt8} {unit : UInt16} (h : Spells block unit) :
    isWellFormed block = true ↔ block = unitBytes unit := by
  have hunit := unit.toNat_lt
  have hbyte : ∀ b : UInt8, ∀ n < 256, b = n.toUInt8 ↔ b.toNat = n := fun _ _ => eq_toUInt8_iff
  have hzero : ∀ b : UInt8, b = 0 ↔ b.toNat = 0 := fun b => eq_toUInt8_iff (by decide)
  cases h with
  | @one lead _ hlead hread =>
    rw [isWellFormed, decide_eq_true_eq, Ne, hzero, unitBytes]
    split
    · rw [List.singleton_inj, hbyte _ _ (by omega)]
      omega
    · split <;> simp <;> omega
  | @two lead next _ hlead hlead' hread =>
    have hnul : ∀ b : UInt8, b = 0xC0 ↔ b.toNat = 0xC0 := fun b => eq_toUInt8_iff (by decide)
    have hnul' : ∀ b : UInt8, b = 0x80 ↔ b.toNat = 0x80 := fun b => eq_toUInt8_iff (by decide)
    have hnext := next.toNat_lt
    simp only [isWellFormed, isContinuation, Bool.and_eq_true, Bool.or_eq_true, decide_eq_true_eq,
      hnul, hnul', unitBytes]
    split
    · simp
      omega
    · split
      · rw [List.cons.injEq, List.singleton_inj, hbyte _ _ (by omega), hbyte _ _ (by omega)]
        omega
      · simp
        omega
  | @three lead second third _ hlead hlead' hread =>
    have hshort : ∀ b : UInt8, b = 0xE0 ↔ b.toNat = 0xE0 := fun b => eq_toUInt8_iff (by decide)
    have hsecond := second.toNat_lt
    have hthird := third.toNat_lt
    simp only [isWellFormed, isContinuation, Bool.and_eq_true, Bool.or_eq_true, decide_eq_true_eq,
      Ne, hshort, unitBytes]
    split
    · simp
      omega
    · split
      · simp
        omega
      · rw [List.cons.injEq, List.cons.injEq, List.singleton_inj, hbyte _ _ (by omega),
          hbyte _ _ (by omega), hbyte _ _ (by omega)]
        omega

/-- **Bytes spell units exactly if they consist of blocks that spell them.** -/
theorem units?_eq_some_iff {bytes : List UInt8} {units : List UInt16} :
    units? bytes = some units ↔
      ∃ blocks, blocks.flatten = bytes ∧ List.Forall₂ Spells blocks units := by
  constructor
  · intro h
    fun_induction units? bytes generalizing units with
    | case1 =>
      obtain rfl := Option.some_inj.1 h
      exact ⟨[], rfl, .nil⟩
    | case2 lead rest hone ih =>
      obtain ⟨others, hothers, rfl⟩ := Option.map_eq_some_iff.1 h
      obtain ⟨blocks, rfl, hblocks⟩ := ih hothers
      exact ⟨[lead] :: blocks, rfl, .cons (.one ((lead_one_iff lead).1 hone) (by simp)) hblocks⟩
    | case3 lead hone htwo next rest ih =>
      obtain ⟨others, hothers, rfl⟩ := Option.map_eq_some_iff.1 h
      obtain ⟨blocks, rfl, hblocks⟩ := ih hothers
      obtain ⟨hlead, hlead'⟩ := (lead_two_iff lead).1 htwo
      exact ⟨[lead, next] :: blocks, rfl,
        .cons (.two hlead hlead' (toNat_unitOfTwo lead next)) hblocks⟩
    | case4 => cases h
    | case5 lead hone htwo hthree second third rest ih =>
      obtain ⟨others, hothers, rfl⟩ := Option.map_eq_some_iff.1 h
      obtain ⟨blocks, rfl, hblocks⟩ := ih hothers
      obtain ⟨hlead, hlead'⟩ := (lead_three_iff lead).1 hthree
      exact ⟨[lead, second, third] :: blocks, rfl,
        .cons (.three hlead hlead' (toNat_unitOfThree lead second third)) hblocks⟩
    | case6 => cases h
    | case7 => cases h
  · rintro ⟨blocks, rfl, hblocks⟩
    induction hblocks with
    | nil => rfl
    | @cons block unit blocks units hblock _ ih =>
      rw [List.flatten_cons]
      cases hblock with
      | @one lead _ hlead hunit =>
        have hread : lead.toUInt16 = unit := by
          rw [← UInt16.toNat_inj, UInt8.toNat_toUInt16, hunit]
        rw [List.singleton_append, units?_one hlead, ih, Option.map_some, hread]
      | @two lead next _ hlead hlead' hunit =>
        have hread : unitOfTwo lead next = unit := by
          rw [← UInt16.toNat_inj, toNat_unitOfTwo, hunit]
        rw [List.cons_append, List.singleton_append, units?_two hlead hlead', ih, Option.map_some,
          hread]
      | @three lead second third _ hlead hlead' hunit =>
        have hread : unitOfThree lead second third = unit := by
          rw [← UInt16.toNat_inj, toNat_unitOfThree, hunit]
        rw [List.cons_append, List.cons_append, List.singleton_append,
          units?_three hlead hlead', ih, Option.map_some, hread]

/-- Blocks that are all well-formed are modified UTF-8. -/
theorem flatten_of_isWellFormed {blocks : List (List UInt8)} {units : List UInt16}
    (h : List.Forall₂ Spells blocks units) (hproper : ∀ block ∈ blocks, isWellFormed block = true) :
    blocks.flatten = units.flatMap unitBytes := by
  induction h with
  | nil => rfl
  | cons hblock _ ih =>
    obtain ⟨hfirst, hothers⟩ := List.forall_mem_cons.1 hproper
    rw [List.flatten_cons, List.flatMap_cons, hblock.isWellFormed_iff.1 hfirst, ih hothers]

theorem plainText?_eq_none_iff {bytes : List UInt8} :
    plainText? bytes = none ↔ ∀ other, bytes ≠ utf8Bytes other := by
  constructor
  · rintro hnone other rfl
    rw [plainText?_utf8Bytes] at hnone
    cases hnone
  · intro h
    cases hplain : plainText? bytes with
    | none => rfl
    | some other => exact absurd (utf8Bytes_of_plainText? hplain).symm (h other)

theorem decodeText?_of_plainText?_eq_none {bytes : List UInt8} (h : plainText? bytes = none)
    {text : String} : decodeText? bytes = some text ↔ units? bytes = some (textUnits text) := by
  cases hunits : units? bytes with
  | none => simp [decodeText?, h, hunits]
  | some units => rw [decodeText?_eq_some_of_units? hunits, Option.some_inj]

/-- **What is read as a text.**  Bytes are read as a text exactly if they are its plain UTF-8, or
its modified UTF-8, or if they are no plain UTF-8 of anything and consist of blocks that spell the
units of the text, of which some block is not well-formed.  All other bytes are refused. -/
theorem decodeText?_eq_some_iff (bytes : List UInt8) (text : String) :
    decodeText? bytes = some text ↔
      bytes = utf8Bytes text ∨ bytes = modifiedBytes text ∨
        (∀ other, bytes ≠ utf8Bytes other) ∧
          ∃ blocks : List (List UInt8), blocks.flatten = bytes ∧
            List.Forall₂ Spells blocks (textUnits text) ∧
            ∃ block ∈ blocks, isWellFormed block = false := by
  constructor
  · intro h
    cases hplain : plainText? bytes with
    | some other =>
      rw [decodeText?, hplain, Option.some_inj] at h
      exact .inl (h ▸ (utf8Bytes_of_plainText? hplain).symm)
    | none =>
      rw [decodeText?_of_plainText?_eq_none hplain, units?_eq_some_iff] at h
      obtain ⟨blocks, rfl, hblocks⟩ := h
      by_cases hproper : ∀ block ∈ blocks, isWellFormed block = true
      · exact .inr (.inl (flatten_of_isWellFormed hblocks hproper))
      · simp only [not_forall, Bool.not_eq_true, exists_prop] at hproper
        exact .inr (.inr ⟨plainText?_eq_none_iff.1 hplain, blocks, rfl, hblocks, hproper⟩)
  · rintro (rfl | rfl | ⟨hplain, blocks, hbytes, hblocks, -⟩)
    · exact decodeText?_utf8Bytes text
    · exact decodeText?_modifiedBytes text
    · rw [decodeText?_of_plainText?_eq_none (plainText?_eq_none_iff.2 hplain)]
      exact units?_eq_some_iff.2 ⟨blocks, hbytes, hblocks⟩

/-- A lead byte with an opening parenthesis behind it is read as a letter, though it is neither
encoding of any text. -/
theorem exists_read_malformed :
    ∃ bytes text, decodeText? bytes = some text ∧ (∀ other, bytes ≠ utf8Bytes other) ∧
      ∀ other, bytes ≠ modifiedBytes other := by
  refine ⟨[0xC3, 0x28], "è", by decide, plainText?_eq_none_iff.1 (by decide), ?_⟩
  intro other hother
  have hread : decodeText? [0xC3, 0x28] = some "è" := by decide
  have hsame : some other = some "è" := by
    rw [← hread, hother, decodeText?_modifiedBytes]
  rw [Option.some_inj.1 hsame] at hother
  exact absurd hother (by decide)

end MultiRelease.ClassFile
