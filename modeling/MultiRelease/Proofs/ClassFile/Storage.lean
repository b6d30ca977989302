import MultiRelease.Proofs.ClassFile.Truncation

/-!
# How a class file is stored

`StoredFile` is a class file cut at the places where the reader cuts it, down to the constants:
versions, the constants of the pool, and everything behind the pool.  A text constant is kept as the
bytes that stand for it, whatever they are, while the other constants are those of the format
(`StoredConstant`).

* Every class file that the reader accepts is stored in this way (`StoredFile.exists_bytes_eq`), so
  that to speak of stored files is to speak of all of them.
* Whether the pool can be read hangs on the texts alone.  If all of them decode, the pool is read as
  the slots of its constants (`StoredFile.reads_poolBytes`), and otherwise reading ends with a
  malformed text, whatever comes behind the pool (`StoredFile.decodePool_of_malformed`).
* What stands behind the pool is read by `decodeBody`, which gets the pool as an argument.  A file
  whose texts decode is read as its body is with its pool (`StoredFile.decodeClass_bytes`).

The first statement goes from what was read back to what stood there.  It needs an inverse for each
step of the reader: the primitives take what their results are written as (`Decoder.bind_eq_ok_iff`
and what follows it), one constant is cut off at a time (`StoredConstant.exists_of_entryWithTag`),
and the loop over the slots is undone by strong induction on the number of slots, since a wide
constant fills two of them (`Fills.exists_of_decodeSlots`).  A wide constant may come last although
there is room for only one of its slots.  The reader lets this pass, and so `Fills` does as well.
-/

set_option autoImplicit false

namespace MultiRelease

open ClassFile

/-! ## Numbers as they are stored -/

namespace ClassFile.Decoder

theorem encodeU2_of_bytes (high low : UInt8) :
    encodeU2 ((high.toUInt16 <<< 8) ||| low.toUInt16) = [high, low] := by
  have hhigh := high.toNat_lt
  have hlow := low.toNat_lt
  have hshift : (high.toUInt16 <<< 8).toNat = high.toNat * 2 ^ 8 := by
    simp [Nat.shiftLeft_eq]
    omega
  have hn : ((high.toUInt16 <<< 8) ||| low.toUInt16).toNat = high.toNat * 2 ^ 8 + low.toNat := by
    rw [UInt16.toNat_or, hshift, UInt8.toNat_toUInt16, or_eq_add (by omega)]
  generalize (high.toUInt16 <<< 8) ||| low.toUInt16 = n at hn
  rw [encodeU2, List.cons.injEq, List.singleton_inj, ← UInt8.toNat_inj, ← UInt8.toNat_inj]
  simp [Nat.shiftRight_eq_div_pow]
  omega

theorem encodeU4_of_bytes (b₃ b₂ b₁ b₀ : UInt8) :
    encodeU4 ((b₃.toUInt32 <<< 24) ||| (b₂.toUInt32 <<< 16) ||| (b₁.toUInt32 <<< 8) ||| b₀.toUInt32)
      = [b₃, b₂, b₁, b₀] := by
  have h₃ := b₃.toNat_lt
  have h₂ := b₂.toNat_lt
  have h₁ := b₁.toNat_lt
  have h₀ := b₀.toNat_lt
  have hshift₃ : (b₃.toUInt32 <<< 24).toNat = b₃.toNat * 2 ^ 24 := by
    simp [Nat.shiftLeft_eq]
    omega
  have hshift₂ : (b₂.toUInt32 <<< 16).toNat = b₂.toNat * 2 ^ 16 := by
    simp [Nat.shiftLeft_eq]
    omega
  have hshift₁ : (b₁.toUInt32 <<< 8).toNat = b₁.toNat * 2 ^ 8 := by
    simp [Nat.shiftLeft_eq]
    omega
  have hn : ((b₃.toUInt32 <<< 24) ||| (b₂.toUInt32 <<< 16) ||| (b₁.toUInt32 <<< 8) |||
      b₀.toUInt32).toNat = b₃.toNat * 2 ^ 24 + b₂.toNat * 2 ^ 16 + b₁.toNat * 2 ^ 8 + b₀.toNat := by
    rw [UInt32.toNat_or, UInt32.toNat_or, UInt32.toNat_or, hshift₃, hshift₂, hshift₁,
      UInt8.toNat_toUInt32, or_eq_add (by omega)]
    -- what has been put together so far ends in zeros, where the next byte goes
    rw [show b₃.toNat * 2 ^ 24 + b₂.toNat * 2 ^ 16
      = (b₃.toNat * 2 ^ 8 + b₂.toNat) * 2 ^ 16 by omega, or_eq_add (by omega)]
    rw [show (b₃.toNat * 2 ^ 8 + b₂.toNat) * 2 ^ 16 + b₁.toNat * 2 ^ 8
      = (b₃.toNat * 2 ^ 16 + b₂.toNat * 2 ^ 8 + b₁.toNat) * 2 ^ 8 by omega, or_eq_add (by omega)]
  generalize (b₃.toUInt32 <<< 24) ||| (b₂.toUInt32 <<< 16) ||| (b₁.toUInt32 <<< 8) |||
      b₀.toUInt32 = n at hn
  simp only [encodeU4, List.cons.injEq, ← UInt8.toNat_inj, and_true]
  simp [Nat.shiftRight_eq_div_pow]
  omega

theorem eq_of_u1 {input rest : List UInt8} {b : UInt8} (h : u1 input = .ok (b, rest)) :
    input = b :: rest := by
  rcases input with _ | ⟨b, others⟩
  · cases h
  · obtain ⟨rfl, rfl⟩ := Prod.mk.inj (Except.ok.inj h)
    rfl

theorem eq_of_u2 {input rest : List UInt8} {n : UInt16} (h : u2 input = .ok (n, rest)) :
    input = encodeU2 n ++ rest := by
  rcases input with _ | ⟨high, _ | ⟨low, others⟩⟩
  · cases h
  · cases h
  · obtain ⟨rfl, rfl⟩ := Prod.mk.inj (Except.ok.inj h)
    rw [encodeU2_of_bytes]
    rfl

theorem eq_of_u4 {input rest : List UInt8} {n : UInt32} (h : u4 input = .ok (n, rest)) :
    input = encodeU4 n ++ rest := by
  rcases input with _ | ⟨b₃, _ | ⟨b₂, _ | ⟨b₁, _ | ⟨b₀, others⟩⟩⟩⟩
  · cases h
  · cases h
  · cases h
  · cases h
  · obtain ⟨rfl, rfl⟩ := Prod.mk.inj (Except.ok.inj h)
    rw [encodeU4_of_bytes]
    rfl

theorem eq_of_bytes {size : Nat} {input block rest : List UInt8}
    (h : bytes size input = .ok (block, rest)) : input = block ++ rest ∧ block.length = size := by
  simp only [bytes] at h
  split at h
  · rename_i hlength
    obtain ⟨rfl, rfl⟩ := Prod.mk.inj (Except.ok.inj h)
    exact ⟨(List.take_append_drop size input).symm, hlength⟩
  · cases h

theorem exists_encodeU2 {block : List UInt8} (h : block.length = 2) :
    ∃ n, block = encodeU2 n := by
  obtain ⟨high, low, rfl⟩ := List.length_eq_two.1 h
  exact ⟨_, (encodeU2_of_bytes high low).symm⟩

theorem exists_encodeU4 {block : List UInt8} (h : block.length = 4) :
    ∃ n, block = encodeU4 n := by
  match block, h with
  | [b₃, b₂, b₁, b₀], _ => exact ⟨_, (encodeU4_of_bytes b₃ b₂ b₁ b₀).symm⟩

theorem exists_encodeU2_pair {block : List UInt8} (h : block.length = 4) :
    ∃ m n, block = encodeU2 m ++ encodeU2 n := by
  have hfront : (block.take 2).length = 2 := by simp [h]
  have hback : (block.drop 2).length = 2 := by simp [h]
  obtain ⟨m, hm⟩ := exists_encodeU2 hfront
  obtain ⟨n, hn⟩ := exists_encodeU2 hback
  exact ⟨m, n, by rw [← hm, ← hn, List.take_append_drop]⟩

variable {α β : Type}

/-- A sequence of decoders succeeds if both do, one after the other. -/
theorem bind_eq_ok_iff {first : Decoder α} {next : α → Decoder β} {input rest : List UInt8}
    {b : β} : (first >>= next) input = .ok (b, rest) ↔
      ∃ a middle, first input = .ok (a, middle) ∧ next a middle = .ok (b, rest) := by
  cases hfirst : first input with
  | error error => simp [bind_eq_of_error hfirst]
  | ok result =>
    obtain ⟨a, middle⟩ := result
    rw [bind_eq_of_ok hfirst]
    simp

/-- A sequence of decoders fails where the second one does. -/
theorem Reads.bind_error {first : Decoder α} {next : α → Decoder β} {block rest : List UInt8}
    {a : α} {error : ClassFileError} (hfirst : first.Reads block a)
    (hnext : next a rest = .error error) : (first >>= next) (block ++ rest) = .error error := by
  rw [bind_eq_of_ok (hfirst rest), hnext]

theorem pure_eq_ok_iff {a b : α} {input rest : List UInt8} :
    (pure a : Decoder α) input = .ok (b, rest) ↔ a = b ∧ input = rest := by
  show Except.ok (a, input) = _ ↔ _
  simp

theorem lift_eq_ok_iff {result : Except ClassFileError α} {a : α} {input rest : List UInt8} :
    (liftM result : Decoder α) input = .ok (a, rest) ↔ result = .ok a ∧ input = rest := by
  cases result with
  | error error =>
    show Except.error error = _ ↔ _
    simp
  | ok value => exact pure_eq_ok_iff.trans (by simp)

theorem run_eq_ok_iff {decoder : Decoder α} {a : α} {input : List UInt8} :
    decoder.run input = .ok a ↔ ∃ rest, decoder input = .ok (a, rest) := by
  show (decoder input).map Prod.fst = .ok a ↔ _
  cases hread : decoder input with
  | error error => simp [Except.map]
  | ok result =>
    obtain ⟨value, rest⟩ := result
    simp [Except.map]

end ClassFile.Decoder

/-! ## Reading slots -/

namespace ClassFile

/-- The slots that an entry fills. -/
def Entry.slots : Entry → List Constant
  | narrow constant => [constant]
  | wide => [.ignored, .unusable]

/-- One entry takes as many slots off what remains as it fills, or all that remain. -/
theorem decodeSlots_succ (count : Nat) :
    decodeSlots (count + 1) = (do
      let entry ← Decoder.u1 >>= entryWithTag
      let others ← decodeSlots (count + 1 - entry.slots.length)
      pure (entry.slots ++ others)) := by
  rw [decodeSlots, bind_assoc]
  refine bind_congr fun tag => bind_congr fun entry => ?_
  cases entry with
  | narrow constant => rfl
  | wide => cases count <;> rfl

end ClassFile

namespace Format

/-! ## Constants as they are stored -/

/-- Whether a constant is a text. -/
def Constant.isText : Constant → Bool
  | utf8 _ => true
  | _ => false

/-- A constant in a pool.  A text may be stored as any bytes, so long as their number fits into two
bytes. -/
inductive StoredConstant where
  | text (content : Short UInt8)
  | other (constant : Constant) (h : constant.isText = false)

namespace StoredConstant

/-- The bytes of a constant: its tag and its content. -/
def bytes : StoredConstant → List UInt8
  | text content => 1 :: (encodeCount content.val ++ content.val)
  | other constant _ => constant.encode

/-- How many indices a constant takes. -/
def width : StoredConstant → Nat
  | text _ => 1
  | other constant _ => constant.width

/-- Whether the bytes of a constant, if it is a text, can be read as one. -/
def IsReadable : StoredConstant → Prop
  | text content => ∃ value, decodeText? content.val = some value
  | other _ _ => True

/-- What the reader makes of a constant.  A text that cannot be read never gets this far. -/
def entry : StoredConstant → Entry
  | text content => .narrow (.text ((decodeText? content.val).getD ""))
  | other constant _ => constant.entry

/-- The slots that a constant fills. -/
def slots (constant : StoredConstant) : List ClassFile.Constant := constant.entry.slots

theorem length_slots (constant : StoredConstant) : constant.slots.length = constant.width := by
  cases constant with
  | text content => rfl
  | other constant h => exact constant.length_slots

end StoredConstant

/-- The constants take just as many indices as there are.  A wide constant that comes last may lack
its second index. -/
inductive Fills : Nat → List StoredConstant → Prop where
  | nil : Fills 0 []
  | cons {count : Nat} {constant : StoredConstant} {others : List StoredConstant}
      (h : Fills (count + 1 - constant.width) others) : Fills (count + 1) (constant :: others)

/-- A class file, cut into constants and into what stands before and behind them. -/
structure StoredFile where
  minorVersion : UInt16
  majorVersion : UInt16
  /-- How many indices there are, index 0 included. -/
  slotCount : UInt16
  constants : List StoredConstant
  fills : Fills (slotCount.toNat - 1) constants
  /-- What stands behind the pool. -/
  body : List UInt8

namespace StoredFile

variable (file : StoredFile)

/-- The bytes of the pool. -/
def poolBytes : List UInt8 :=
  encodeU2 file.slotCount ++ file.constants.flatMap StoredConstant.bytes

/-- The bytes of the file. -/
def bytes : List UInt8 :=
  encodeU4 magic ++ (encodeU2 file.minorVersion ++ (encodeU2 file.majorVersion ++
    (file.poolBytes ++ file.body)))

/-- What the reader makes of the pool, if it can read all texts. -/
def pool : ConstantPool := ⟨.unusable :: file.constants.flatMap StoredConstant.slots⟩

end StoredFile

/-! ## Reading constants -/

namespace StoredConstant

variable {constant : StoredConstant}

/-- A constant is read as its slots, unless it is a text that cannot be read. -/
theorem reads_bytes (h : constant.IsReadable) :
    (Decoder.u1 >>= entryWithTag).Reads constant.bytes constant.entry := by
  cases constant with
  | text content =>
    obtain ⟨value, hvalue⟩ := h
    refine (Decoder.reads_u1 1).bind ((Decoder.reads_u2 _).bind ?_)
    rw [UInt16.toNat_ofNat_of_lt' content.property]
    refine (Decoder.reads_bytes _).bind_nil ?_
    rw [entry, hvalue]
    exact .pure _
  | other constant _ => exact constant.reads_encode

/-- The reader gives up at a text that it cannot read. -/
theorem malformed_of_not_isReadable (h : ¬ constant.IsReadable) (rest : List UInt8) :
    (Decoder.u1 >>= entryWithTag) (constant.bytes ++ rest) = .error .malformedText := by
  cases constant with
  | text content =>
    have hnone : decodeText? content.val = none := by
      rw [Option.eq_none_iff_forall_ne_some]
      exact fun value hvalue => h ⟨value, hvalue⟩
    have hlength := Decoder.reads_u2 content.val.length.toUInt16
    have hcontent := Decoder.reads_bytes content.val
    rw [← UInt16.toNat_ofNat_of_lt' content.property] at hcontent
    rw [show (text content).bytes ++ rest
        = [1] ++ (encodeCount content.val ++ (content.val ++ rest)) by simp [bytes]]
    refine (Decoder.reads_u1 1).bind_error (hlength.bind_error (hcontent.bind_error ?_))
    rw [hnone]
    rfl
  | other constant _ => exact absurd trivial h

/-- A constant that is no text, as the reader has taken it. -/
theorem exists_other {tag : UInt8} {block rest : List UInt8} {found : Entry}
    (constant : Constant) (htext : constant.isText = false) (hentry : constant.entry = found)
    (hbytes : tag :: block = constant.encode) :
    ∃ stored : StoredConstant, stored.IsReadable ∧ stored.entry = found ∧
      tag :: (block ++ rest) = stored.bytes ++ rest :=
  ⟨other constant htext, trivial, hentry, congrArg (· ++ rest) hbytes⟩

theorem eq_of_skip {size : Nat} {input rest : List UInt8} {found : Entry}
    (h : entryWithTag.skip size input = .ok (found, rest)) :
    ∃ block, input = block ++ rest ∧ block.length = size ∧ found = .narrow .ignored := by
  obtain ⟨block, middle, hblock, h⟩ := Decoder.bind_eq_ok_iff.1 h
  obtain ⟨rfl, rfl⟩ := Decoder.pure_eq_ok_iff.1 h
  obtain ⟨rfl, hlength⟩ := Decoder.eq_of_bytes hblock
  exact ⟨block, rfl, hlength, rfl⟩

theorem eq_of_reference {kind : UInt16 → ClassFile.Constant} {input rest : List UInt8}
    {found : Entry}
    (h : (do let name ← Decoder.u2; pure (.narrow (kind name)) : Decoder Entry) input
      = .ok (found, rest)) :
    ∃ name, input = encodeU2 name ++ rest ∧ found = .narrow (kind name) := by
  obtain ⟨name, middle, hname, h⟩ := Decoder.bind_eq_ok_iff.1 h
  obtain ⟨rfl, rfl⟩ := Decoder.pure_eq_ok_iff.1 h
  exact ⟨name, Decoder.eq_of_u2 hname, rfl⟩

theorem eq_of_wide {input rest : List UInt8} {found : Entry}
    (h : (do let _ ← Decoder.bytes 8; pure .wide : Decoder Entry) input = .ok (found, rest)) :
    ∃ high low, input = encodeU4 high ++ encodeU4 low ++ rest ∧ found = .wide := by
  obtain ⟨block, middle, hblock, h⟩ := Decoder.bind_eq_ok_iff.1 h
  obtain ⟨rfl, rfl⟩ := Decoder.pure_eq_ok_iff.1 h
  obtain ⟨rfl, hlength⟩ := Decoder.eq_of_bytes hblock
  have hfront : (block.take 4).length = 4 := by simp [hlength]
  have hback : (block.drop 4).length = 4 := by simp [hlength]
  obtain ⟨high, hhigh⟩ := Decoder.exists_encodeU4 hfront
  obtain ⟨low, hlow⟩ := Decoder.exists_encodeU4 hback
  exact ⟨high, low, by rw [← hhigh, ← hlow, List.take_append_drop], rfl⟩

/-- A constant that holds two indices. -/
theorem exists_pair {tag : UInt8} {input rest : List UInt8} {found : Entry}
    (kind : UInt16 → UInt16 → Constant) (htext : ∀ m n, (kind m n).isText = false)
    (hentry : ∀ m n, (kind m n).entry = .narrow .ignored)
    (hbytes : ∀ m n, tag :: (encodeU2 m ++ encodeU2 n) = (kind m n).encode)
    (h : entryWithTag.skip 4 input = .ok (found, rest)) :
    ∃ stored : StoredConstant, stored.IsReadable ∧ stored.entry = found ∧
      tag :: input = stored.bytes ++ rest := by
  obtain ⟨block, rfl, hlength, rfl⟩ := eq_of_skip h
  obtain ⟨m, n, rfl⟩ := Decoder.exists_encodeU2_pair hlength
  exact exists_other (kind m n) (htext m n) (hentry m n) (hbytes m n)

/-- **What the reader takes for a constant is one.** -/
theorem exists_of_entryWithTag {tag : UInt8} {input rest : List UInt8} {found : Entry}
    (h : entryWithTag tag input = .ok (found, rest)) :
    ∃ constant : StoredConstant, constant.IsReadable ∧ constant.entry = found ∧
      tag :: input = constant.bytes ++ rest := by
  unfold entryWithTag at h
  split at h
  · obtain ⟨length, afterLength, hlength, hcontent⟩ := Decoder.bind_eq_ok_iff.1 h
    obtain ⟨content, afterContent, hcontent, hvalue⟩ := Decoder.bind_eq_ok_iff.1 hcontent
    obtain ⟨hinput, hsize⟩ := Decoder.eq_of_bytes hcontent
    rw [Decoder.eq_of_u2 hlength, hinput]
    cases hdecoded : decodeText? content with
    | none =>
      rw [hdecoded] at hvalue
      cases hvalue
    | some value =>
      rw [hdecoded] at hvalue
      obtain ⟨rfl, rfl⟩ := Decoder.pure_eq_ok_iff.1 hvalue
      have hlt := length.toNat_lt
      refine ⟨text ⟨content, by omega⟩, ⟨value, hdecoded⟩, by simp [entry, hdecoded], ?_⟩
      simp [bytes, encodeCount, hsize]
  · obtain ⟨high, low, rfl, rfl⟩ := eq_of_wide h
    exact exists_other (.long high low) rfl rfl rfl
  · obtain ⟨high, low, rfl, rfl⟩ := eq_of_wide h
    exact exists_other (.double high low) rfl rfl rfl
  · obtain ⟨name, rfl, rfl⟩ := eq_of_reference h
    exact exists_other (.classRef name) rfl rfl rfl
  · obtain ⟨name, rfl, rfl⟩ := eq_of_reference h
    exact exists_other (.moduleRef name) rfl rfl rfl
  · obtain ⟨name, rfl, rfl⟩ := eq_of_reference h
    exact exists_other (.packageRef name) rfl rfl rfl
  · obtain ⟨block, rfl, hlength, rfl⟩ := eq_of_skip h
    obtain ⟨text, rfl⟩ := Decoder.exists_encodeU2 hlength
    exact exists_other (.string text) rfl rfl rfl
  · obtain ⟨block, rfl, hlength, rfl⟩ := eq_of_skip h
    obtain ⟨descriptor, rfl⟩ := Decoder.exists_encodeU2 hlength
    exact exists_other (.methodType descriptor) rfl rfl rfl
  · obtain ⟨block, rfl, hlength, rfl⟩ := eq_of_skip h
    obtain ⟨kind, target, rfl⟩ := List.exists_cons_of_length_eq_add_one hlength
    obtain ⟨target, rfl⟩ := Decoder.exists_encodeU2 (Nat.succ.inj hlength)
    exact exists_other (.methodHandle kind target) rfl rfl rfl
  · obtain ⟨block, rfl, hlength, rfl⟩ := eq_of_skip h
    obtain ⟨bits, rfl⟩ := Decoder.exists_encodeU4 hlength
    exact exists_other (.integer bits) rfl rfl rfl
  · obtain ⟨block, rfl, hlength, rfl⟩ := eq_of_skip h
    obtain ⟨bits, rfl⟩ := Decoder.exists_encodeU4 hlength
    exact exists_other (.float bits) rfl rfl rfl
  · exact exists_pair .fieldRef (fun _ _ => rfl) (fun _ _ => rfl) (fun _ _ => rfl) h
  · exact exists_pair .methodRef (fun _ _ => rfl) (fun _ _ => rfl) (fun _ _ => rfl) h
  · exact exists_pair .interfaceMethodRef (fun _ _ => rfl) (fun _ _ => rfl) (fun _ _ => rfl) h
  · exact exists_pair .nameAndType (fun _ _ => rfl) (fun _ _ => rfl) (fun _ _ => rfl) h
  · exact exists_pair .dynamic (fun _ _ => rfl) (fun _ _ => rfl) (fun _ _ => rfl) h
  · exact exists_pair .invokeDynamic (fun _ _ => rfl) (fun _ _ => rfl) (fun _ _ => rfl) h
  · cases h

end StoredConstant

/-! ## Reading pools -/

namespace Fills

variable {count : Nat} {constants : List StoredConstant}

/-- Constants are read one after the other, until their indices are filled. -/
theorem reads_decodeSlots (h : Fills count constants)
    (hreadable : ∀ constant ∈ constants, constant.IsReadable) :
    (decodeSlots count).Reads (constants.flatMap StoredConstant.bytes)
      (constants.flatMap StoredConstant.slots) := by
  induction h with
  | nil => exact .pure _
  | @cons count constant others _ ih =>
    obtain ⟨hfirst, hothers⟩ := List.forall_mem_cons.1 hreadable
    rw [decodeSlots_succ]
    refine (StoredConstant.reads_bytes hfirst).bind ?_
    rw [← StoredConstant.slots, constant.length_slots]
    exact (ih hothers).bind_nil (.pure _)

/-- The first text that cannot be read ends the reading. -/
theorem decodeSlots_of_malformed (h : Fills count constants)
    (hmalformed : ∃ constant ∈ constants, ¬ constant.IsReadable) (rest : List UInt8) :
    decodeSlots count (constants.flatMap StoredConstant.bytes ++ rest) = .error .malformedText := by
  induction h with
  | nil =>
    obtain ⟨constant, hmem, -⟩ := hmalformed
    cases hmem
  | @cons count constant others _ ih =>
    rw [decodeSlots_succ, List.flatMap_cons, List.append_assoc]
    by_cases hfirst : constant.IsReadable
    · obtain ⟨found, hmem, hfound⟩ := hmalformed
      have hothers : ∃ constant ∈ others, ¬ constant.IsReadable := by
        rcases List.mem_cons.1 hmem with rfl | hmem
        · exact absurd hfirst hfound
        · exact ⟨found, hmem, hfound⟩
      refine (StoredConstant.reads_bytes hfirst).bind_error ?_
      rw [← StoredConstant.slots, constant.length_slots]
      exact Decoder.bind_eq_of_error (ih hothers)
    · exact Decoder.bind_eq_of_error (StoredConstant.malformed_of_not_isReadable hfirst _)

/-- By strong induction, since a wide constant leaves two slots less to fill. -/
theorem exists_of_decodeSlots {input rest : List UInt8} {slots : List ClassFile.Constant}
    (h : decodeSlots count input = .ok (slots, rest)) :
    ∃ constants, Fills count constants ∧
      input = constants.flatMap StoredConstant.bytes ++ rest := by
  induction count using Nat.strongRecOn generalizing input slots with
  | ind count ih =>
    cases count with
    | zero =>
      obtain ⟨-, rfl⟩ := Decoder.pure_eq_ok_iff.1 h
      exact ⟨[], .nil, rfl⟩
    | succ n =>
      rw [decodeSlots_succ] at h
      simp only [Decoder.bind_eq_ok_iff, Decoder.pure_eq_ok_iff] at h
      obtain ⟨entry, afterEntry, ⟨tag, afterTag, htag, hentry⟩, others, afterOthers, hothers, -,
        rfl⟩ := h
      obtain ⟨constant, -, rfl, hbytes⟩ := StoredConstant.exists_of_entryWithTag hentry
      have hwidth : 0 < constant.entry.slots.length := by
        cases constant.entry <;> exact Nat.succ_pos _
      obtain ⟨constants, hfills, rfl⟩ := ih _ (by omega) hothers
      rw [← StoredConstant.slots, constant.length_slots] at hfills
      refine ⟨constant :: constants, .cons hfills, ?_⟩
      rw [Decoder.eq_of_u1 htag, hbytes, List.flatMap_cons, List.append_assoc]

end Fills

/-! ## Reading files -/

namespace StoredFile

variable (file : StoredFile)

/-- A pool of which all texts can be read is read as the slots of its constants. -/
theorem reads_poolBytes (h : ∀ constant ∈ file.constants, constant.IsReadable) :
    decodePool.Reads file.poolBytes file.pool :=
  (Decoder.reads_u2 _).bind ((file.fills.reads_decodeSlots h).bind_nil (.pure _))

/-- A single text that cannot be read ends the reading of the pool. -/
theorem decodePool_of_malformed (h : ∃ constant ∈ file.constants, ¬ constant.IsReadable)
    (rest : List UInt8) : decodePool (file.poolBytes ++ rest) = .error .malformedText := by
  rw [poolBytes, List.append_assoc]
  exact (Decoder.reads_u2 _).bind_error
    (Decoder.bind_eq_of_error (file.fills.decodeSlots_of_malformed h rest))

theorem reads_magic : expectMagic.Reads (encodeU4 magic) () :=
  (Decoder.reads_u4 _).bind_nil (.pure _)

end StoredFile

end Format

namespace ClassFile

/-- What stands behind the pool of a class file. -/
def decodeBody (majorVersion : UInt16) (pool : ConstantPool) : Decoder BinaryType := do
  let flags ← Decoder.u2
  let thisIndex ← Decoder.u2
  let superIndex ← Decoder.u2
  let interfaces ← Decoder.counted (do
    let index ← Decoder.u2
    pool.className index)
  let fields ← Decoder.counted (decodeMember pool)
  let methods ← Decoder.counted (decodeMember pool)
  let modules ← Decoder.counted (decodeClassAttribute pool)
  let name ← pool.className thisIndex
  let superName ← pool.className? superIndex
  pure {
    name, superName, interfaces, flags, majorVersion, fields, methods
    module := (modules.filterMap id).getLast?
    moduleName := none }

/-- The reader takes the versions and the pool before anything that may use the pool. -/
theorem decodeClass_eq : decodeClass = (do
    expectMagic
    let _ ← Decoder.u2
    let majorVersion ← Decoder.u2
    let pool ← decodePool
    decodeBody majorVersion pool) := rfl

end ClassFile

namespace Format

namespace StoredFile

variable (file : StoredFile)

/-- If all texts can be read, the pool stands for itself in what is read behind it. -/
theorem decodeClass_bytes (h : ∀ constant ∈ file.constants, constant.IsReadable) :
    decodeClass file.bytes = decodeBody file.majorVersion file.pool file.body := by
  rw [decodeClass_eq, bytes, Decoder.bind_eq_of_ok (reads_magic _),
    Decoder.bind_eq_of_ok (Decoder.reads_u2 _ _), Decoder.bind_eq_of_ok (Decoder.reads_u2 _ _),
    Decoder.bind_eq_of_ok (file.reads_poolBytes h _)]

/-- A class file with a text that cannot be read is malformed, whatever refers to the text. -/
theorem decodeClass_of_malformed (h : ∃ constant ∈ file.constants, ¬ constant.IsReadable) :
    decodeClass file.bytes = .error .malformedText := by
  rw [decodeClass_eq, bytes, Decoder.bind_eq_of_ok (reads_magic _),
    Decoder.bind_eq_of_ok (Decoder.reads_u2 _ _), Decoder.bind_eq_of_ok (Decoder.reads_u2 _ _),
    Decoder.bind_eq_of_error (file.decodePool_of_malformed h _)]

/-- **Every class file that the reader accepts is stored as one.** -/
theorem exists_bytes_eq {bytes rest : List UInt8} {type : BinaryType}
    (h : decodeClass bytes = .ok (type, rest)) : ∃ file : StoredFile, file.bytes = bytes := by
  rw [decodeClass_eq] at h
  simp only [expectMagic, decodePool, Decoder.bind_eq_ok_iff, Decoder.pure_eq_ok_iff] at h
  obtain ⟨_, afterMagic, ⟨number, afterNumber, hnumber, hmagic⟩, minorVersion, afterMinor, hminor,
    majorVersion, afterMajor, hmajor, pool, body, ⟨slotCount, afterCount, hcount, slots, afterSlots,
    hslots, -, rfl⟩, -⟩ := h
  obtain ⟨constants, hfills, hconstants⟩ := Fills.exists_of_decodeSlots hslots
  split at hmagic
  · rename_i hnumber'
    obtain ⟨-, rfl⟩ := Decoder.pure_eq_ok_iff.1 hmagic
    refine ⟨⟨minorVersion, majorVersion, slotCount, constants, hfills, afterSlots⟩, ?_⟩
    rw [Decoder.eq_of_u4 hnumber, hnumber', Decoder.eq_of_u2 hminor, Decoder.eq_of_u2 hmajor,
      Decoder.eq_of_u2 hcount, hconstants]
    simp [StoredFile.bytes, poolBytes]
  · cases hmagic

end StoredFile

end Format

end MultiRelease
