import Mathlib.Algebra.Ring.Nat
import MultiRelease.ClassFile.Stub

/-!
# What a decoder reads back

`Decoder.Reads decoder bytes value` says that the decoder takes exactly `bytes` off the front of
every input that starts with them, and makes `value` of them.  The relation is closed under the
ways in which decoders are put together:

* a sequence of decoders reads a concatenation (`Reads.bind`), and looking something up takes no
  bytes (`Reads.lift`);
* a repeated decoder reads the concatenation of what it reads each time (`reads_times_succ`), and
  a counted list reads its length first (`reads_counted`).

So a law about a whole record is read off its fields, one after the other, and never speaks of the
bytes that follow.  The fields themselves are the numbers of `encodeU2` and `encodeU4` and runs of
bytes.
-/

set_option autoImplicit false

namespace MultiRelease.ClassFile

namespace Decoder

variable {α β : Type}

/-- The decoder takes exactly these bytes off the front of an input, and makes the value of
them. -/
def Reads (decoder : Decoder α) (bytes : List UInt8) (value : α) : Prop :=
  ∀ rest, decoder (bytes ++ rest) = .ok (value, rest)

/-! ## Putting decoders together -/

theorem Reads.pure (value : α) : Reads (pure value) [] value := fun _ => rfl

theorem Reads.bind {first : Decoder α} {next : α → Decoder β} {bytes others : List UInt8}
    {a : α} {b : β} (hfirst : first.Reads bytes a) (hnext : (next a).Reads others b) :
    (first >>= next).Reads (bytes ++ others) b := by
  intro rest
  show (first (bytes ++ others ++ rest) >>= fun result => next result.1 result.2) = _
  rw [List.append_assoc, hfirst]
  exact hnext rest

/-- The last of several decoders may take nothing. -/
theorem Reads.bind_nil {first : Decoder α} {next : α → Decoder β} {bytes : List UInt8}
    {a : α} {b : β} (hfirst : first.Reads bytes a) (hnext : (next a).Reads [] b) :
    (first >>= next).Reads bytes b := by
  simpa using hfirst.bind hnext

/-- A look-up that succeeds takes no bytes. -/
theorem Reads.lift {result : Except ClassFileError α} {a : α} (h : result = .ok a) :
    Reads (liftM result) [] a := by
  intro rest
  rw [h]
  rfl

/-- A look-up in front of other decoders. -/
theorem Reads.lift_bind {result : Except ClassFileError α} {a : α} {next : α → Decoder β}
    {bytes : List UInt8} {b : β} (h : result = .ok a) (hnext : (next a).Reads bytes b) :
    Reads (liftM result >>= next) bytes b := by
  simpa using (Reads.lift h).bind hnext

theorem Reads.run {decoder : Decoder α} {bytes : List UInt8} {value : α}
    (h : decoder.Reads bytes value) (rest : List UInt8) :
    decoder.run (bytes ++ rest) = .ok value := by
  show (decoder (bytes ++ rest)).map Prod.fst = _
  rw [h]
  rfl

/-- Everything may be read, to the last byte. -/
theorem Reads.run_all {decoder : Decoder α} {bytes : List UInt8} {value : α}
    (h : decoder.Reads bytes value) : decoder.run bytes = .ok value := by
  simpa using h.run []

/-- Two readings of one input by one decoder take the same bytes and make the same of them. -/
theorem Reads.unique {decoder : Decoder α} {bytes others rest rest' : List UInt8} {a b : α}
    (h : decoder.Reads bytes a) (h' : decoder.Reads others b)
    (heq : bytes ++ rest = others ++ rest') : bytes = others ∧ a = b ∧ rest = rest' := by
  have hread := h rest
  rw [heq, h' rest', Except.ok.injEq, Prod.mk.injEq] at hread
  obtain ⟨rfl, rfl⟩ := hread
  exact ⟨List.append_cancel_right heq, rfl, rfl⟩

/-! ## Numbers -/

theorem or_eq_add {a b i : Nat} (h : b < 2 ^ i) : a * 2 ^ i ||| b = a * 2 ^ i + b := by
  rw [← Nat.shiftLeft_eq, Nat.shiftLeft_add_eq_or_of_lt h]

/-- A number is put together from its two bytes. -/
theorem u2_of_bytes (n : UInt16) :
    ((n >>> 8).toUInt8.toUInt16 <<< 8) ||| n.toUInt8.toUInt16 = n := by
  have hn := n.toNat_lt
  have hhigh : ((n >>> 8).toUInt8.toUInt16 <<< 8).toNat = n.toNat / 256 * 2 ^ 8 := by
    simp [Nat.shiftLeft_eq, Nat.shiftRight_eq_div_pow]
    omega
  have hlow : n.toUInt8.toUInt16.toNat = n.toNat % 256 := by simp
  apply UInt16.toNat_inj.1
  rw [UInt16.toNat_or, hhigh, hlow, or_eq_add (by omega)]
  omega

/-- A number is put together from its four bytes. -/
theorem u4_of_bytes (n : UInt32) :
    ((n >>> 24).toUInt8.toUInt32 <<< 24) ||| ((n >>> 16).toUInt8.toUInt32 <<< 16)
      ||| ((n >>> 8).toUInt8.toUInt32 <<< 8) ||| n.toUInt8.toUInt32 = n := by
  have hn := n.toNat_lt
  have h₃ : ((n >>> 24).toUInt8.toUInt32 <<< 24).toNat = n.toNat / 2 ^ 24 * 2 ^ 24 := by
    simp [Nat.shiftLeft_eq, Nat.shiftRight_eq_div_pow]
    omega
  have h₂ : ((n >>> 16).toUInt8.toUInt32 <<< 16).toNat = n.toNat / 2 ^ 16 % 256 * 2 ^ 16 := by
    simp [Nat.shiftLeft_eq, Nat.shiftRight_eq_div_pow]
    omega
  have h₁ : ((n >>> 8).toUInt8.toUInt32 <<< 8).toNat = n.toNat / 2 ^ 8 % 256 * 2 ^ 8 := by
    simp [Nat.shiftLeft_eq, Nat.shiftRight_eq_div_pow]
    omega
  have h₀ : n.toUInt8.toUInt32.toNat = n.toNat % 256 := by simp
  apply UInt32.toNat_inj.1
  rw [UInt32.toNat_or, UInt32.toNat_or, UInt32.toNat_or, h₃, h₂, h₁, h₀, or_eq_add (by omega)]
  -- what has been put together so far ends in zeros, where the next byte goes
  rw [show n.toNat / 2 ^ 24 * 2 ^ 24 + n.toNat / 2 ^ 16 % 256 * 2 ^ 16
      = n.toNat / 2 ^ 16 * 2 ^ 16 by omega, or_eq_add (by omega)]
  rw [show n.toNat / 2 ^ 16 * 2 ^ 16 + n.toNat / 2 ^ 8 % 256 * 2 ^ 8
      = n.toNat / 2 ^ 8 * 2 ^ 8 by omega, or_eq_add (by omega)]
  omega

theorem reads_u1 (b : UInt8) : u1.Reads [b] b := fun _ => rfl

theorem reads_u2 (n : UInt16) : u2.Reads (encodeU2 n) n := by
  intro rest
  show Except.ok (_, rest) = _
  rw [u2_of_bytes]

theorem reads_u4 (n : UInt32) : u4.Reads (encodeU4 n) n := by
  intro rest
  show Except.ok (_, rest) = _
  rw [u4_of_bytes]

theorem reads_bytes (block : List UInt8) : (bytes block.length).Reads block block := by
  intro rest
  simp [bytes]

/-! ## Lists -/

theorem reads_times_zero (decoder : Decoder α) : (times 0 decoder).Reads [] [] := .pure _

theorem reads_times_succ {decoder : Decoder α} {n : Nat} {block others : List UInt8} {a : α}
    {as : List α} (hfirst : decoder.Reads block a) (hothers : (times n decoder).Reads others as) :
    (times (n + 1) decoder).Reads (block ++ others) (a :: as) :=
  hfirst.bind (hothers.bind_nil (.pure _))

/-- A list of at most 65535 values behind its length. -/
theorem reads_counted {decoder : Decoder α} {items : List β} {block : List UInt8}
    {values : List α} (hlength : items.length < 65536)
    (hitems : (times items.length decoder).Reads block values) :
    (counted decoder).Reads (encodeCount items ++ block) values := by
  refine (reads_u2 _).bind ?_
  rw [UInt16.toNat_ofNat_of_lt' hlength]
  exact hitems

end Decoder

end MultiRelease.ClassFile
