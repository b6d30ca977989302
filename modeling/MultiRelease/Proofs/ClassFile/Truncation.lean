import MultiRelease.Proofs.ClassFile.FormatReading

/-!
# Class files that break off

A class file that was cut short is told from a malformed one by its error.  This rests on how the
reader goes through its input: it only ever takes bytes off the front, so nothing that it decides
depends on bytes that it has not taken yet.

* `Decoder.Takes decoder bytes value` is `Decoder.Reads` together with what happens on less: on an
  input that ends within the bytes, the decoder runs out of them, and fails in no other way.
* A decoder is *sequential* (`Decoder.Sequential`) if wherever it succeeds, it takes what is in
  front of the rest in this sense.  Look-ups and failures are sequential, since they take nothing,
  and so is a sequence of sequential decoders (`Decoder.Sequential.bind`): an input that ends within
  what both take ends within what one of them takes, and if this is the second one, the first has
  succeeded as it did before.

Every function of the reader is sequential because it is put together from such parts, and
`parseBinaryType_truncated` says what follows for whole files.
-/

set_option autoImplicit false

namespace MultiRelease

open ClassFile

namespace ClassFile.Decoder

variable {α β : Type}

/-- The decoder takes exactly these bytes off the front of an input, makes the value of them, and
runs out of bytes on an input that ends within them. -/
structure Takes (decoder : Decoder α) (bytes : List UInt8) (value : α) : Prop where
  reads : decoder.Reads bytes value
  runsOut : ∀ count < bytes.length, decoder (bytes.take count) = .error .unexpectedEnd

/-- Wherever the decoder succeeds, it has taken what is in front of the rest. -/
def Sequential (decoder : Decoder α) : Prop :=
  ∀ input value rest, decoder input = .ok (value, rest) →
    ∃ bytes, input = bytes ++ rest ∧ decoder.Takes bytes value

/-! ## Putting decoders together -/

theorem Takes.pure (value : α) : Takes (pure value) [] value where
  reads := .pure value
  runsOut _ h := absurd h (Nat.not_lt_zero _)

/-- A sequence goes on where its first decoder stopped. -/
theorem bind_eq_of_ok {first : Decoder α} {next : α → Decoder β} {input rest : List UInt8} {a : α}
    (h : first input = .ok (a, rest)) : (first >>= next) input = next a rest := by
  show (first input >>= fun result => next result.1 result.2) = _
  rw [h]
  rfl

theorem bind_eq_of_error {first : Decoder α} {next : α → Decoder β} {input : List UInt8}
    {error : ClassFileError} (h : first input = .error error) :
    (first >>= next) input = .error error := by
  show (first input >>= fun result => next result.1 result.2) = _
  rw [h]
  rfl

/-- An input that ends within what both take ends within what one of them takes. -/
theorem Takes.bind {first : Decoder α} {next : α → Decoder β} {bytes others : List UInt8} {a : α}
    {b : β} (hfirst : first.Takes bytes a) (hnext : (next a).Takes others b) :
    (first >>= next).Takes (bytes ++ others) b where
  reads := hfirst.reads.bind hnext.reads
  runsOut count hcount := by
    rw [List.take_append]
    rcases Nat.lt_or_ge count bytes.length with hshort | hlong
    · -- the first decoder does not have all that it takes
      rw [Nat.sub_eq_zero_of_le (Nat.le_of_lt hshort), List.take_zero, List.append_nil]
      exact bind_eq_of_error (hfirst.runsOut count hshort)
    · rw [List.length_append] at hcount
      rw [List.take_of_length_le hlong, bind_eq_of_ok (hfirst.reads _)]
      exact hnext.runsOut (count - bytes.length) (by omega)

theorem Sequential.pure (value : α) : Sequential (pure value) := by
  intro input found rest h
  obtain ⟨rfl, rfl⟩ := Prod.mk.inj (Except.ok.inj h)
  exact ⟨[], rfl, .pure value⟩

/-- A decoder that always fails. -/
theorem Sequential.throw (error : ClassFileError) : Sequential (throw error : Decoder α) :=
  fun _ _ _ h => nomatch h

/-- **A sequence of sequential decoders is sequential.** -/
theorem Sequential.bind {first : Decoder α} {next : α → Decoder β} (hfirst : first.Sequential)
    (hnext : ∀ a, (next a).Sequential) : (first >>= next).Sequential := by
  intro input b rest h
  cases hresult : first input with
  | error error =>
    rw [bind_eq_of_error hresult] at h
    cases h
  | ok result =>
    obtain ⟨a, middle⟩ := result
    rw [bind_eq_of_ok hresult] at h
    obtain ⟨bytes, rfl, htakes⟩ := hfirst input a middle hresult
    obtain ⟨others, rfl, hothers⟩ := hnext a middle b rest h
    exact ⟨bytes ++ others, (List.append_assoc ..).symm, htakes.bind hothers⟩

/-- A look-up takes no bytes, whether it succeeds or not. -/
theorem Sequential.lift (result : Except ClassFileError α) :
    Sequential (liftM result : Decoder α) := by
  cases result with
  | ok value => exact .pure value
  | error error => exact .throw error

/-! ## Numbers and runs of bytes -/

theorem sequential_u1 : u1.Sequential := by
  rintro (_ | ⟨b, others⟩) value rest h
  · cases h
  · obtain ⟨rfl, rfl⟩ := Prod.mk.inj (Except.ok.inj h)
    exact ⟨[b], rfl, fun _ => rfl, by simp [u1]⟩

theorem sequential_u2 : u2.Sequential := by
  rintro (_ | ⟨b₁, _ | ⟨b₀, others⟩⟩) value rest h
  · cases h
  · cases h
  · obtain ⟨rfl, rfl⟩ := Prod.mk.inj (Except.ok.inj h)
    refine ⟨[b₁, b₀], rfl, fun _ => rfl, fun count hcount => ?_⟩
    match count, hcount with
    | 0, _ | 1, _ => rfl

theorem sequential_u4 : u4.Sequential := by
  rintro (_ | ⟨b₃, _ | ⟨b₂, _ | ⟨b₁, _ | ⟨b₀, others⟩⟩⟩⟩) value rest h
  · cases h
  · cases h
  · cases h
  · cases h
  · obtain ⟨rfl, rfl⟩ := Prod.mk.inj (Except.ok.inj h)
    refine ⟨[b₃, b₂, b₁, b₀], rfl, fun _ => rfl, fun count hcount => ?_⟩
    match count, hcount with
    | 0, _ | 1, _ | 2, _ | 3, _ => rfl

theorem bytes_of_short {size : Nat} {input : List UInt8} (h : input.length < size) :
    bytes size input = .error .unexpectedEnd := by
  simp only [bytes, List.length_take]
  rw [if_neg (by omega)]

/-- Bytes are taken as a run, or not at all. -/
theorem sequential_bytes (size : Nat) : (bytes size).Sequential := by
  intro input value rest h
  simp only [bytes] at h
  split at h
  · rename_i hlength
    obtain ⟨rfl, rfl⟩ := Prod.mk.inj (Except.ok.inj h)
    have hreads := reads_bytes (input.take size)
    rw [hlength] at hreads
    refine ⟨input.take size, (List.take_append_drop size input).symm, hreads,
      fun count hcount => ?_⟩
    exact bytes_of_short (by rw [List.length_take]; omega)
  · cases h

/-! ## Lists -/

/-- A repeated decoder is sequential, by induction on how often it is repeated. -/
theorem Sequential.times {decoder : Decoder α} (h : decoder.Sequential) :
    ∀ count, (times count decoder).Sequential
  | 0 => .pure []
  | count + 1 => h.bind fun _ => (h.times count).bind fun _ => .pure _

theorem Sequential.counted {decoder : Decoder α} (h : decoder.Sequential) :
    (counted decoder).Sequential :=
  sequential_u2.bind fun count => h.times count.toNat

/-! ## Whole inputs -/

/-- **Where a sequential decoder succeeds, some first bytes decide.**  With less than these it runs
out of bytes, and whatever follows them makes no difference. -/
theorem Sequential.run_eq_ok {decoder : Decoder α} (h : decoder.Sequential) {input : List UInt8}
    {value : α} (hrun : decoder.run input = .ok value) :
    ∃ count ≤ input.length,
      (∀ front, front <+: input → front.length < count →
        decoder.run front = .error .unexpectedEnd) ∧
      ∀ longer, input.take count <+: longer → decoder.run longer = .ok value := by
  cases hresult : decoder input with
  | error error => simp [run, StateT.run, hresult, Except.map] at hrun
  | ok result =>
    obtain ⟨found, rest⟩ := result
    obtain rfl : found = value := by simpa [run, StateT.run, hresult, Except.map] using hrun
    obtain ⟨bytes, rfl, htakes⟩ := h input found rest hresult
    refine ⟨bytes.length, by simp, fun front hfront hlength => ?_, fun longer hlonger => ?_⟩
    · have htake : front = bytes.take front.length := by
        have hprefix := List.prefix_iff_eq_take.1 hfront
        rwa [List.take_append_of_le_length (Nat.le_of_lt hlength)] at hprefix
      have hout := htakes.runsOut front.length hlength
      rw [← htake] at hout
      simp [run, StateT.run, hout, Except.map]
    · obtain ⟨more, rfl⟩ := hlonger
      rw [List.take_left]
      exact htakes.reads.run more

end ClassFile.Decoder

namespace ClassFile

open Decoder

/-! ## Constant pools -/

theorem sequential_skip (width : Nat) : (entryWithTag.skip width).Sequential :=
  (sequential_bytes width).bind fun _ => .pure _

/-- One case for each tag, none of which looks at more than it takes. -/
theorem sequential_entryWithTag (tag : UInt8) : (entryWithTag tag).Sequential := by
  have hreference : ∀ constant : UInt16 → Constant,
      (do let name ← u2; pure (.narrow (constant name)) : Decoder Entry).Sequential :=
    fun _ => sequential_u2.bind fun _ => .pure _
  unfold entryWithTag
  split
  · refine sequential_u2.bind fun length => (sequential_bytes length.toNat).bind fun text => ?_
    cases decodeText? text with
    | some value => exact .pure _
    | none => exact .throw _
  · exact (sequential_bytes 8).bind fun _ => .pure _
  · exact (sequential_bytes 8).bind fun _ => .pure _
  · exact hreference .classRef
  · exact hreference .moduleRef
  · exact hreference .packageRef
  · exact sequential_skip 2
  · exact sequential_skip 2
  · exact sequential_skip 3
  · exact sequential_skip 4
  · exact sequential_skip 4
  · exact sequential_skip 4
  · exact sequential_skip 4
  · exact sequential_skip 4
  · exact sequential_skip 4
  · exact sequential_skip 4
  · exact sequential_skip 4
  · exact .throw _

/-- By strong induction, since a wide entry leaves two slots less to fill. -/
theorem sequential_decodeSlots (count : Nat) : (decodeSlots count).Sequential := by
  induction count using Nat.strongRecOn with
  | ind count ih =>
    cases count with
    | zero => exact .pure []
    | succ n =>
      rw [decodeSlots]
      refine sequential_u1.bind fun tag => (sequential_entryWithTag tag).bind fun entry => ?_
      cases entry with
      | narrow constant => exact (ih n (by omega)).bind fun _ => .pure _
      | wide =>
        cases n with
        | zero => exact (Sequential.pure []).bind fun _ => .pure _
        | succ m => exact (ih m (by omega)).bind fun _ => .pure _

theorem sequential_decodePool : decodePool.Sequential :=
  sequential_u2.bind fun count => (sequential_decodeSlots (count.toNat - 1)).bind fun _ => .pure _

/-! ## Members -/

theorem sequential_skipAttribute : skipAttribute.Sequential :=
  sequential_u2.bind fun _ => sequential_u4.bind fun length =>
    (sequential_bytes length.toNat).bind fun _ => .pure ()

theorem sequential_decodeMember (pool : ConstantPool) : (decodeMember pool).Sequential :=
  sequential_u2.bind fun _ => sequential_u2.bind fun nameIndex => sequential_u2.bind
    fun descriptorIndex => sequential_u2.bind fun attributeCount =>
      (Sequential.lift (pool.text nameIndex)).bind fun _ =>
        (Sequential.lift (pool.text descriptorIndex)).bind fun _ =>
          (sequential_skipAttribute.times attributeCount.toNat).bind fun _ => .pure _

/-! ## Attributes of classes -/

/-- The body of an attribute is taken as a whole before anything in it is looked at. -/
theorem sequential_decodeClassAttribute (pool : ConstantPool) :
    (decodeClassAttribute pool).Sequential := by
  refine sequential_u2.bind fun nameIndex => sequential_u4.bind fun length =>
    (sequential_bytes length.toNat).bind fun body =>
      (Sequential.lift (pool.text nameIndex)).bind fun name => ?_
  split
  · exact (Sequential.lift ((decodeModule pool).run body)).bind fun _ => .pure _
  · exact .pure none

/-! ## Class files -/

theorem sequential_expectMagic : expectMagic.Sequential := by
  refine sequential_u4.bind fun number => ?_
  split
  · exact .pure ()
  · exact .throw _

/-- Reading a class file is a sequence of sequential steps. -/
theorem sequential_decodeClass : decodeClass.Sequential := by
  refine sequential_expectMagic.bind fun _ => sequential_u2.bind fun _ => sequential_u2.bind
    fun majorVersion => sequential_decodePool.bind fun pool => sequential_u2.bind fun flags =>
      sequential_u2.bind fun thisIndex => sequential_u2.bind fun superIndex => ?_
  have hinterfaces : (counted (do let index ← u2; pool.className index)).Sequential :=
    .counted (sequential_u2.bind fun index => .lift (pool.className index))
  have hmembers : (counted (decodeMember pool)).Sequential := (sequential_decodeMember pool).counted
  have hattributes : (counted (decodeClassAttribute pool)).Sequential :=
    (sequential_decodeClassAttribute pool).counted
  exact hinterfaces.bind fun _ => hmembers.bind fun _ => hmembers.bind fun _ =>
    hattributes.bind fun _ => (Sequential.lift (pool.className thisIndex)).bind fun _ =>
      (Sequential.lift (pool.className? superIndex)).bind fun _ => .pure _

end ClassFile

/-- **A class file is decided by some first bytes.**  Whatever is cut off within these, the file
ends unexpectedly, and whatever follows them, it is read as the same type. -/
theorem parseBinaryType_truncated {bytes : List UInt8} {type : BinaryType}
    (h : parseBinaryType bytes = .ok type) :
    ∃ count ≤ bytes.length,
      (∀ front, front <+: bytes → front.length < count →
        parseBinaryType front = .error .unexpectedEnd) ∧
      ∀ longer, bytes.take count <+: longer → parseBinaryType longer = .ok type :=
  sequential_decodeClass.run_eq_ok h

/-- A compiled module declaration with two bytes behind it. -/
theorem parseBinaryType_truncated_sample :
    parseBinaryType (Format.ClassFile.sample.encode ++ [0, 1]) = .ok Format.ClassFile.sampleType ∧
      ∃ count ≤ (Format.ClassFile.sample.encode ++ [0, 1]).length,
        (∀ front, front <+: Format.ClassFile.sample.encode ++ [0, 1] → front.length < count →
          parseBinaryType front = .error .unexpectedEnd) ∧
        ∀ longer, (Format.ClassFile.sample.encode ++ [0, 1]).take count <+: longer →
          parseBinaryType longer = .ok Format.ClassFile.sampleType := by
  have hparse : parseBinaryType (Format.ClassFile.sample.encode ++ [0, 1])
      = .ok Format.ClassFile.sampleType :=
    (Format.ClassFile.reads_encode Format.ClassFile.sample_denotes).run [0, 1]
  exact ⟨hparse, parseBinaryType_truncated hparse⟩

end MultiRelease
