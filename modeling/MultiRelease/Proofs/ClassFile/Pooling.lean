import MultiRelease.Proofs.ClassFile.Reading

/-!
# Constant pools under construction

The writer of a stub hands out indices while it is still adding constants, and the pool is put in
front of everything only at the end.  What makes the indices right is that a pool only ever grows at
its end (`<+:`), so that a constant keeps the index that was told for it
(`PoolBuilder.index?_mono`), and that every constant in it is *sound* (`PoolBuilder.Sound`): its
bytes are those of its text, or refer to that text by its index.

Main statements:

* `reads_encode_pool`: a finished pool is read as `PoolBuilder.decoded`, one slot for each constant.
  A pool is finished (`PoolBuilder.Finished`) if it is sound and its slots can be counted in two
  bytes.
* `lookUp_decoded`: in a finished pool, the index that was handed out for a text or a reference
  leads the reader to that text.  It is never the index that stands for none (`index_ne_zero`).
* `ensures_pooledRef`, `ensures_pooledText`: whoever asks for the index of a name may rely on this,
  whatever is added to the pool afterwards.
* `ensures_encodeCounted`: a list is read back behind its length if each of its items is.

The last two speak about *actions* that may add constants.  `Ensures action Q` is their law: the
action keeps pools sound and adds to them at the end only, and `Q` holds of its result in whatever
pool is decoded in the end.  That it speaks of the final pool, which is not known while the action
runs, is what lets the law be closed under sequences (`Ensures.bind`).  The writer is then followed
step by step, with one lemma for each of its functions.
-/

set_option autoImplicit false

namespace MultiRelease.ClassFile

/-! ## Texts -/

/-- The length of a text fits into the two bytes that are there for it. -/
def FitsText (value : String) : Prop := (utf8Bytes value).length < 65536

/-- A text in plain UTF-8 is found to be plain. -/
theorem plainText?_utf8Bytes (value : String) : plainText? (utf8Bytes value) = some value := by
  have hvalid : (⟨(utf8Bytes value).toArray⟩ : ByteArray).IsValidUTF8 := by
    simpa [utf8Bytes] using value.isValidUTF8
  simp only [plainText?, String.fromUTF8?, dif_pos hvalid, Option.some_inj]
  rw [← String.toByteArray_inj]
  simp [String.fromUTF8, utf8Bytes]

/-- A text in plain UTF-8 is read as what it is. -/
theorem decodeText?_utf8Bytes (value : String) : decodeText? (utf8Bytes value) = some value := by
  rw [decodeText?, plainText?_utf8Bytes]

/-- The characters of a text are written one after the other. -/
theorem utf8Bytes_eq (value : String) :
    utf8Bytes value = value.toList.flatMap String.utf8EncodeChar := by
  rw [utf8Bytes, String.toUTF8_eq_toByteArray, ← String.utf8Encode_toList]
  induction value.toList with
  | nil => rfl
  | cons c chars ih =>
    rw [List.flatMap_cons, ← ih, List.utf8Encode_cons, List.utf8Encode_singleton]
    simp

/-- The bytes of a text are counted by character. -/
theorem length_utf8Bytes (value : String) :
    (utf8Bytes value).length = (value.toList.map Char.utf8Size).sum := by
  simp only [utf8Bytes_eq, List.length_flatMap, String.length_utf8EncodeChar]

/-- Slashes take as much room as dots. -/
theorem length_utf8Bytes_slashed (name : String) :
    (utf8Bytes (slashed name)).length = (utf8Bytes name).length := by
  have hsize : ∀ c : Char, (if c = '.' then '/' else c).utf8Size = c.utf8Size := by
    intro c
    split
    · rename_i h; rw [h]; rfl
    · rfl
  rw [length_utf8Bytes, length_utf8Bytes, slashed, Text.replaceChar, String.toList_ofList,
    List.map_map]
  exact congrArg List.sum (List.map_congr_left fun c _ => hsize c)

theorem FitsText.slashed {name : String} (h : FitsText name) : FitsText (slashed name) := by
  rwa [FitsText, length_utf8Bytes_slashed]

/-! ## Constants -/

namespace ConstantKind

/-- The slot of a constant that is the given text, or refers to it by the given index. -/
def slot (value : String) (index : UInt16) : ConstantKind → Constant
  | text => .text value
  | classRef => .classRef index
  | moduleRef => .moduleRef index
  | packageRef => .packageRef index

/-- How the reader looks up the text that a constant of some kind is or refers to. -/
def lookUp : ConstantKind → ConstantPool → UInt16 → Except ClassFileError String
  | text => ConstantPool.text
  | classRef => ConstantPool.className
  | moduleRef => ConstantPool.moduleName
  | packageRef => ConstantPool.packageName

end ConstantKind

/-- The bytes of a text in the pool. -/
def textConstantBytes (value : String) : List UInt8 :=
  ConstantKind.text.tag :: (encodeCount (utf8Bytes value) ++ utf8Bytes value)

/-- The bytes of a reference in the pool. -/
def refConstantBytes (kind : ConstantKind) (index : UInt16) : List UInt8 :=
  kind.tag :: encodeU2 index

/-! ## Sound pools -/

namespace PoolBuilder

/-- **A constant keeps its index while the pool grows.** -/
theorem index?_mono {pool later : PoolBuilder} (h : pool <+: later) {kind : ConstantKind}
    {value : String} {index : UInt16} (hindex : pool.index? kind value = some index) :
    later.index? kind value = some index := by
  obtain ⟨added, rfl⟩ := h
  obtain ⟨i, hi, rfl⟩ := Option.map_eq_some_iff.1 hindex
  rw [index?, List.findIdx?_append, hi]
  rfl

/-- The bytes of a constant are what its slot is to hold: its own text, or the index of the text
that it refers to. -/
def Encodes (pool : PoolBuilder) (constant : PooledConstant) : Prop :=
  match constant.kind with
  | .text => FitsText constant.value ∧ constant.bytes = textConstantBytes constant.value
  | kind => ∃ index, pool.index? .text constant.value = some index ∧
      constant.bytes = refConstantBytes kind index

/-- Every constant of the pool has the bytes that it should have. -/
def Sound (pool : PoolBuilder) : Prop := ∀ constant ∈ pool, pool.Encodes constant

theorem sound_nil : Sound [] := fun _ h => absurd h List.not_mem_nil

/-- What a constant refers to stays where it is while the pool grows. -/
theorem Encodes.mono {pool later : PoolBuilder} (h : pool <+: later)
    {constant : PooledConstant} (hc : pool.Encodes constant) : later.Encodes constant := by
  obtain ⟨kind, value, bytes⟩ := constant
  cases kind with
  | text => exact hc
  | _ =>
    obtain ⟨index, hindex, hbytes⟩ := hc
    exact ⟨index, index?_mono h hindex, hbytes⟩

theorem Sound.append {pool : PoolBuilder} (h : pool.Sound) {constant : PooledConstant}
    (hc : pool.Encodes constant) : Sound (pool ++ [constant]) := by
  intro other hother
  rcases List.mem_append.1 hother with hold | hnew
  · exact (h other hold).mono (List.prefix_append _ _)
  · rw [List.mem_singleton.1 hnew]
    exact hc.mono (List.prefix_append _ _)

/-- The index of a constant that is added at the end and was not there before. -/
theorem index?_append_self {pool : PoolBuilder} {constant : PooledConstant}
    (h : pool.index? constant.kind constant.value = none) :
    index? (pool ++ [constant]) constant.kind constant.value
      = some (pool ++ [constant]).length.toUInt16 := by
  rw [index?, Option.map_eq_none_iff] at h
  rw [index?, List.findIdx?_append, h]
  simp

/-! ## What a reader makes of a pool -/

/-- What the reader finds in the slot of a constant. -/
def slotOf (pool : PoolBuilder) (kind : ConstantKind) (value : String) : Constant :=
  kind.slot value ((pool.index? .text value).getD 0)

/-- The constant pool that the reader makes of a finished pool. -/
def decoded (pool : PoolBuilder) : ConstantPool :=
  ⟨.unusable :: pool.map fun constant => pool.slotOf constant.kind constant.value⟩

/-- Nothing more is added to the pool, and its slots can be counted. -/
structure Finished (pool : PoolBuilder) : Prop where
  sound : pool.Sound
  /-- With slot 0, the number of slots has to fit into two bytes. -/
  length_lt : pool.length < 65535

end PoolBuilder

open PoolBuilder

/-- A constant of a sound pool is read as its slot. -/
theorem reads_entry {pool : PoolBuilder} {constant : PooledConstant}
    (h : pool.Encodes constant) :
    (Decoder.u1 >>= entryWithTag).Reads constant.bytes
      (.narrow (pool.slotOf constant.kind constant.value)) := by
  obtain ⟨kind, value, bytes⟩ := constant
  cases kind with
  | text =>
    obtain ⟨hfits, hbytes⟩ := h
    dsimp only at hfits hbytes ⊢
    rw [hbytes]
    refine (Decoder.reads_u1 _).bind ((Decoder.reads_u2 _).bind ?_)
    rw [UInt16.toNat_ofNat_of_lt' hfits]
    refine (Decoder.reads_bytes _).bind_nil ?_
    rw [decodeText?_utf8Bytes]
    exact .pure _
  | _ =>
    obtain ⟨index, hindex, hbytes⟩ := h
    dsimp only at hindex hbytes ⊢
    rw [hbytes, slotOf, hindex]
    exact (Decoder.reads_u1 _).bind ((Decoder.reads_u2 _).bind_nil (.pure _))

theorem reads_slots {pool : PoolBuilder} :
    ∀ constants : List PooledConstant, (∀ c ∈ constants, pool.Encodes c) →
      (decodeSlots constants.length).Reads (constants.flatMap (·.bytes))
        (constants.map fun c => pool.slotOf c.kind c.value)
  | [], _ => .pure _
  | constant :: constants, h => by
    have hfirst := reads_entry (h constant (by simp))
    have hothers := reads_slots constants fun c hc => h c (by simp [hc])
    rw [List.length_cons, decodeSlots, ← bind_assoc, List.flatMap_cons, List.map_cons]
    exact hfirst.bind (hothers.bind_nil (.pure _))

/-- **A finished pool is read as the slots of its constants.** -/
theorem reads_encode_pool {pool : PoolBuilder} (h : pool.Finished) :
    decodePool.Reads pool.encode pool.decoded := by
  have hlength := h.length_lt
  have hcount : (pool.length.toUInt16 + 1).toNat - 1 = pool.length := by
    have hlt : pool.length < UInt16.size := by rw [show UInt16.size = 65536 from rfl]; omega
    rw [UInt16.toNat_add, UInt16.toNat_ofNat_of_lt' hlt]
    simp
    omega
  refine (Decoder.reads_u2 _).bind ?_
  rw [hcount]
  exact (reads_slots pool h.sound).bind_nil (.pure _)

/-! ## Looking constants up -/

/-- The slot that an index leads to is that of a constant of the pool. -/
theorem slot_decoded {pool : PoolBuilder} (hpool : pool.Finished) {kind : ConstantKind}
    {value : String} {index : UInt16} (h : pool.index? kind value = some index) :
    (∃ bytes, ⟨kind, value, bytes⟩ ∈ pool) ∧
      pool.decoded.slot index = .ok (pool.slotOf kind value) := by
  obtain ⟨i, hi, rfl⟩ := Option.map_eq_some_iff.1 h
  obtain ⟨hlt, hfound, -⟩ := List.findIdx?_eq_some_iff_getElem.1 hi
  rw [Bool.and_eq_true, decide_eq_true_eq, decide_eq_true_eq] at hfound
  obtain ⟨rfl, rfl⟩ := hfound
  refine ⟨⟨_, List.getElem_mem hlt⟩, ?_⟩
  have hindex : i + 1 < UInt16.size := by
    have := hpool.length_lt
    rw [show UInt16.size = 65536 from rfl]
    omega
  rw [ConstantPool.slot, UInt16.toNat_ofNat_of_lt' hindex, decoded]
  simp [hlt]

/-- A reference has its text in the pool. -/
theorem index?_text_of_ref {pool : PoolBuilder} (hpool : pool.Sound) {kind : ConstantKind}
    (hkind : kind ≠ .text) {value : String} {bytes : List UInt8}
    (h : ⟨kind, value, bytes⟩ ∈ pool) : ∃ index, pool.index? .text value = some index := by
  have hsound := hpool _ h
  cases kind with
  | text => exact absurd rfl hkind
  | _ => exact hsound.imp fun _ h => h.1

theorem text_decoded {pool : PoolBuilder} (hpool : pool.Finished) {value : String}
    {index : UInt16} (h : pool.index? .text value = some index) :
    pool.decoded.text index = .ok value := by
  rw [ConstantPool.text, (slot_decoded hpool h).2]
  rfl

/-- **An index leads the reader to the text that it was handed out for.** -/
theorem lookUp_decoded {pool : PoolBuilder} (hpool : pool.Finished) {kind : ConstantKind}
    {value : String} {index : UInt16} (h : pool.index? kind value = some index) :
    kind.lookUp pool.decoded index = .ok value := by
  obtain ⟨⟨bytes, hmem⟩, hslot⟩ := slot_decoded hpool h
  by_cases hkind : kind = .text
  · subst hkind
    exact text_decoded hpool h
  · obtain ⟨textIndex, htextIndex⟩ := index?_text_of_ref hpool.sound hkind hmem
    rw [slotOf, htextIndex] at hslot
    -- each of the three look-ups finds its own kind of slot, and then the text behind it
    cases kind with
    | text => exact absurd rfl hkind
    | classRef =>
      rw [ConstantKind.lookUp, ConstantPool.className, hslot]
      exact text_decoded hpool htextIndex
    | moduleRef =>
      rw [ConstantKind.lookUp, ConstantPool.moduleName, hslot]
      exact text_decoded hpool htextIndex
    | packageRef =>
      rw [ConstantKind.lookUp, ConstantPool.packageName, hslot]
      exact text_decoded hpool htextIndex

/-- No constant has the index that stands for none. -/
theorem index_ne_zero {pool : PoolBuilder} (hpool : pool.Finished) {kind : ConstantKind}
    {value : String} {index : UInt16} (h : pool.index? kind value = some index) : index ≠ 0 := by
  intro hzero
  have hslot := (slot_decoded hpool h).2
  -- slot 0 is unusable, and no constant is
  rw [hzero, slotOf] at hslot
  cases kind <;> cases hslot

/-! ## Actions that may add constants -/

/-- The action keeps pools sound and adds to them at the end only, and `Q` holds of its result in
whatever pool is decoded in the end. -/
def Ensures {α : Type} (action : Pooling α) (Q : ConstantPool → α → Prop) : Prop :=
  ∀ pool : PoolBuilder, pool.Sound →
    pool <+: (action.run pool).2 ∧ Sound (action.run pool).2 ∧
      ∀ final : PoolBuilder, (action.run pool).2 <+: final → final.Finished →
        Q final.decoded (action.run pool).1

section Ensures

variable {α β : Type}

theorem Ensures.pure {a : α} {Q : ConstantPool → α → Prop} (h : ∀ pool, Q pool a) :
    Ensures (pure a) Q :=
  fun _ hpool => ⟨List.prefix_refl _, hpool, fun _ _ _ => h _⟩

/-- What the first action ensures may be used for what the second one does with its result. -/
theorem Ensures.bind {first : Pooling α} {next : α → Pooling β} {P : ConstantPool → α → Prop}
    {Q : ConstantPool → β → Prop} (hfirst : Ensures first P)
    (hnext : ∀ a, Ensures (next a) fun pool b => P pool a → Q pool b) :
    Ensures (first >>= next) Q := by
  intro pool hpool
  obtain ⟨hgrows, hsound, hP⟩ := hfirst pool hpool
  obtain ⟨hgrows', hsound', hQ⟩ := hnext (first.run pool).1 _ hsound
  exact ⟨hgrows.trans hgrows', hsound', fun final hfinal hfinished =>
    hQ final hfinal hfinished (hP final (hgrows'.trans hfinal) hfinished)⟩

theorem Ensures.and {action : Pooling α} {P Q : ConstantPool → α → Prop} (hP : Ensures action P)
    (hQ : Ensures action Q) : Ensures action fun pool a => P pool a ∧ Q pool a := by
  intro pool hpool
  obtain ⟨hgrows, hsound, hP⟩ := hP pool hpool
  exact ⟨hgrows, hsound, fun final hfinal hfinished =>
    ⟨hP final hfinal hfinished, (hQ pool hpool).2.2 final hfinal hfinished⟩⟩

/-- What is ensured may be weakened. -/
theorem Ensures.imp {action : Pooling α} {P Q : ConstantPool → α → Prop} (h : Ensures action P)
    (himp : ∀ pool a, P pool a → Q pool a) : Ensures action Q := by
  intro pool hpool
  obtain ⟨hgrows, hsound, hP⟩ := h pool hpool
  exact ⟨hgrows, hsound, fun final hfinal hfinished => himp _ _ (hP final hfinal hfinished)⟩

/-- A fact about the result in every pool may be added. -/
theorem Ensures.and_result {action : Pooling α} {P : ConstantPool → α → Prop} {R : α → Prop}
    (hP : Ensures action P) (hR : ∀ pool, R (action.run pool).1) :
    Ensures action fun pool a => P pool a ∧ R a := by
  intro pool hpool
  obtain ⟨hgrows, hsound, hP⟩ := hP pool hpool
  exact ⟨hgrows, hsound, fun final hfinal hfinished => ⟨hP final hfinal hfinished, hR pool⟩⟩

end Ensures

/-! ### Indices -/

/-- Whoever asks for the index of a text that is in the pool changes nothing. -/
theorem run_pooledText_of_some {pool : PoolBuilder} {value : String} {index : UInt16}
    (h : pool.index? .text value = some index) : (pooledText value).run pool = (index, pool) := by
  rw [pooledText]
  simp [h]
  rfl

/-- A text that is not in the pool yet is added at its end. -/
theorem run_pooledText_of_none {pool : PoolBuilder} {value : String}
    (h : pool.index? .text value = none) :
    (pooledText value).run pool =
      (addConstant ⟨.text, value, textConstantBytes value⟩).run pool := by
  rw [pooledText]
  simp [h]
  rfl

/-- The pool in which a text has been looked for holds it, and told its index. -/
theorem pooledText_spec {value : String} (h : FitsText value) {pool : PoolBuilder}
    (hpool : pool.Sound) :
    pool <+: ((pooledText value).run pool).2 ∧ Sound ((pooledText value).run pool).2 ∧
      index? ((pooledText value).run pool).2 .text value
        = some ((pooledText value).run pool).1 := by
  cases hfound : pool.index? .text value with
  | some index =>
    rw [run_pooledText_of_some hfound]
    exact ⟨List.prefix_refl _, hpool, hfound⟩
  | none =>
    rw [run_pooledText_of_none hfound]
    exact ⟨List.prefix_append _ _, hpool.append ⟨h, rfl⟩, index?_append_self hfound⟩

theorem run_pooledRef_of_some {kind : ConstantKind} {pool : PoolBuilder} {name : String}
    {index : UInt16} (h : pool.index? kind name = some index) :
    (pooledRef kind name).run pool = (index, pool) := by
  rw [pooledRef]
  simp [h]
  rfl

/-- A reference that is not in the pool yet is added behind its text. -/
theorem run_pooledRef_of_none {kind : ConstantKind} {pool : PoolBuilder} {name : String}
    (h : pool.index? kind name = none) :
    (pooledRef kind name).run pool =
      (addConstant ⟨kind, name, refConstantBytes kind ((pooledText name).run pool).1⟩).run
        ((pooledText name).run pool).2 := by
  rw [pooledRef]
  simp [h]
  rfl

/-- Adding a text adds no reference. -/
theorem index?_pooledText_of_ref {kind : ConstantKind} (hkind : kind ≠ .text)
    {pool : PoolBuilder} {name value : String} (h : pool.index? kind name = none) :
    index? ((pooledText value).run pool).2 kind name = none := by
  cases hfound : pool.index? .text value with
  | some index => rwa [run_pooledText_of_some hfound]
  | none =>
    rw [run_pooledText_of_none hfound]
    show index? (pool ++ [_]) kind name = none
    rw [index?, Option.map_eq_none_iff, List.findIdx?_append, Option.map_eq_none_iff.1 h]
    simp [Ne.symm hkind]

/-- The pool in which a reference has been looked for holds it, and told its index. -/
theorem pooledRef_spec {kind : ConstantKind} (hkind : kind ≠ .text) {name : String}
    (h : FitsText name) {pool : PoolBuilder} (hpool : pool.Sound) :
    pool <+: ((pooledRef kind name).run pool).2 ∧ Sound ((pooledRef kind name).run pool).2 ∧
      index? ((pooledRef kind name).run pool).2 kind name
        = some ((pooledRef kind name).run pool).1 := by
  cases hfound : pool.index? kind name with
  | some index =>
    rw [run_pooledRef_of_some hfound]
    exact ⟨List.prefix_refl _, hpool, hfound⟩
  | none =>
    obtain ⟨hgrows, hsound, htext⟩ := pooledText_spec h hpool
    rw [run_pooledRef_of_none hfound]
    refine ⟨hgrows.trans (List.prefix_append _ _), hsound.append ?_, ?_⟩
    · cases kind with
      | text => exact absurd rfl hkind
      | _ => exact ⟨_, htext, rfl⟩
    · exact index?_append_self (index?_pooledText_of_ref hkind hfound)

/-- The index of a text leads the reader to the text. -/
theorem ensures_pooledText {value : String} (h : FitsText value) :
    Ensures (pooledText value) fun pool index =>
      ConstantKind.text.lookUp pool index = .ok value := by
  intro pool hpool
  obtain ⟨hgrows, hsound, hindex⟩ := pooledText_spec h hpool
  exact ⟨hgrows, hsound, fun _ hfinal hfinished =>
    lookUp_decoded hfinished (index?_mono hfinal hindex)⟩

/-- **The index of a reference leads the reader to the name.** -/
theorem ensures_pooledRef (kind : ConstantKind) (hkind : kind ≠ .text) {name : String}
    (h : FitsText name) :
    Ensures (pooledRef kind name) fun pool index => kind.lookUp pool index = .ok name := by
  intro pool hpool
  obtain ⟨hgrows, hsound, hindex⟩ := pooledRef_spec hkind h hpool
  exact ⟨hgrows, hsound, fun _ hfinal hfinished =>
    lookUp_decoded hfinished (index?_mono hfinal hindex)⟩

theorem ensures_pooledRef_ne_zero (kind : ConstantKind) (hkind : kind ≠ .text) {name : String}
    (h : FitsText name) : Ensures (pooledRef kind name) fun _ index => index ≠ 0 := by
  intro pool hpool
  obtain ⟨hgrows, hsound, hindex⟩ := pooledRef_spec hkind h hpool
  exact ⟨hgrows, hsound, fun _ hfinal hfinished =>
    index_ne_zero hfinished (index?_mono hfinal hindex)⟩

/-! ### Lists -/

variable {α β : Type}

/-- The bytes of all items are read back, if those of each are. -/
theorem ensures_encodeAll {encode : α → Pooling (List UInt8)} {decoder : ConstantPool → Decoder β}
    {value : α → β} :
    ∀ items : List α,
      (∀ item ∈ items, Ensures (encode item) fun pool bytes =>
        (decoder pool).Reads bytes (value item)) →
      Ensures (encodeAll encode items) fun pool bytes =>
        (Decoder.times items.length (decoder pool)).Reads bytes (items.map value)
  | [], _ => .pure fun _ => Decoder.reads_times_zero _
  | item :: items, h =>
    (h item (by simp)).bind fun _ =>
      (ensures_encodeAll items fun other hother => h other (by simp [hother])).bind fun _ =>
        .pure fun _ hothers hfirst => Decoder.reads_times_succ hfirst hothers

/-- A list is read back behind its length. -/
theorem ensures_encodeCounted {encode : α → Pooling (List UInt8)}
    {decoder : ConstantPool → Decoder β} {value : α → β} {items : List α}
    (hlength : items.length < 65536)
    (h : ∀ item ∈ items, Ensures (encode item) fun pool bytes =>
      (decoder pool).Reads bytes (value item)) :
    Ensures (encodeCounted encode items) fun pool bytes =>
      (Decoder.counted (decoder pool)).Reads bytes (items.map value) :=
  (ensures_encodeAll items h).bind fun _ =>
    .pure fun _ hitems => Decoder.reads_counted hlength hitems

end MultiRelease.ClassFile
