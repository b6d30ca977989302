import MultiRelease.Proofs.ClassFile.StubFormat
import MultiRelease.Proofs.ClassFile.TextReading

/-!
# The texts of a stub

The writer of stubs puts every text into the pool in plain UTF-8, where the format asks for modified
UTF-8.  The reader does not notice, because it takes either.  Whoever reads by the format does:
`Stub.isClassFile_iff_isPlain` says that a stub is a class file of the format exactly if none of its
names and descriptors has a character that the two encodings write in different ways, which are NUL
and the characters beyond the basic plane.

* Which texts are in the pool is followed through the writer by `Adds`, with one rule for each way
  in which actions are put together.  They are the names and descriptors of the stub and no others
  (`Stub.exists_text_mem_pool_iff`).
* If they are plain, each constant of the pool is one of the format
  (`PoolBuilder.Finished.exists_pool`), and what stands behind the pool is what the format has there
  (`Stub.exists_classFile`).
* If they are not, no class file at all has the bytes of the stub.  Constants of the format can be
  told apart by their bytes, so that a pool of the format with the bytes of a stub has the same
  constants one by one (`PoolBuilder.all_isWrittenAlike_of_flatMap`), of which one would have to be
  a text in plain UTF-8.

The second and the third point go by induction over the constants of the pool.  Names of packages
and types are stored with slashes, which makes no difference to whether they are plain
(`Stub.isPlain_iff`).
-/

set_option autoImplicit false

namespace MultiRelease

open ClassFile

/-! ## What the texts are -/

/-- The texts that stand for an exported package, as they are stored. -/
def PackageExport.storedTexts (e : PackageExport) : List String := slashed e.package :: e.targets

/-- The texts that stand for a provision, as they are stored. -/
def Provision.storedTexts (p : Provision) : List String :=
  slashed p.service :: p.implementations.map slashed

/-- The texts that stand for a module declaration, as they are stored: names of packages and types
with slashes between their segments. -/
def ModuleDescriptor.storedTexts (m : ModuleDescriptor) : List String :=
  m.name :: (m.requires.map (·.name) ++ (m.exports.flatMap PackageExport.storedTexts ++
    (m.opens.flatMap PackageExport.storedTexts ++
      (m.uses.map slashed ++ m.provides.flatMap Provision.storedTexts))))

/-- The texts that a stub stores. -/
def Stub.storedTexts (stub : Stub) : List String :=
  stub.name :: (stub.superName.toList ++
    (stub.fields.flatMap (fun member => [member.name, member.descriptor]) ++
      (stub.methods.flatMap (fun member => [member.name, member.descriptor]) ++
        stub.module.toList.flatMap fun m => m.storedTexts ++ [moduleAttributeName])))

/-- None of the names and descriptors has a character that plain and modified UTF-8 write in
different ways. -/
def Stub.IsPlain (stub : Stub) : Prop :=
  ∀ text ∈ stub.texts, text.toList.all isWrittenAlike = true

namespace ClassFile

/-- Slashes are as plain as dots. -/
theorem all_isWrittenAlike_slashed (name : String) :
    (slashed name).toList.all isWrittenAlike = name.toList.all isWrittenAlike := by
  rw [slashed, Text.replaceChar, String.toList_ofList, List.all_map]
  congr 1
  funext c
  by_cases h : c = '.'
  · rw [h]
    decide
  · simp [h]

end ClassFile

theorem ModuleDescriptor.forall_mem_storedTexts {m : ModuleDescriptor} :
    (∀ text ∈ m.storedTexts, text.toList.all isWrittenAlike = true) ↔
      ∀ text ∈ m.texts, text.toList.all isWrittenAlike = true := by
  simp only [forall_mem_texts, storedTexts, PackageExport.storedTexts, Provision.storedTexts,
    List.forall_mem_cons, List.forall_mem_append, List.forall_mem_map, List.forall_mem_flatMap,
    all_isWrittenAlike_slashed, and_assoc]

/-- It makes no difference whether the texts are looked at as they are given or as they are
stored. -/
theorem Stub.isPlain_iff {stub : Stub} :
    stub.IsPlain ↔ ∀ text ∈ stub.storedTexts, text.toList.all isWrittenAlike = true := by
  have hattribute : moduleAttributeName.toList.all isWrittenAlike = true := by decide
  simp only [IsPlain, forall_mem_texts, storedTexts, List.forall_mem_cons,
    List.forall_mem_append, List.forall_mem_flatMap, ModuleDescriptor.forall_mem_storedTexts,
    hattribute, Option.mem_toList, Option.mem_def, List.not_mem_nil, false_imp_iff, implies_true,
    and_true, and_assoc]

namespace ClassFile

/-! ## Which texts are added -/

/-- The action adds constants for these texts, as far as there are none yet, and for no others. -/
def Adds {α : Type} (action : Pooling α) (texts : List String) : Prop :=
  ∀ (pool : PoolBuilder) (value : String),
    (∃ constant ∈ (action.run pool).2, constant.value = value) ↔
      (∃ constant ∈ pool, constant.value = value) ∨ value ∈ texts

section Adds

variable {α β : Type} {texts others : List String}

theorem Adds.pure (a : α) : Adds (pure a) [] := by
  intro pool value
  rw [or_iff_left List.not_mem_nil]
  exact Iff.rfl

theorem Adds.bind {first : Pooling α} {next : α → Pooling β} (hfirst : Adds first texts)
    (hnext : ∀ a, Adds (next a) others) : Adds (first >>= next) (texts ++ others) := by
  intro pool value
  rw [List.mem_append, ← or_assoc, ← hfirst pool value]
  exact hnext _ _ value

/-- What is made of the result adds nothing. -/
theorem Adds.map {first : Pooling α} (h : Adds first texts) (f : α → β) :
    Adds (first >>= fun a => Pure.pure (f a)) texts := by
  simpa using h.bind fun a => .pure (f a)

/-- A constant that is added at the end adds its text. -/
theorem exists_mem_append_iff {pool : PoolBuilder} {constant : PooledConstant} {value : String} :
    (∃ c ∈ pool ++ [constant], c.value = value) ↔
      (∃ c ∈ pool, c.value = value) ∨ value = constant.value := by
  simp only [List.mem_append, List.mem_singleton, or_and_right, exists_or, exists_eq_left]
  exact or_congr_right eq_comm

/-- Nothing is added where the constant is there. -/
theorem exists_mem_of_index? {pool : PoolBuilder} {kind : ConstantKind} {value : String}
    {index : UInt16} (h : pool.index? kind value = some index) :
    ∃ constant ∈ pool, constant.value = value := by
  obtain ⟨i, hi, -⟩ := Option.map_eq_some_iff.1 h
  obtain ⟨hlt, hfound, -⟩ := List.findIdx?_eq_some_iff_getElem.1 hi
  rw [Bool.and_eq_true, decide_eq_true_eq, decide_eq_true_eq] at hfound
  exact ⟨pool[i], List.getElem_mem hlt, hfound.2⟩

theorem adds_pooledText (text : String) : Adds (pooledText text) [text] := by
  intro pool value
  rw [List.mem_singleton]
  cases hfound : pool.index? .text text with
  | some index =>
    rw [run_pooledText_of_some hfound]
    refine (or_iff_left_of_imp ?_).symm
    rintro rfl
    exact exists_mem_of_index? hfound
  | none =>
    rw [run_pooledText_of_none hfound]
    exact exists_mem_append_iff

/-- A reference adds the text that it refers to. -/
theorem adds_pooledRef (kind : ConstantKind) (name : String) :
    Adds (pooledRef kind name) [name] := by
  intro pool value
  rw [List.mem_singleton]
  cases hfound : pool.index? kind name with
  | some index =>
    rw [run_pooledRef_of_some hfound]
    refine (or_iff_left_of_imp ?_).symm
    rintro rfl
    exact exists_mem_of_index? hfound
  | none =>
    rw [run_pooledRef_of_none hfound]
    refine exists_mem_append_iff.trans ?_
    rw [adds_pooledText name pool value, List.mem_singleton, or_assoc, or_self]

/-- A list adds the texts of its items. -/
theorem adds_encodeCounted {encode : α → Pooling (List UInt8)} {textsOf : α → List String}
    (h : ∀ item, Adds (encode item) (textsOf item)) (items : List α) :
    Adds (encodeCounted encode items) (items.flatMap textsOf) := by
  refine Adds.map ?_ _
  induction items with
  | nil => exact .pure _
  | cons item items ih => exact (h item).bind fun _ => ih.map _

end Adds

theorem adds_moduleName (name : String) : Adds (encodeModuleName name) [name] :=
  (adds_pooledRef .moduleRef name).map _

theorem adds_typeName (name : String) : Adds (encodeTypeName name) [slashed name] :=
  (adds_pooledRef .classRef (slashed name)).map _

theorem adds_requirement (r : Requirement) : Adds (encodeRequirement r) [r.name] :=
  (adds_pooledRef .moduleRef r.name).map _

theorem adds_packageExport (e : PackageExport) : Adds (encodePackageExport e) e.storedTexts := by
  have htargets := adds_encodeCounted adds_moduleName e.targets
  rw [List.flatMap_singleton'] at htargets
  exact (adds_pooledRef .packageRef (slashed e.package)).bind fun _ => htargets.map _

theorem adds_provision (p : Provision) : Adds (encodeProvision p) p.storedTexts := by
  have himplementations := adds_encodeCounted adds_typeName p.implementations
  rw [← List.map_eq_flatMap] at himplementations
  exact (adds_typeName p.service).bind fun _ => himplementations.map _

theorem adds_module (m : ModuleDescriptor) : Adds (encodeModule m) m.storedTexts := by
  have hrequires := adds_encodeCounted adds_requirement m.requires
  have huses := adds_encodeCounted adds_typeName m.uses
  rw [← List.map_eq_flatMap] at hrequires huses
  exact (adds_moduleName m.name).bind fun _ => hrequires.bind fun _ =>
    (adds_encodeCounted adds_packageExport m.exports).bind fun _ =>
      (adds_encodeCounted adds_packageExport m.opens).bind fun _ => huses.bind fun _ =>
        (adds_encodeCounted adds_provision m.provides).map _

end ClassFile

namespace Stub

theorem adds_member (member : Member) :
    Adds (encodeMember member) [member.name, member.descriptor] :=
  (adds_pooledText member.name).bind fun _ => (adds_pooledText member.descriptor).map _

theorem adds_super (superName : Option String) : Adds (encodeSuper superName) superName.toList := by
  cases superName with
  | none => exact .pure _
  | some name => exact (adds_pooledRef .classRef name).map _

theorem adds_attributes (module : Option ModuleDescriptor) :
    Adds (encodeAttributes module)
      (module.toList.flatMap fun m => m.storedTexts ++ [moduleAttributeName]) := by
  cases module with
  | none => exact .pure _
  | some m =>
    rw [Option.toList_some, List.flatMap_singleton]
    exact (adds_module m).bind fun _ => (adds_pooledText moduleAttributeName).map _

/-- What is written behind the pool adds the texts of the stub. -/
theorem adds_body (stub : Stub) : Adds (encodeBody stub) stub.storedTexts :=
  (adds_pooledRef .classRef stub.name).bind fun _ => (adds_super stub.superName).bind fun _ =>
    (adds_encodeCounted adds_member stub.fields).bind fun _ =>
      (adds_encodeCounted adds_member stub.methods).bind fun _ =>
        (adds_attributes stub.module).map _

/-- **The pool has the names and descriptors of the stub as texts, and no other texts.** -/
theorem exists_text_mem_pool_iff {stub : Stub} (h : stub.FitsFormat) {value : String} :
    (∃ bytes, ⟨.text, value, bytes⟩ ∈ stub.pool) ↔ value ∈ stub.storedTexts := by
  have hadds : (∃ constant ∈ stub.pool, constant.value = value) ↔ value ∈ stub.storedTexts := by
    rw [pool, adds_body stub [] value]
    simp
  rw [← hadds]
  constructor
  · rintro ⟨bytes, hmem⟩
    exact ⟨_, hmem, rfl⟩
  · rintro ⟨⟨kind, value, bytes⟩, hmem, rfl⟩
    by_cases hkind : kind = .text
    · exact ⟨bytes, hkind ▸ hmem⟩
    · obtain ⟨index, hindex⟩ := index?_text_of_ref (finished_pool h).sound hkind hmem
      exact (slot_decoded (finished_pool h) hindex).1

end Stub

/-! ## How the texts are written -/

namespace ClassFile

/-- The bytes of a text are those of the format exactly if the two encodings agree on it. -/
theorem textConstantBytes_eq_iff {value : String} :
    textConstantBytes value = 1 :: (encodeCount (modifiedBytes value) ++ modifiedBytes value) ↔
      value.toList.all isWrittenAlike = true := by
  rw [← modifiedBytes_eq_utf8Bytes_iff]
  constructor
  · intro h
    exact (List.append_inj (List.cons.inj h).2 rfl).2.symm
  · intro h
    rw [h]
    rfl

namespace PoolBuilder

variable {pool : PoolBuilder}

/-- A constant whose text is written alike is one of the format. -/
theorem Encodes.exists_constant {constant : PooledConstant} (h : pool.Encodes constant)
    (halike : constant.kind = .text → constant.value.toList.all isWrittenAlike = true) :
    ∃ c : Format.Constant, c.encode = constant.bytes ∧
      c.entry = .narrow (pool.slotOf constant.kind constant.value) := by
  obtain ⟨kind, value, bytes⟩ := constant
  cases kind with
  | text =>
    obtain ⟨hfits, hbytes⟩ := h
    have hmodified := modifiedBytes_eq_utf8Bytes_iff.2 (halike rfl)
    refine ⟨.utf8 ⟨value, by rw [hmodified]; exact hfits⟩, ?_, rfl⟩
    exact (textConstantBytes_eq_iff.2 (halike rfl)).symm.trans hbytes.symm
  | classRef =>
    obtain ⟨index, hindex, hbytes⟩ := h
    exact ⟨.classRef index, hbytes.symm, by rw [slotOf, hindex]; rfl⟩
  | moduleRef =>
    obtain ⟨index, hindex, hbytes⟩ := h
    exact ⟨.moduleRef index, hbytes.symm, by rw [slotOf, hindex]; rfl⟩
  | packageRef =>
    obtain ⟨index, hindex, hbytes⟩ := h
    exact ⟨.packageRef index, hbytes.symm, by rw [slotOf, hindex]; rfl⟩

/-- If all texts are written alike, the constants are those of the format. -/
theorem exists_constants {written : List PooledConstant} (h : ∀ constant ∈ written,
      pool.Encodes constant) (halike : ∀ constant ∈ written, constant.kind = .text →
        constant.value.toList.all isWrittenAlike = true) :
    ∃ constants : List Format.Constant,
      (constants.map Format.Constant.width).sum = written.length ∧
      constants.flatMap Format.Constant.encode = written.flatMap (·.bytes) ∧
      constants.flatMap Format.Constant.slots
        = written.map fun constant => pool.slotOf constant.kind constant.value := by
  induction written with
  | nil => exact ⟨[], rfl, rfl, rfl⟩
  | cons first others ih =>
    rw [List.forall_mem_cons] at h halike
    obtain ⟨constants, hwidth, hbytes, hslots⟩ := ih h.2 halike.2
    obtain ⟨c, hencode, hentry⟩ := h.1.exists_constant halike.1
    refine ⟨c :: constants, ?_, ?_, ?_⟩
    · rw [List.map_cons, List.sum_cons, Format.Constant.width_of_narrow hentry, hwidth,
        List.length_cons, Nat.add_comm]
    · rw [List.flatMap_cons, List.flatMap_cons, hencode, hbytes]
    · rw [List.flatMap_cons, List.map_cons, Format.Constant.slots_of_narrow hentry, hslots]
      rfl

/-- Slot 0 is counted as well. -/
theorem count_eq (n : Nat) : (n + 1).toUInt16 = n.toUInt16 + 1 := UInt16.ofNat_add n 1

/-- If all texts are written alike, the pool is one of the format. -/
theorem Finished.exists_pool (h : pool.Finished) (halike : ∀ constant ∈ pool,
      constant.kind = .text → constant.value.toList.all isWrittenAlike = true) :
    ∃ p : Format.Pool, p.encode = pool.encode ∧ p.decoded = pool.decoded := by
  obtain ⟨constants, hwidth, hbytes, hslots⟩ := exists_constants h.sound halike
  have hencode : encodeU2 ((constants.map Format.Constant.width).sum + 1).toUInt16
      ++ constants.flatMap Format.Constant.encode = pool.encode := by
    rw [hwidth, count_eq, hbytes]
    rfl
  refine ⟨⟨constants, hwidth ▸ h.length_lt⟩, hencode, ?_⟩
  rw [Format.Pool.decoded, decoded, hslots]

/-- A pool of the format with the bytes of a pool under construction has constants of the same
bytes, and so its texts are written alike. -/
theorem all_isWrittenAlike_of_flatMap {written : List PooledConstant} :
    ∀ {constants : List Format.Constant} {rest rest' : List UInt8},
      (∀ constant ∈ written, pool.Encodes constant) →
      (constants.map Format.Constant.width).sum = written.length →
      constants.flatMap Format.Constant.encode ++ rest = written.flatMap (·.bytes) ++ rest' →
      ∀ constant ∈ written, constant.kind = .text →
        constant.value.toList.all isWrittenAlike = true := by
  induction written with
  | nil => exact fun _ _ _ _ hmem => absurd hmem List.not_mem_nil
  | cons first others ih =>
    intro constants rest rest' hencodes hwidth hbytes
    rw [List.forall_mem_cons] at hencodes
    cases constants with
    | nil => cases hwidth
    | cons c constants =>
      rw [List.flatMap_cons, List.flatMap_cons, List.append_assoc, List.append_assoc] at hbytes
      obtain ⟨hfirst, hentry, hrest⟩ := c.reads_encode.unique (reads_entry hencodes.1) hbytes
      rw [List.map_cons, List.sum_cons, Format.Constant.width_of_narrow hentry,
        List.length_cons] at hwidth
      refine List.forall_mem_cons.2 ⟨fun hkind => ?_, ih hencodes.2 (by omega) hrest⟩
      obtain ⟨kind, value, bytes⟩ := first
      obtain rfl : kind = .text := hkind
      obtain ⟨text, rfl, rfl⟩ := Format.Constant.exists_utf8_of_entry hentry
      exact textConstantBytes_eq_iff.1 (hencodes.1.2.symm.trans hfirst.symm)

/-- A pool with the bytes of a pool of the format, whatever stands behind the two, has texts that
are written alike. -/
theorem Finished.all_isWrittenAlike (h : pool.Finished) {p : Format.Pool} {rest rest' : List UInt8}
    (hbytes : p.encode ++ rest = pool.encode ++ rest') : ∀ constant ∈ pool,
      constant.kind = .text → constant.value.toList.all isWrittenAlike = true := by
  have hfits := p.fits
  have hlength := h.length_lt
  rw [Format.Pool.encode, encode, List.append_assoc, List.append_assoc] at hbytes
  obtain ⟨-, hcount, hbytes⟩ := (Decoder.reads_u2 _).unique (Decoder.reads_u2 _) hbytes
  rw [← count_eq, ← UInt16.toNat_inj, UInt16.toNat_ofNat_of_lt', UInt16.toNat_ofNat_of_lt']
    at hcount
  · exact all_isWrittenAlike_of_flatMap h.sound (Nat.succ.inj hcount) hbytes
  · exact Nat.succ_lt_succ hlength
  · exact Nat.succ_lt_succ hfits

end PoolBuilder

end ClassFile

/-! ## Stubs as class files of the format -/

namespace Stub

variable {stub : Stub}

/-- The names and descriptors are plain exactly if the texts in the pool are written alike. -/
theorem isPlain_iff_pool (h : stub.FitsFormat) : stub.IsPlain ↔ ∀ constant ∈ stub.pool,
    constant.kind = .text → constant.value.toList.all isWrittenAlike = true := by
  rw [isPlain_iff]
  constructor
  · rintro hplain ⟨kind, value, bytes⟩ hmem hkind
    exact hplain value ((exists_text_mem_pool_iff h).1 ⟨bytes, hkind ▸ hmem⟩)
  · intro halike value hvalue
    obtain ⟨bytes, hmem⟩ := (exists_text_mem_pool_iff h).2 hvalue
    exact halike _ hmem rfl

/-- Only a stub with plain texts has the bytes of a class file of the format. -/
theorem isPlain_of_encode_eq (h : stub.FitsFormat) {c : Format.ClassFile}
    (hbytes : c.encode = stub.encode) : stub.IsPlain := by
  rw [Format.ClassFile.encode, encode_eq] at hbytes
  obtain ⟨-, -, hbytes⟩ := (Decoder.reads_u4 _).unique (Decoder.reads_u4 _) hbytes
  obtain ⟨-, -, hbytes⟩ := (Decoder.reads_u2 _).unique (Decoder.reads_u2 _) hbytes
  obtain ⟨-, -, hbytes⟩ := (Decoder.reads_u2 _).unique (Decoder.reads_u2 _) hbytes
  exact (isPlain_iff_pool h).2 ((finished_pool h).all_isWrittenAlike hbytes)

/-- A stub with plain texts is a class file of the format. -/
theorem exists_classFile_of_isPlain (h : stub.FitsFormat) (hplain : stub.IsPlain) :
    ∃ c : Format.ClassFile, c.encode = stub.encode ∧ c.Denotes stub.type := by
  obtain ⟨p, hencode, hdecoded⟩ := (finished_pool h).exists_pool ((isPlain_iff_pool h).1 hplain)
  exact exists_classFile h hencode hdecoded

/-- The bytes of a text in the pool are its length and its plain UTF-8. -/
theorem bytes_of_mem_pool (h : stub.FitsFormat) {value : String} {bytes : List UInt8}
    (hmem : ⟨.text, value, bytes⟩ ∈ stub.pool) : bytes = textConstantBytes value :=
  ((finished_pool h).sound _ hmem).2

/-- **A stub is a class file of the format exactly if its names and descriptors are plain.**  The
constants behind the versions hold the names and descriptors as texts and no other texts, each in
plain UTF-8 behind its length.  This is the modified UTF-8 that the format asks for only if the text
has neither NUL nor characters beyond the basic plane.  If that holds of all names and descriptors,
the stub is a class file that describes the type that was written, so that whoever reads by the
format recovers the same names.  Otherwise it is no class file at all. -/
theorem isClassFile_iff_isPlain (stub : Stub) (h : stub.FitsFormat) :
    (∃ body, stub.encode = encodeU4 magic ++ encodeU2 0 ++ encodeU2 stub.majorVersion
      ++ stub.pool.encode ++ body) ∧
    (∀ value, (∃ bytes, ⟨.text, value, bytes⟩ ∈ stub.pool) ↔ value ∈ stub.storedTexts) ∧
    (∀ value bytes, ⟨.text, value, bytes⟩ ∈ stub.pool →
      bytes = 1 :: (encodeCount (utf8Bytes value) ++ utf8Bytes value) ∧
      (bytes = 1 :: (encodeCount (modifiedBytes value) ++ modifiedBytes value) ↔
        ∀ c ∈ value.toList, c.toNat ≠ 0 ∧ c.toNat < 0x10000)) ∧
    ((∃ c : Format.ClassFile, c.encode = stub.encode ∧ c.Denotes stub.type) ↔ stub.IsPlain) ∧
    ((∃ c : Format.ClassFile, c.encode = stub.encode) ↔ stub.IsPlain) := by
  refine ⟨⟨((encodeBody stub).run []).1, by simp only [encode_eq, List.append_assoc]⟩,
    fun value => exists_text_mem_pool_iff h, fun value bytes hmem => ?_,
    ⟨fun ⟨c, hbytes, _⟩ => isPlain_of_encode_eq h hbytes, exists_classFile_of_isPlain h⟩,
    ⟨fun ⟨c, hbytes⟩ => isPlain_of_encode_eq h hbytes, fun hplain => ?_⟩⟩
  · obtain rfl := bytes_of_mem_pool h hmem
    refine ⟨rfl, textConstantBytes_eq_iff.trans ?_⟩
    simp only [List.all_eq_true, isWrittenAlike, Bool.and_eq_true, decide_eq_true_eq]
  · obtain ⟨c, hbytes, -⟩ := exists_classFile_of_isPlain h hplain
    exact ⟨c, hbytes⟩

theorem isClassFile_iff_isPlain_sample : sample.FitsFormat ∧ sample.IsPlain ∧
    ∃ c : Format.ClassFile, c.encode = sample.encode ∧ c.Denotes sample.type := by
  have hplain : sample.IsPlain := by rw [IsPlain]; decide
  exact ⟨sample_fitsFormat, hplain,
    (isClassFile_iff_isPlain sample sample_fitsFormat).2.2.2.1.2 hplain⟩

/-- A stub whose name ends in NUL. -/
def nulNamed : Stub := { name := "a\u0000" }

/-- **The text constants of a stub need not be texts of the format.**  The NUL in the name is
written as a zero byte, and not as the bytes C0 80, so that the stub has the bytes of no class
file. -/
theorem exists_text_not_modified : nulNamed.FitsFormat ∧
    ⟨.text, "a\u0000", [1, 0, 2, 0x61, 0]⟩ ∈ nulNamed.pool ∧
    modifiedBytes "a\u0000" = [0x61, 0xC0, 0x80] ∧
    ∀ c : Format.ClassFile, c.encode ≠ nulNamed.encode := by
  have hfits : nulNamed.FitsFormat :=
    ⟨by decide, by decide, by decide, fun _ hm => absurd hm (by simp [nulNamed]),
      by decide⟩
  refine ⟨hfits, by decide, by decide, fun c hbytes => ?_⟩
  have hname := isPlain_of_encode_eq hfits hbytes nulNamed.name List.mem_cons_self
  exact absurd hname (by decide)

end Stub

end MultiRelease
