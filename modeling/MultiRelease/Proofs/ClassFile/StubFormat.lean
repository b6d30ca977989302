import MultiRelease.Proofs.ClassFile.FormatReading
import MultiRelease.Proofs.ClassFile.StubRoundTrip

/-!
# Stubs as files of the format

What the writer puts behind the constant pool is, record by record, what the format asks for.  Each
record has one lemma here, `ensures_…_expresses`, which finds the record of the format with the same
bytes (`Format.Expresses`) and shows that it says what was written, whatever pool of the format
stands in front of it, as long as that pool is read as the constants of the stub.

So the pool is all that a stub needs to be a class file (`Stub.exists_classFile`).  An index of a
pool that is read as a text or reference leads to that text or reference in the pool itself
(`Format.Pool.exists_constant_of_slot`), which turns around what `FormatReading` says about the
reader.

The records are put together as the writer does it:

* a reference is one of its own kind, to the name that was asked for (`ensures_hasName`, of which
  `ensures_classRef`, `ensures_moduleRef` and `ensures_packageRef` are cases);
* a list is written as one of the format if each of its items is
  (`ensures_encodeCounted_expresses`);
* `ensures_module_expresses` for the content of a module attribute, and
  `Stub.ensures_body_expresses` for everything behind the pool.

The pool is left open in all of this, because whether the constants of a stub are a pool of the
format is another matter.  It depends on how their texts are written (`StubTexts`).
-/

set_option autoImplicit false

namespace MultiRelease

open ClassFile

namespace Format

/-! ## From what is read to what stands there -/

/-- Only a text is read as a text. -/
theorem Constant.exists_utf8_of_entry {constant : Constant} {value : String}
    (h : constant.entry = .narrow (.text value)) :
    ∃ text, constant = .utf8 text ∧ text.val = value := by
  cases constant with
  | utf8 text => exact ⟨text, rfl, by simpa [entry] using h⟩
  | _ => simp [entry] at h

namespace Pool

/-- A slot that is of use is that of a constant, and the index tells which. -/
theorem exists_constantAt?_of_slots {slot : ClassFile.Constant} (hignored : slot ≠ .ignored)
    (hunusable : slot ≠ .unusable) {constants : List Constant} :
    ∀ {position : Nat}, (constants.flatMap Constant.slots)[position]? = some slot →
      ∃ constant, constantAt? constants (position + 1) = some constant ∧
        constant.entry = .narrow slot := by
  induction constants with
  | nil => exact fun h => absurd h (by simp)
  | cons first others ih =>
    intro position h
    rw [List.flatMap_cons] at h
    by_cases hposition : position < first.slots.length
    · rw [List.getElem?_append_left hposition, Constant.slots] at h
      cases hentry : first.entry with
      | narrow found =>
        rw [hentry] at h
        cases position with
        | zero => exact ⟨first, if_pos rfl, by simpa [hentry] using h⟩
        | succ position => simp at h
      | wide =>
        -- neither slot of a wide constant is of use
        have hmem := List.mem_of_getElem? h
        rw [hentry] at hmem
        exact absurd hmem (by simp [hignored, hunusable])
    · rw [Nat.not_lt] at hposition
      rw [List.getElem?_append_right hposition] at h
      rw [first.length_slots] at h hposition
      have hwidth : 0 < first.width := by cases first <;> simp [Constant.width]
      obtain ⟨constant, hconstant, hentry⟩ := ih h
      refine ⟨constant, ?_, hentry⟩
      rw [constantAt?, if_neg (by omega), if_neg (by omega), ← hconstant]
      congr 1
      omega

variable {pool : Pool} {index : UInt16}

/-- A slot that is of use was made of a constant with this index. -/
theorem exists_constant_of_slot {slot : ClassFile.Constant} (hignored : slot ≠ .ignored)
    (hunusable : slot ≠ .unusable) (h : pool.decoded.slot index = .ok slot) :
    ∃ constant, constantAt? pool.constants index.toNat = some constant ∧
      constant.entry = .narrow slot := by
  rw [ConstantPool.slot, decoded] at h
  cases hindex : index.toNat with
  | zero =>
    rw [hindex] at h
    exact absurd (Except.ok.inj h) (Ne.symm hunusable)
  | succ position =>
    rw [hindex, List.getElem?_cons_succ] at h
    refine exists_constantAt?_of_slots hignored hunusable ?_
    cases hfound : (pool.constants.flatMap Constant.slots)[position]? with
    | none => rw [hfound] at h; cases h
    | some found => rw [hfound] at h; exact congrArg some (Except.ok.inj h)

/-- What is read as a text stands in the pool as that text. -/
theorem hasText_of_decoded {value : String} (h : pool.decoded.text index = .ok value) :
    pool.HasText index value := by
  have hslot : pool.decoded.slot index = .ok (.text value) := by
    rw [ConstantPool.text] at h
    split at h
    · rename_i found hfound
      rw [hfound, Except.ok.inj h]
    · cases h
  obtain ⟨constant, hconstant, hentry⟩ := exists_constant_of_slot (by simp) (by simp) hslot
  obtain ⟨text, rfl, hvalue⟩ := Constant.exists_utf8_of_entry hentry
  exact ⟨text, hconstant, hvalue⟩

end Pool

/-! ## Records -/

/-- The bytes are those of a record of the format, and in every pool that is read as the given one
the record says the value. -/
def Expresses {ρ α : Type} (encode : ρ → List UInt8) (Denotes : Pool → ρ → α → Prop) (value : α)
    (pool : ConstantPool) (bytes : List UInt8) : Prop :=
  ∃ record, encode record = bytes ∧ ∀ p : Pool, p.decoded = pool → Denotes p record value

end Format

open Format (Expresses)

namespace ClassFile

/-! ## Names -/

/-- A reference is read from a slot of its own kind, with the index of its name. -/
theorem ensures_pooledRef_slot {kind : ConstantKind} (hkind : kind ≠ .text) {name : String}
    (h : FitsText name) : Ensures (pooledRef kind name) fun pool index =>
      ∃ nameIndex, pool.slot index = .ok (kind.slot name nameIndex) ∧
        pool.text nameIndex = .ok name := by
  intro pool hpool
  obtain ⟨hgrows, hsound, hindex⟩ := pooledRef_spec hkind h hpool
  refine ⟨hgrows, hsound, fun final hfinal hfinished => ?_⟩
  obtain ⟨⟨bytes, hmem⟩, hslot⟩ :=
    slot_decoded hfinished (PoolBuilder.index?_mono hfinal hindex)
  obtain ⟨nameIndex, hname⟩ := index?_text_of_ref hfinished.sound hkind hmem
  rw [PoolBuilder.slotOf, hname] at hslot
  exact ⟨nameIndex, hslot, text_decoded hfinished hname⟩

/-- What is read as a reference of some kind is such a reference. -/
theorem ensures_hasName {kind : ConstantKind} (hkind : kind ≠ .text) {name : String}
    {reference : UInt16 → Format.Constant}
    (hreference : ∀ constant index, constant.entry = .narrow (kind.slot name index) →
      constant = reference index) (h : FitsText name) :
    Ensures (pooledRef kind name) fun pool index =>
      ∀ p : Format.Pool, p.decoded = pool → p.HasName reference index name := by
  refine (ensures_pooledRef_slot hkind h).imp ?_
  rintro _ index ⟨nameIndex, hslot, htext⟩ p rfl
  obtain ⟨constant, hconstant, hentry⟩ := Format.Pool.exists_constant_of_slot
    (by cases kind <;> simp [ConstantKind.slot]) (by cases kind <;> simp [ConstantKind.slot]) hslot
  rw [hreference constant nameIndex hentry] at hconstant
  exact ⟨nameIndex, hconstant, Format.Pool.hasText_of_decoded htext⟩

theorem ensures_classRef {name : String} (h : FitsText name) :
    Ensures (pooledRef .classRef name) fun pool index =>
      ∀ p : Format.Pool, p.decoded = pool → p.HasName .classRef index name :=
  ensures_hasName (by decide)
    (fun constant _ => by cases constant <;> simp [Format.Constant.entry, ConstantKind.slot]) h

theorem ensures_moduleRef {name : String} (h : FitsText name) :
    Ensures (pooledRef .moduleRef name) fun pool index =>
      ∀ p : Format.Pool, p.decoded = pool → p.HasName .moduleRef index name :=
  ensures_hasName (by decide)
    (fun constant _ => by cases constant <;> simp [Format.Constant.entry, ConstantKind.slot]) h

theorem ensures_packageRef {name : String} (h : FitsText name) :
    Ensures (pooledRef .packageRef name) fun pool index =>
      ∀ p : Format.Pool, p.decoded = pool → p.HasName .packageRef index name :=
  ensures_hasName (by decide)
    (fun constant _ => by cases constant <;> simp [Format.Constant.entry, ConstantKind.slot]) h

theorem ensures_hasText {value : String} (h : FitsText value) :
    Ensures (pooledText value) fun pool index =>
      ∀ p : Format.Pool, p.decoded = pool → p.HasText index value :=
  (ensures_pooledText h).imp fun _ _ htext _ hp =>
    Format.Pool.hasText_of_decoded (by rw [hp]; exact htext)

theorem ensures_moduleName_expresses {name : String} (h : FitsText name) :
    Ensures (encodeModuleName name)
      (Expresses encodeU2 (fun p => p.HasName .moduleRef) name) :=
  (ensures_moduleRef h).bind fun index => .pure fun _ hname => ⟨index, rfl, hname⟩

theorem ensures_typeName_expresses {name : String} (h : FitsText name) :
    Ensures (encodeTypeName name) (Expresses encodeU2 Format.DenotesType (dotted name)) :=
  (ensures_classRef h.slashed).bind fun index => .pure fun _ hname =>
    ⟨index, rfl, fun p hp => ⟨slashed name, hname p hp, (dotted_slashed name).symm⟩⟩

/-! ## Lists -/

section Lists

variable {α β ρ : Type} {encode : α → Pooling (List UInt8)} {recordBytes : ρ → List UInt8}
  {Denotes : Format.Pool → ρ → β → Prop} {value : α → β} {items : List α}

/-- Items that are each a record of the format are a list of such records. -/
theorem ensures_encodeAll_expresses
    (h : ∀ item ∈ items, Ensures (encode item) (Expresses recordBytes Denotes (value item))) :
    Ensures (encodeAll encode items) fun pool bytes =>
      ∃ records : List ρ, records.length = items.length ∧ records.flatMap recordBytes = bytes ∧
        ∀ p : Format.Pool, p.decoded = pool →
          List.Forall₂ (Denotes p) records (items.map value) := by
  induction items with
  | nil => exact .pure fun _ => ⟨[], rfl, rfl, fun _ _ => .nil⟩
  | cons item items ih =>
    rw [List.forall_mem_cons] at h
    refine h.1.bind fun first => (ih h.2).bind fun others => .pure ?_
    rintro pool ⟨records, hlength, rfl, hrecords⟩ ⟨record, rfl, hrecord⟩
    exact ⟨record :: records, congrArg Nat.succ hlength, rfl,
      fun p hp => .cons (hrecord p hp) (hrecords p hp)⟩

/-- The list is one of the format, behind its length. -/
theorem ensures_encodeCounted_expresses (hlength : items.length ≤ 65535)
    (h : ∀ item ∈ items, Ensures (encode item) (Expresses recordBytes Denotes (value item))) :
    Ensures (encodeCounted encode items)
      (Expresses (Format.encodeShort recordBytes)
        (fun p records => List.Forall₂ (Denotes p) records.val) (items.map value)) := by
  refine (ensures_encodeAll_expresses h).bind fun bytes => .pure ?_
  rintro pool ⟨records, hrecords, rfl, hdenotes⟩
  have hcount : encodeCount items = encodeCount records := by
    rw [encodeCount, encodeCount, hrecords]
  exact ⟨⟨records, by omega⟩, by rw [hcount]; rfl, hdenotes⟩

end Lists

/-! ## Module declarations -/

theorem ensures_requirement_expresses {r : Requirement} (h : FitsText r.name) :
    Ensures (encodeRequirement r)
      (Expresses Format.Requirement.encode Format.Requirement.Denotes r) :=
  (ensures_moduleRef h).bind fun index => .pure fun _ hname =>
    ⟨⟨index, _, 0⟩, (List.append_assoc _ _ _).symm, fun p hp =>
      ⟨hname p hp, (transitive_of_flags r.transitive r.isStatic).symm,
        (isStatic_of_flags r.transitive r.isStatic).symm⟩⟩

theorem ensures_packageExport_expresses {e : PackageExport} (hpackage : FitsText e.package)
    (htexts : ∀ target ∈ e.targets, FitsText target) (hlength : e.targets.length ≤ 65535) :
    Ensures (encodePackageExport e)
      (Expresses Format.PackageExport.encode Format.PackageExport.Denotes e.withDots) := by
  have htargets := ensures_encodeCounted_expresses hlength
    fun target htarget => ensures_moduleName_expresses (htexts target htarget)
  refine (ensures_packageRef hpackage.slashed).bind fun index => htargets.bind fun _ => .pure ?_
  rintro pool ⟨targets, rfl, hdenotes⟩ hname
  refine ⟨⟨index, 0, targets⟩, (List.append_assoc _ _ _).symm, fun p hp => ?_⟩
  refine ⟨⟨_, hname p hp, (dotted_slashed e.package).symm⟩, ?_⟩
  simpa [PackageExport.withDots] using hdenotes p hp

theorem ensures_provision_expresses {d : Provision} (hservice : FitsText d.service)
    (htexts : ∀ name ∈ d.implementations, FitsText name)
    (hlength : d.implementations.length ≤ 65535) :
    Ensures (encodeProvision d)
      (Expresses Format.Provision.encode Format.Provision.Denotes d.withDots) := by
  have himplementations := ensures_encodeCounted_expresses hlength
    fun name hname => ensures_typeName_expresses (htexts name hname)
  refine (ensures_typeName_expresses hservice).bind fun _ => himplementations.bind fun _ => .pure ?_
  rintro pool ⟨implementations, rfl, hdenotes⟩ ⟨service, rfl, hname⟩
  exact ⟨⟨service, implementations⟩, rfl, fun p hp => ⟨hname p hp, hdenotes p hp⟩⟩

/-- **The content of a module attribute is a declaration of the format.** -/
theorem ensures_module_expresses {m : ModuleDescriptor} (htexts : ∀ text ∈ m.texts, FitsText text)
    (h : m.FitsFormat) :
    Ensures (encodeModule m)
      (Expresses Format.ModuleContent.encode Format.ModuleContent.Denotes m.withDots) := by
  obtain ⟨hname, hrequires, hpackages, huses, hprovides⟩ :=
    ModuleDescriptor.forall_mem_texts.1 htexts
  have hname := ensures_moduleName_expresses hname
  have hrequires := ensures_encodeCounted_expresses h.requires
    fun r hr => ensures_requirement_expresses (hrequires r hr)
  have hpackages : ∀ e ∈ m.exports ++ m.opens, Ensures (encodePackageExport e)
      (Expresses Format.PackageExport.encode Format.PackageExport.Denotes e.withDots) :=
    fun e he => ensures_packageExport_expresses (hpackages e he).1 (hpackages e he).2
      (h.targets e he)
  have hexports := ensures_encodeCounted_expresses h.exports
    fun e he => hpackages e (List.mem_append_left _ he)
  have hopens := ensures_encodeCounted_expresses h.opens
    fun e he => hpackages e (List.mem_append_right _ he)
  have huses := ensures_encodeCounted_expresses h.uses
    fun name hname => ensures_typeName_expresses (huses name hname)
  have hprovides := ensures_encodeCounted_expresses h.provides
    fun d hd => ensures_provision_expresses (hprovides d hd).1 (hprovides d hd).2
      (h.implementations d hd)
  refine hname.bind fun _ => hrequires.bind fun _ => hexports.bind fun _ => hopens.bind fun _ =>
    huses.bind fun _ => hprovides.bind fun _ => .pure ?_
  rintro pool ⟨provides, rfl, hprovides⟩ ⟨uses, rfl, huses⟩ ⟨opens, rfl, hopens⟩
    ⟨exports, rfl, hexports⟩ ⟨requires, rfl, hrequires⟩ ⟨name, rfl, hname⟩
  refine ⟨⟨name, if m.isOpen then openFlag else 0, 0, requires, exports, opens, uses, provides⟩,
    by simp only [Format.ModuleContent.encode, List.append_assoc], fun p hp => ?_⟩
  rw [List.map_id'] at hrequires
  exact
    { name := hname p hp
      isOpen := (isOpen_of_flags m.isOpen).symm
      requires := hrequires p hp
      exports := hexports p hp
      opens := hopens p hp
      uses := huses p hp
      provides := hprovides p hp }

end ClassFile

/-! ## Stubs -/

namespace Stub

/-- A member is written as one of the format that has no attributes. -/
theorem ensures_member_expresses {member : Member} (hname : FitsText member.name)
    (hdescriptor : FitsText member.descriptor) :
    Ensures (encodeMember member)
      (Expresses Format.Member.encode Format.Member.Denotes member) :=
  (ensures_hasText hname).bind fun name => (ensures_hasText hdescriptor).bind fun descriptor =>
    .pure fun _ hdescriptor hname =>
      ⟨⟨member.flags, name, descriptor, ⟨[], by decide⟩⟩,
        by simp only [Format.Member.encode, List.append_assoc]; rfl,
        fun p hp => ⟨rfl, hname p hp, hdescriptor p hp⟩⟩

theorem ensures_super_expresses {superName : Option String}
    (h : ∀ name ∈ superName, FitsText name) :
    Ensures (encodeSuper superName)
      (Expresses encodeU2 (fun p index declared => index = 0 ∧ declared = none ∨
        ∃ name, p.HasName .classRef index name ∧ declared = some name) superName) := by
  cases superName with
  | none => exact .pure fun _ => ⟨0, rfl, fun _ _ => .inl ⟨rfl, rfl⟩⟩
  | some name =>
    exact (ensures_classRef (h name rfl)).bind fun index => .pure fun _ hname =>
      ⟨index, rfl, fun p hp => .inr ⟨name, hname p hp, rfl⟩⟩

/-- At most one attribute is written, which declares the module. -/
theorem ensures_attributes_expresses {module : Option ModuleDescriptor}
    (htexts : ∀ m ∈ module, ∀ text ∈ m.texts, FitsText text)
    (h : ∀ m ∈ module, m.FitsFormat) :
    Ensures (encodeAttributes module)
      (Expresses (Format.encodeShort fun a => a.toAttribute.encode)
        (fun p attributes => List.Forall₂ (Format.ClassAttribute.Denotes p) attributes.val)
        (module.toList.map fun m => some m.withDots)) := by
  cases module with
  | none => exact .pure fun _ => ⟨⟨[], by decide⟩, rfl, fun _ _ => .nil⟩
  | some m =>
    have hcontent := (ensures_module_expresses (htexts m rfl) (h m rfl)).and_result
      (R := fun content => content.length = m.attributeLength) (length_encodeModule m)
    have hname : FitsText moduleAttributeName := by rw [FitsText]; decide
    refine hcontent.bind fun _ => (ensures_hasText hname).bind fun name => .pure ?_
    rintro pool hname ⟨⟨content, rfl, hcontent⟩, hlength⟩
    have hfits : content.encode.length < 2 ^ 32 := hlength ▸ (h m rfl).attributeLength
    refine ⟨⟨[.module name content hfits], by simp⟩, ?_, fun p hp =>
      .cons (.module (hname p hp) (hcontent p hp)) .nil⟩
    simp only [Format.encodeShort, List.flatMap_cons, List.flatMap_nil, List.append_nil,
      List.append_assoc]
    rfl

/-- What is written behind the pool is what the format has there. -/
theorem ensures_body_expresses {stub : Stub} (h : stub.FitsFormat) :
    Ensures (encodeBody stub) fun pool body => ∀ p : Format.Pool, p.decoded = pool →
      ∃ c : Format.ClassFile, c.pool = p ∧ c.Denotes stub.type ∧ c.minorVersion = 0 ∧
        encodeU2 c.flags ++ (encodeU2 c.thisClass ++ (encodeU2 c.superClass ++
          (Format.encodeShort encodeU2 c.interfaces ++
          (Format.encodeShort Format.Member.encode c.fields ++
          (Format.encodeShort Format.Member.encode c.methods ++
            Format.encodeShort (fun a => a.toAttribute.encode) c.attributes))))) = body := by
  obtain ⟨hthis, hsuper, hmembers, hmodule⟩ := h.fitsTexts
  have hmember : ∀ member ∈ stub.fields ++ stub.methods, Ensures (encodeMember member)
      (Expresses Format.Member.encode Format.Member.Denotes member) := fun member hmember =>
    ensures_member_expresses (hmembers member hmember).1 (hmembers member hmember).2
  have hfields := ensures_encodeCounted_expresses h.fields
    fun member hm => hmember member (List.mem_append_left _ hm)
  have hmethods := ensures_encodeCounted_expresses h.methods
    fun member hm => hmember member (List.mem_append_right _ hm)
  refine (ensures_classRef hthis).bind fun thisClass =>
    (ensures_super_expresses hsuper).bind fun _ => hfields.bind fun _ => hmethods.bind fun _ =>
      (ensures_attributes_expresses hmodule h.module).bind fun _ => .pure ?_
  rintro pool ⟨attributes, rfl, hattributes⟩ ⟨methods, rfl, hmethods⟩ ⟨fields, rfl, hfields⟩
    ⟨superClass, rfl, hsuper⟩ hthis p hp
  rw [List.map_id'] at hfields hmethods
  have hdeclared : (stub.module.toList.map fun m => some m.withDots).reduceOption
      = (stub.module.map ModuleDescriptor.withDots).toList := by
    cases stub.module <;> rfl
  refine ⟨⟨0, stub.majorVersion, p, stub.flags, thisClass, superClass, ⟨[], by decide⟩, fields,
    methods, attributes⟩, rfl, ?_, rfl, by simp only [List.append_assoc]; rfl⟩
  exact
    { name := hthis p hp
      superName := hsuper p hp
      interfaces := .nil
      flags := rfl
      majorVersion := rfl
      fields := hfields p hp
      methods := hmethods p hp
      module := ⟨_, hattributes p hp, hdeclared⟩
      moduleName := rfl }

/-- **A stub is a class file of the format as soon as its constants are a pool of the format.** -/
theorem exists_classFile {stub : Stub} (h : stub.FitsFormat) {p : Format.Pool}
    (hencode : p.encode = stub.pool.encode) (hdecoded : p.decoded = stub.pool.decoded) :
    ∃ c : Format.ClassFile, c.encode = stub.encode ∧ c.Denotes stub.type := by
  obtain ⟨-, -, hbody⟩ := ensures_body_expresses h [] PoolBuilder.sound_nil
  obtain ⟨c, rfl, hdenotes, hminor, hbytes⟩ :=
    hbody _ (List.prefix_refl _) (finished_pool h) p hdecoded
  have hmajor : stub.majorVersion = c.majorVersion := hdenotes.majorVersion
  refine ⟨c, ?_, hdenotes⟩
  rw [encode_eq, ← hbytes, ← hencode, hmajor, Format.ClassFile.encode, hminor, magic]

end Stub

end MultiRelease
