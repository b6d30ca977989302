import MultiRelease.Proofs.ClassFile.Format

/-!
# Every class file is read as what it describes

The main statement, `Format.ClassFile.parseBinaryType_of_denotes`, says of every class file of the
format that the reader makes of its bytes the type that it describes.  The constants in it may be of
any kind, wide ones included, and it may have any attributes on the class and on its members.

The reader keeps only texts and references from a constant pool and passes over the rest by its
width.  That it takes the right widths, and the right number of indices for each constant, is
`Pool.reads_encode`: what it makes of a pool is the list of slots in `Pool.decoded`.  An index leads
to the same text there as in the pool itself (`Pool.text_decoded`, `Pool.className_decoded` and so
on), because the slots in front of a constant are as many as the indices that it skips
(`Pool.exists_of_constantAt?`).  This is shown by induction over the constants, along which both the
index and the slots are counted down by the width of the constant in front.

From there on each record of the format has one lemma, `reads_…`, which takes its bytes field by
field and supposes of its names only that they stand in the pool:

* `Member.reads_encode` for fields and methods, whose attributes are passed over;
* `ModuleContent.reads_encode` for the content of a module attribute;
* `ClassAttribute.reads_encode` for an attribute of a class, of which the name decides whether it is
  a declaration or is passed over;
* `ClassFile.reads_encode` for the file as a whole.
-/

set_option autoImplicit false

namespace MultiRelease

open ClassFile

/-! ## Lists -/

namespace ClassFile.Decoder

variable {α β : Type}

/-- A repeated decoder reads what it reads item by item. -/
theorem reads_times {decoder : Decoder α} {encode : β → List UInt8} {items : List β}
    {values : List α}
    (h : List.Forall₂ (fun item value => decoder.Reads (encode item) value) items values) :
    (times items.length decoder).Reads (items.flatMap encode) values := by
  induction h with
  | nil => exact reads_times_zero decoder
  | cons hfirst _ ih => exact reads_times_succ hfirst ih

theorem reads_short {decoder : Decoder α} {encode : β → List UInt8} {items : Format.Short β}
    {values : List α}
    (h : List.Forall₂ (fun item value => decoder.Reads (encode item) value) items.val values) :
    (counted decoder).Reads (Format.encodeShort encode items) values :=
  reads_counted items.property (reads_times h)

end ClassFile.Decoder

namespace Format

/-! ## Constants -/

namespace Constant

/-- What the reader makes of a constant. -/
def entry : Constant → Entry
  | utf8 text => .narrow (.text text.val)
  | long _ _ => .wide
  | double _ _ => .wide
  | classRef name => .narrow (.classRef name)
  | moduleRef name => .narrow (.moduleRef name)
  | packageRef name => .narrow (.packageRef name)
  | _ => .narrow .ignored

/-- The slots that the reader fills with a constant. -/
def slots (constant : Constant) : List ClassFile.Constant :=
  match constant.entry with
  | .narrow slot => [slot]
  | .wide => [.ignored, .unusable]

/-- A constant fills as many slots as it takes indices. -/
theorem length_slots (constant : Constant) : constant.slots.length = constant.width := by
  cases constant <;> rfl

theorem slots_of_narrow {constant : Constant} {slot : ClassFile.Constant}
    (h : constant.entry = .narrow slot) : constant.slots = [slot] := by
  rw [slots, h]

theorem width_of_narrow {constant : Constant} {slot : ClassFile.Constant}
    (h : constant.entry = .narrow slot) : constant.width = 1 := by
  rw [← length_slots, slots_of_narrow h]
  rfl

/-- A constant that is passed over. -/
theorem reads_skip (block : List UInt8) :
    (entryWithTag.skip block.length).Reads block (.narrow .ignored) :=
  (Decoder.reads_bytes block).bind_nil (.pure _)

/-- **Every constant is taken with the width that belongs to its tag.** -/
theorem reads_encode (constant : Constant) :
    (Decoder.u1 >>= entryWithTag).Reads constant.encode constant.entry := by
  cases constant with
  | utf8 text =>
    refine (Decoder.reads_u1 1).bind ((Decoder.reads_u2 _).bind ?_)
    rw [UInt16.toNat_ofNat_of_lt' text.property]
    refine (Decoder.reads_bytes _).bind_nil ?_
    rw [decodeText?_modifiedBytes]
    exact .pure _
  | long high low =>
    exact (Decoder.reads_u1 5).bind
      ((Decoder.reads_bytes (encodeU4 high ++ encodeU4 low)).bind_nil (.pure _))
  | double high low =>
    exact (Decoder.reads_u1 6).bind
      ((Decoder.reads_bytes (encodeU4 high ++ encodeU4 low)).bind_nil (.pure _))
  | classRef name => exact (Decoder.reads_u1 7).bind ((Decoder.reads_u2 name).bind_nil (.pure _))
  | moduleRef name => exact (Decoder.reads_u1 19).bind ((Decoder.reads_u2 name).bind_nil (.pure _))
  | packageRef name => exact (Decoder.reads_u1 20).bind ((Decoder.reads_u2 name).bind_nil (.pure _))
  | integer bits => exact (Decoder.reads_u1 3).bind (reads_skip (encodeU4 bits))
  | float bits => exact (Decoder.reads_u1 4).bind (reads_skip (encodeU4 bits))
  | string text => exact (Decoder.reads_u1 8).bind (reads_skip (encodeU2 text))
  | fieldRef owner member =>
    exact (Decoder.reads_u1 9).bind (reads_skip (encodeU2 owner ++ encodeU2 member))
  | methodRef owner member =>
    exact (Decoder.reads_u1 10).bind (reads_skip (encodeU2 owner ++ encodeU2 member))
  | interfaceMethodRef owner member =>
    exact (Decoder.reads_u1 11).bind (reads_skip (encodeU2 owner ++ encodeU2 member))
  | nameAndType name descriptor =>
    exact (Decoder.reads_u1 12).bind (reads_skip (encodeU2 name ++ encodeU2 descriptor))
  | methodHandle kind target =>
    exact (Decoder.reads_u1 15).bind (reads_skip (kind :: encodeU2 target))
  | methodType descriptor =>
    exact (Decoder.reads_u1 16).bind (reads_skip (encodeU2 descriptor))
  | dynamic bootstrap member =>
    exact (Decoder.reads_u1 17).bind (reads_skip (encodeU2 bootstrap ++ encodeU2 member))
  | invokeDynamic bootstrap member =>
    exact (Decoder.reads_u1 18).bind (reads_skip (encodeU2 bootstrap ++ encodeU2 member))

end Constant

/-! ## Pools -/

namespace Pool

/-- What the reader makes of a pool. -/
def decoded (pool : Pool) : ConstantPool :=
  ⟨.unusable :: pool.constants.flatMap Constant.slots⟩

/-- Constants are read one after the other as the slots that they fill. -/
theorem reads_constants (constants : List Constant) :
    (decodeSlots (constants.map Constant.width).sum).Reads (constants.flatMap Constant.encode)
      (constants.flatMap Constant.slots) := by
  induction constants with
  | nil => exact .pure _
  | cons constant others ih =>
    have hfirst := constant.reads_encode
    rw [List.map_cons, List.sum_cons, List.flatMap_cons, List.flatMap_cons]
    cases hentry : constant.entry with
    | narrow slot =>
      rw [hentry] at hfirst
      rw [Constant.width_of_narrow hentry, Constant.slots_of_narrow hentry, Nat.add_comm,
        decodeSlots, ← bind_assoc]
      exact hfirst.bind (ih.bind_nil (.pure _))
    | wide =>
      have hslots : constant.slots = [.ignored, .unusable] := by rw [Constant.slots, hentry]
      have hwidth : constant.width = 2 := by rw [← constant.length_slots, hslots]; rfl
      rw [hentry] at hfirst
      rw [hwidth, hslots, Nat.add_comm, decodeSlots, ← bind_assoc]
      exact hfirst.bind (ih.bind_nil (.pure _))

/-- **A pool is read as the slots of its constants.** -/
theorem reads_encode (pool : Pool) : decodePool.Reads pool.encode pool.decoded := by
  have hcount : ((pool.constants.map Constant.width).sum + 1).toUInt16.toNat - 1
      = (pool.constants.map Constant.width).sum := by
    have hfits := pool.fits
    rw [UInt16.toNat_ofNat_of_lt' (by rw [show UInt16.size = 65536 from rfl]; omega)]
    omega
  refine (Decoder.reads_u2 _).bind ?_
  rw [hcount]
  exact (reads_constants pool.constants).bind_nil (.pure _)

/-! ### Looking constants up -/

/-- As many slots stand in front of a constant as there are smaller indices. -/
theorem exists_of_constantAt? {constants : List Constant} {constant : Constant}
    {slot : ClassFile.Constant} (hslot : constant.entry = .narrow slot) :
    ∀ {index : Nat}, constantAt? constants index = some constant →
      ∃ position, index = position + 1 ∧
        (constants.flatMap Constant.slots)[position]? = some slot := by
  induction constants with
  | nil => exact fun h => absurd h (by simp [constantAt?])
  | cons first others ih =>
    intro index h
    rw [constantAt?] at h
    split at h
    · rename_i hfirst
      refine ⟨0, hfirst, ?_⟩
      rw [Option.some_inj.1 h, List.flatMap_cons, Constant.slots, hslot]
      rfl
    · split at h
      · cases h
      · obtain ⟨position, hposition, hfound⟩ := ih h
        refine ⟨first.width + position, by omega, ?_⟩
        rw [List.flatMap_cons, ← first.length_slots, List.getElem?_append_right (by omega)]
        rwa [Nat.add_sub_cancel_left]

/-- An index leads the reader to the slot of the constant that has this index. -/
theorem slot_decoded {pool : Pool} {index : UInt16} {constant : Constant}
    {slot : ClassFile.Constant} (hslot : constant.entry = .narrow slot)
    (h : constantAt? pool.constants index.toNat = some constant) :
    pool.decoded.slot index = .ok slot := by
  obtain ⟨position, hposition, hfound⟩ := exists_of_constantAt? hslot h
  rw [ConstantPool.slot, decoded, hposition, List.getElem?_cons_succ, hfound]

variable {pool : Pool} {index : UInt16} {name : String}

/-- An index leads the reader to the text that stands at it. -/
theorem text_decoded (h : pool.HasText index name) : pool.decoded.text index = .ok name := by
  obtain ⟨text, hconstant, rfl⟩ := h
  rw [ConstantPool.text, slot_decoded rfl hconstant]

theorem className_decoded (h : pool.HasName .classRef index name) :
    pool.decoded.className index = .ok name := by
  obtain ⟨nameIndex, hconstant, hname⟩ := h
  rw [ConstantPool.className, slot_decoded rfl hconstant]
  exact text_decoded hname

theorem moduleName_decoded (h : pool.HasName .moduleRef index name) :
    pool.decoded.moduleName index = .ok name := by
  obtain ⟨nameIndex, hconstant, hname⟩ := h
  rw [ConstantPool.moduleName, slot_decoded rfl hconstant]
  exact text_decoded hname

theorem packageName_decoded (h : pool.HasName .packageRef index name) :
    pool.decoded.packageName index = .ok name := by
  obtain ⟨nameIndex, hconstant, hname⟩ := h
  rw [ConstantPool.packageName, slot_decoded rfl hconstant]
  exact text_decoded hname

/-- A reference has an index other than the one that stands for none. -/
theorem ne_zero_of_hasName {kind : UInt16 → Constant} (h : pool.HasName kind index name) :
    index ≠ 0 := by
  rintro rfl
  obtain ⟨nameIndex, hconstant, -⟩ := h
  have hnone : ∀ constants, constantAt? constants 0 = none := by
    intro constants
    cases constants with
    | nil => rfl
    | cons first others => rw [constantAt?, if_neg (by decide), if_pos (Nat.zero_le _)]
  exact absurd (hconstant.symm.trans (hnone _)) (by simp)

end Pool

variable {pool : Pool}

/-! ## Members -/

/-- An attribute of a member is passed over by its length, whatever it is. -/
theorem Attribute.reads_skip (a : Attribute) : skipAttribute.Reads a.encode () := by
  refine (Decoder.reads_u2 _).bind ((Decoder.reads_u4 _).bind ?_)
  rw [UInt32.toNat_ofNat_of_lt' a.content.property]
  exact (Decoder.reads_bytes _).bind_nil (.pure _)

/-- A member is read as what it is declared as. -/
theorem Member.reads_encode {m : Member} {member : MultiRelease.Member}
    (h : m.Denotes pool member) : (decodeMember pool.decoded).Reads m.encode member := by
  have hattributes : (Decoder.times m.attributes.val.length skipAttribute).Reads
      (m.attributes.val.flatMap Attribute.encode) (m.attributes.val.map fun _ => ()) :=
    Decoder.reads_times (List.forall₂_map_right_iff.2 (List.forall₂_same.2 fun a _ =>
      a.reads_skip))
  have hmember : member = ⟨member.name, member.descriptor, m.flags⟩ := by rw [← h.flags]
  rw [hmember]
  refine (Decoder.reads_u2 _).bind ((Decoder.reads_u2 _).bind ((Decoder.reads_u2 _).bind
    ((Decoder.reads_u2 _).bind (.lift_bind (Pool.text_decoded h.name)
      (.lift_bind (Pool.text_decoded h.descriptor) ?_)))))
  rw [UInt16.toNat_ofNat_of_lt' m.attributes.property]
  exact hattributes.bind_nil (.pure _)

/-! ## Module declarations -/

theorem reads_moduleName {index : UInt16} {name : String}
    (h : pool.HasName .moduleRef index name) :
    (decodeModuleName pool.decoded).Reads (encodeU2 index) name :=
  (Decoder.reads_u2 _).bind_nil (.lift (Pool.moduleName_decoded h))

theorem reads_typeName {index : UInt16} {typeName : String} (h : DenotesType pool index typeName) :
    (decodeTypeName pool.decoded).Reads (encodeU2 index) typeName := by
  obtain ⟨name, hname, rfl⟩ := h
  exact (Decoder.reads_u2 _).bind_nil (.lift_bind (Pool.className_decoded hname) (.pure _))

theorem Requirement.reads_encode {r : Requirement} {requirement : MultiRelease.Requirement}
    (h : r.Denotes pool requirement) :
    (decodeRequirement pool.decoded).Reads r.encode requirement := by
  have hrequirement : requirement = ⟨requirement.name, decide (r.flags &&& transitiveFlag ≠ 0),
      decide (r.flags &&& staticPhaseFlag ≠ 0)⟩ := by
    rw [transitiveFlag, staticPhaseFlag, ← h.transitive, ← h.isStatic]
  rw [hrequirement]
  exact (Decoder.reads_u2 _).bind ((Decoder.reads_u2 _).bind ((Decoder.reads_u2 _).bind_nil
    (.lift_bind (Pool.moduleName_decoded h.name) (.pure _))))

theorem PackageExport.reads_encode {e : PackageExport} {packageExport : MultiRelease.PackageExport}
    (h : e.Denotes pool packageExport) :
    (decodePackageExport pool.decoded).Reads e.encode packageExport := by
  obtain ⟨name, hname, hpackage⟩ := h.package
  have htargets := Decoder.reads_short (h.targets.imp fun _ _ => reads_moduleName)
  have hexport : packageExport = ⟨dotted name, packageExport.targets⟩ := by rw [← hpackage]
  rw [hexport]
  exact (Decoder.reads_u2 _).bind ((Decoder.reads_u2 _).bind (htargets.bind_nil
    (.lift_bind (Pool.packageName_decoded hname) (.pure _))))

theorem Provision.reads_encode {p : Provision} {provision : MultiRelease.Provision}
    (h : p.Denotes pool provision) :
    (decodeProvision pool.decoded).Reads p.encode provision :=
  (reads_typeName h.service).bind ((Decoder.reads_short (h.implementations.imp fun _ _ =>
    reads_typeName)).bind_nil (.pure _))

/-- **A module declaration is read as what it says.** -/
theorem ModuleContent.reads_encode {c : ModuleContent} {m : ModuleDescriptor}
    (h : c.Denotes pool m) : (decodeModule pool.decoded).Reads c.encode m := by
  have hrequires := Decoder.reads_short (h.requires.imp fun _ _ => Requirement.reads_encode)
  have hexports := Decoder.reads_short (h.exports.imp fun _ _ => PackageExport.reads_encode)
  have hopens := Decoder.reads_short (h.opens.imp fun _ _ => PackageExport.reads_encode)
  have huses := Decoder.reads_short (h.uses.imp fun _ _ => reads_typeName)
  have hprovides := Decoder.reads_short (h.provides.imp fun _ _ => Provision.reads_encode)
  have hm : m = { m with isOpen := decide (c.flags &&& openFlag ≠ 0) } := by
    rw [openFlag, ← h.isOpen]
  rw [hm]
  exact (Decoder.reads_u2 _).bind ((Decoder.reads_u2 _).bind ((Decoder.reads_u2 _).bind
    (.lift_bind (Pool.moduleName_decoded h.name) (hrequires.bind (hexports.bind (hopens.bind
      (huses.bind (hprovides.bind_nil (.pure _)))))))))

/-! ## Class files -/

theorem reads_className {index : UInt16} {name : String}
    (h : pool.HasName .classRef index name) :
    (do let index ← Decoder.u2; pool.decoded.className index : Decoder String).Reads
      (encodeU2 index) name :=
  (Decoder.reads_u2 _).bind_nil (.lift (Pool.className_decoded h))

/-- The name of an attribute decides whether its content is looked at. -/
theorem ClassAttribute.reads_encode {a : ClassAttribute} {declared : Option ModuleDescriptor}
    (h : a.Denotes pool declared) :
    (decodeClassAttribute pool.decoded).Reads a.toAttribute.encode declared := by
  refine (Decoder.reads_u2 _).bind ((Decoder.reads_u4 _).bind ?_)
  rw [UInt32.toNat_ofNat_of_lt' a.toAttribute.content.property]
  refine (Decoder.reads_bytes _).bind_nil ?_
  cases h with
  | module hname hm =>
    refine .lift_bind (Pool.text_decoded hname) ?_
    rw [if_pos (by rfl)]
    exact .lift_bind (ModuleContent.reads_encode hm).run_all (.pure _)
  | other hname hother =>
    refine .lift_bind (Pool.text_decoded hname) ?_
    rw [if_neg (by exact hother)]
    exact .pure _

namespace ClassFile

variable {c : ClassFile} {type : BinaryType}

theorem className?_decoded (h : c.Denotes type) :
    c.pool.decoded.className? c.superClass = .ok type.superName := by
  rw [ConstantPool.className?]
  rcases h.superName with ⟨hzero, hnone⟩ | ⟨superName, hname, hsome⟩
  · rw [if_pos hzero, hnone]
  · rw [if_neg (Pool.ne_zero_of_hasName hname), Pool.className_decoded hname, hsome]
    rfl

/-- The bytes of a class file are read as the type that it describes. -/
theorem reads_encode (h : c.Denotes type) : decodeClass.Reads c.encode type := by
  have hmagic : expectMagic.Reads (encodeU4 0xCAFEBABE) () :=
    (Decoder.reads_u4 _).bind_nil (.pure _)
  have hinterfaces := Decoder.reads_short (h.interfaces.imp fun _ _ => reads_className)
  have hfields := Decoder.reads_short (h.fields.imp fun _ _ => Member.reads_encode)
  have hmethods := Decoder.reads_short (h.methods.imp fun _ _ => Member.reads_encode)
  obtain ⟨declared, hdeclared, hmodule⟩ := h.module
  have hattributes := Decoder.reads_short (hdeclared.imp fun _ _ => ClassAttribute.reads_encode)
  have hfound : declared.filterMap id = type.module.toList := hmodule
  have hlast : (declared.filterMap id).getLast? = type.module := by
    rw [hfound]
    cases type.module <;> rfl
  have htype : type = { type with
      flags := c.flags, majorVersion := c.majorVersion
      module := (declared.filterMap id).getLast?, moduleName := none } := by
    rw [hlast, ← h.flags, ← h.majorVersion, ← h.moduleName]
  rw [htype]
  exact hmagic.bind ((Decoder.reads_u2 _).bind ((Decoder.reads_u2 _).bind
    (c.pool.reads_encode.bind ((Decoder.reads_u2 _).bind ((Decoder.reads_u2 _).bind
      ((Decoder.reads_u2 _).bind (hinterfaces.bind (hfields.bind (hmethods.bind
        (hattributes.bind_nil (.lift_bind (Pool.className_decoded h.name)
          (.lift_bind (className?_decoded h) (.pure _)))))))))))))

/-- **Parsing a class file gives the type that it describes**, whatever other constants and
attributes it has. -/
theorem parseBinaryType_of_denotes (c : ClassFile) (type : BinaryType) (h : c.Denotes type) :
    parseBinaryType c.encode = .ok type :=
  (reads_encode h).run_all

/-- Constants of several kinds, of which names need only some. -/
def samplePool : Pool where
  constants :=
    [.long 0x7FFFFFFF 7, .utf8 ⟨"app/Größe", by decide⟩, .classRef 3, .double 0 0x40000000,
      .utf8 ⟨"java/lang/Object", by decide⟩, .classRef 7,
      .utf8 ⟨"java/lang/Runnable", by decide⟩, .classRef 9, .integer 0xCAFEBABE,
      .utf8 ⟨"run", by decide⟩, .utf8 ⟨"()V", by decide⟩, .nameAndType 12 13, .methodRef 4 14,
      .methodHandle 6 15, .utf8 ⟨"Code", by decide⟩, .utf8 ⟨"SourceFile", by decide⟩,
      .utf8 ⟨"Module", by decide⟩, .utf8 ⟨"app", by decide⟩, .moduleRef 20, .packageRef 20,
      .utf8 ⟨"java.base", by decide⟩, .moduleRef 23, .invokeDynamic 0 14]
  fits := by decide

/-- A declaration of a module that exports its package to `java.base`. -/
def sampleModule : ModuleContent where
  name := 21
  flags := 0x0020
  version := 0
  requires := ⟨[⟨24, 0x8000, 0⟩], by decide⟩
  exports := ⟨[⟨22, 0, ⟨[24], by decide⟩⟩], by decide⟩
  opens := ⟨[], by decide⟩
  uses := ⟨[4], by decide⟩
  provides := ⟨[⟨10, ⟨[4], by decide⟩⟩], by decide⟩

/-- A class file with attributes that have to be passed over. -/
def sample : ClassFile where
  minorVersion := 0
  majorVersion := 61
  pool := samplePool
  flags := 0x0021
  thisClass := 4
  superClass := 8
  interfaces := ⟨[10], by decide⟩
  fields := ⟨[], by decide⟩
  methods := ⟨[⟨0x0001, 12, 13, ⟨[⟨17, ⟨[0, 18, 1, 255], by decide⟩⟩], by decide⟩⟩], by decide⟩
  attributes := ⟨[.other ⟨18, ⟨[0, 3], by decide⟩⟩, .module 19 sampleModule (by decide)],
    by decide⟩

/-- What the module attribute declares. -/
def sampleDescriptor : ModuleDescriptor where
  name := "app"
  isOpen := true
  requires := [⟨"java.base", false, false⟩]
  exports := [⟨"app", ["java.base"]⟩]
  opens := []
  uses := ["app.Größe"]
  provides := [⟨"java.lang.Runnable", ["app.Größe"]⟩]

/-- The type that the class file describes. -/
def sampleType : BinaryType where
  name := "app/Größe"
  superName := some "java/lang/Object"
  interfaces := ["java/lang/Runnable"]
  flags := 0x0021
  majorVersion := 61
  fields := []
  methods := [⟨"run", "()V", 0x0001⟩]
  module := some sampleDescriptor
  moduleName := none

theorem sampleModule_denotes : sampleModule.Denotes samplePool sampleDescriptor where
  name := ⟨_, rfl, _, rfl, rfl⟩
  isOpen := by decide
  requires := .cons ⟨⟨_, rfl, _, rfl, rfl⟩, by decide, by decide⟩ .nil
  exports := .cons ⟨⟨_, ⟨_, rfl, _, rfl, rfl⟩, by decide⟩, .cons ⟨_, rfl, _, rfl, rfl⟩ .nil⟩ .nil
  opens := .nil
  uses := .cons ⟨_, ⟨_, rfl, _, rfl, rfl⟩, by decide⟩ .nil
  provides := .cons ⟨⟨_, ⟨_, rfl, _, rfl, rfl⟩, by decide⟩,
    .cons ⟨_, ⟨_, rfl, _, rfl, rfl⟩, by decide⟩ .nil⟩ .nil

theorem sample_denotes : sample.Denotes sampleType where
  name := ⟨_, rfl, _, rfl, rfl⟩
  superName := .inr ⟨_, ⟨_, rfl, _, rfl, rfl⟩, rfl⟩
  interfaces := .cons ⟨_, rfl, _, rfl, rfl⟩ .nil
  flags := rfl
  majorVersion := rfl
  fields := .nil
  methods := .cons ⟨rfl, ⟨_, rfl, rfl⟩, ⟨_, rfl, rfl⟩⟩ .nil
  module := ⟨[none, some sampleDescriptor],
    .cons (.other ⟨_, rfl, rfl⟩ (by decide))
      (.cons (.module ⟨_, rfl, rfl⟩ sampleModule_denotes) .nil), rfl⟩
  moduleName := rfl

theorem parseBinaryType_of_denotes_sample :
    sample.Denotes sampleType ∧ parseBinaryType sample.encode = .ok sampleType :=
  ⟨sample_denotes, parseBinaryType_of_denotes sample sampleType sample_denotes⟩

end ClassFile

end Format

end MultiRelease
