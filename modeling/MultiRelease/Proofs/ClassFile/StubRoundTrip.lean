import MultiRelease.Proofs.ClassFile.Pooling

/-!
# Stubs are read back

The main statement, `Stub.parseBinaryType_encode`, says that the reader understands what the writer
of stubs writes: parsing the bytes of a stub gives the type that was written, with the members in
order, and with the module declaration that was written.  The names of packages and types in the
declaration come back with dots between their segments, whichever of dots and slashes they were
given with (`ModuleDescriptor.withDots`).

The format sets limits, which are collected in `Stub.FitsFormat`: lengths of texts and lists are
stored in two bytes, the length of an attribute in four, and a pool has at most 65534 constants.
The length of the attribute can be told from the declaration alone (`length_encodeModule`), while
the number of constants is that of the pool that the writer ends with, since a text that occurs
twice is stored once.

Each record has one lemma here, `ensures_…`, which follows its writer field by field and shows that
the reader takes the same fields in the same order.  They are laws of actions that add constants
(`Ensures`), and so hold for whatever pool stands in front in the end:

* `ensures_requirement`, `ensures_packageExport` and `ensures_provision` for the directives of a
  declaration, and `ensures_module` for the declaration;
* `ensures_member`, `ensures_super` and `ensures_attributes` for the parts of a type;
* `Stub.ensures_body` for everything behind the pool.

A stub starts with the empty pool, which is sound, so that all of them may be used of the pool that
it is written with (`Stub.finished_pool`).
-/

set_option autoImplicit false

namespace MultiRelease

open ClassFile

/-! ## What is read back -/

/-- The exported package with dots between its segments. -/
def PackageExport.withDots (e : PackageExport) : PackageExport :=
  { e with package := dotted e.package }

/-- The provision with dots between the segments of all type names. -/
def Provision.withDots (p : Provision) : Provision :=
  ⟨dotted p.service, p.implementations.map dotted⟩

/-- The declaration with dots between the segments of all names of packages and types.  The names
of modules stay as they are. -/
def ModuleDescriptor.withDots (m : ModuleDescriptor) : ModuleDescriptor :=
  { m with
    exports := m.exports.map PackageExport.withDots
    opens := m.opens.map PackageExport.withDots
    uses := m.uses.map dotted
    provides := m.provides.map Provision.withDots }

/-- The type that a stub stands for. -/
def Stub.type (stub : Stub) : BinaryType where
  name := stub.name
  superName := stub.superName
  interfaces := []
  flags := stub.flags
  majorVersion := stub.majorVersion
  fields := stub.fields
  methods := stub.methods
  module := stub.module.map ModuleDescriptor.withDots
  moduleName := none

/-! ## The limits of the format -/

/-- The texts in a module declaration. -/
def ModuleDescriptor.texts (m : ModuleDescriptor) : List String :=
  m.name :: m.requires.map (·.name)
    ++ (m.exports ++ m.opens).flatMap (fun e => e.package :: e.targets)
    ++ m.uses ++ m.provides.flatMap (fun p => p.service :: p.implementations)

theorem ModuleDescriptor.forall_mem_texts {m : ModuleDescriptor} {P : String → Prop} :
    (∀ text ∈ m.texts, P text) ↔ P m.name ∧ (∀ r ∈ m.requires, P r.name) ∧
      (∀ e ∈ m.exports ++ m.opens, P e.package ∧ ∀ target ∈ e.targets, P target) ∧
      (∀ name ∈ m.uses, P name) ∧
      ∀ p ∈ m.provides, P p.service ∧ ∀ name ∈ p.implementations, P name := by
  simp only [texts, List.cons_append, List.forall_mem_cons, List.forall_mem_append,
    List.forall_mem_map, List.forall_mem_flatMap, and_assoc]

/-- The texts in a stub. -/
def Stub.texts (stub : Stub) : List String :=
  stub.name :: stub.superName.toList
    ++ (stub.fields ++ stub.methods).flatMap (fun member => [member.name, member.descriptor])
    ++ stub.module.toList.flatMap ModuleDescriptor.texts

theorem Stub.forall_mem_texts {stub : Stub} {P : String → Prop} :
    (∀ text ∈ stub.texts, P text) ↔ P stub.name ∧ (∀ name ∈ stub.superName, P name) ∧
      (∀ member ∈ stub.fields ++ stub.methods, P member.name ∧ P member.descriptor) ∧
      ∀ m ∈ stub.module, ∀ text ∈ m.texts, P text := by
  simp only [texts, List.cons_append, List.forall_mem_cons, List.forall_mem_append,
    List.forall_mem_flatMap, Option.mem_toList, Option.mem_def, List.not_mem_nil, false_imp_iff,
    implies_true, and_true, and_assoc]

/-- The number of bytes in the attribute of a module declaration. -/
def ModuleDescriptor.attributeLength (m : ModuleDescriptor) : Nat :=
  16 + 6 * m.requires.length
    + (m.exports.map fun e => 6 + 2 * e.targets.length).sum
    + (m.opens.map fun e => 6 + 2 * e.targets.length).sum
    + 2 * m.uses.length
    + (m.provides.map fun p => 4 + 2 * p.implementations.length).sum

/-- The lists of a module declaration, and the attribute that holds it, are not too long. -/
structure ModuleDescriptor.FitsFormat (m : ModuleDescriptor) : Prop where
  requires : m.requires.length ≤ 65535
  exports : m.exports.length ≤ 65535
  opens : m.opens.length ≤ 65535
  uses : m.uses.length ≤ 65535
  provides : m.provides.length ≤ 65535
  targets : ∀ e ∈ m.exports ++ m.opens, e.targets.length ≤ 65535
  implementations : ∀ p ∈ m.provides, p.implementations.length ≤ 65535
  attributeLength : m.attributeLength < 2 ^ 32

/-- The constants of a stub. -/
def Stub.pool (stub : Stub) : PoolBuilder := ((Stub.encodeBody stub).run []).2

/-- The stub keeps to the limits of the format. -/
structure Stub.FitsFormat (stub : Stub) : Prop where
  texts : ∀ text ∈ stub.texts, (utf8Bytes text).length ≤ 65535
  fields : stub.fields.length ≤ 65535
  methods : stub.methods.length ≤ 65535
  module : ∀ m ∈ stub.module, m.FitsFormat
  pool : stub.pool.length ≤ 65534

namespace ClassFile

/-- Turning dots into slashes and slashes into dots leaves dots only. -/
theorem dotted_slashed (name : String) : dotted (slashed name) = dotted name := by
  simp only [dotted, slashed, Text.replaceChar, String.toList_ofList, List.map_map]
  congr 1
  refine List.map_congr_left fun c _ => ?_
  by_cases h : c = '.' <;> simp [h]

/-! ## References -/

theorem ensures_moduleName {name : String} (h : FitsText name) :
    Ensures (encodeModuleName name) fun pool bytes => (decodeModuleName pool).Reads bytes name :=
  (ensures_pooledRef .moduleRef (by decide) h).bind fun _ =>
    .pure fun _ hname => (Decoder.reads_u2 _).bind_nil (.lift hname)

/-- The name of a type is read back with dots, however it was given. -/
theorem ensures_typeName {name : String} (h : FitsText name) :
    Ensures (encodeTypeName name) fun pool bytes =>
      (decodeTypeName pool).Reads bytes (dotted name) :=
  (ensures_pooledRef .classRef (by decide) h.slashed).bind fun _ =>
    .pure fun _ hname => by
      rw [← dotted_slashed]
      exact (Decoder.reads_u2 _).bind_nil (.lift_bind hname (.pure _))

/-! ## Flags

The flags that are written say what the record said. -/

theorem transitive_of_flags : ∀ transitive isStatic : Bool,
    decide (((if transitive then transitiveFlag else 0) |||
      (if isStatic then staticPhaseFlag else 0)) &&& transitiveFlag ≠ 0) = transitive := by
  decide

theorem isStatic_of_flags : ∀ transitive isStatic : Bool,
    decide (((if transitive then transitiveFlag else 0) |||
      (if isStatic then staticPhaseFlag else 0)) &&& staticPhaseFlag ≠ 0) = isStatic := by
  decide

theorem isOpen_of_flags : ∀ isOpen : Bool,
    decide ((if isOpen then openFlag else 0) &&& openFlag ≠ 0) = isOpen := by
  decide

/-! ## Directives -/

/-- A requirement is read back with its flags. -/
theorem ensures_requirement {r : Requirement} (h : FitsText r.name) :
    Ensures (encodeRequirement r) fun pool bytes => (decodeRequirement pool).Reads bytes r := by
  refine (ensures_pooledRef .moduleRef (by decide) h).bind fun _ => .pure
    fun pool hname => ?_
  rw [List.append_assoc]
  refine (Decoder.reads_u2 _).bind ((Decoder.reads_u2 _).bind ((Decoder.reads_u2 _).bind_nil
    (.lift_bind hname ?_)))
  rw [transitive_of_flags, isStatic_of_flags]
  exact .pure _

/-- An exported package is read back with the modules that it is meant for, in order. -/
theorem ensures_packageExport {e : PackageExport} (hpackage : FitsText e.package)
    (htexts : ∀ target ∈ e.targets, FitsText target) (hlength : e.targets.length ≤ 65535) :
    Ensures (encodePackageExport e) fun pool bytes =>
      (decodePackageExport pool).Reads bytes e.withDots := by
  have htargets := ensures_encodeCounted (Nat.lt_succ_of_le hlength)
    fun target htarget => ensures_moduleName (htexts target htarget)
  refine (ensures_pooledRef .packageRef (by decide) hpackage.slashed).bind fun _ =>
    htargets.bind fun _ => .pure fun pool hread hname => ?_
  rw [List.append_assoc]
  refine (Decoder.reads_u2 _).bind ((Decoder.reads_u2 _).bind (hread.bind_nil
    (.lift_bind hname ?_)))
  rw [dotted_slashed, List.map_id']
  exact .pure _

/-- A provision is read back with the types that implement the service, in order. -/
theorem ensures_provision {p : Provision} (hservice : FitsText p.service)
    (htexts : ∀ name ∈ p.implementations, FitsText name)
    (hlength : p.implementations.length ≤ 65535) :
    Ensures (encodeProvision p) fun pool bytes =>
      (decodeProvision pool).Reads bytes p.withDots := by
  have himplementations := ensures_encodeCounted (Nat.lt_succ_of_le hlength)
    fun name hname => ensures_typeName (htexts name hname)
  exact (ensures_typeName hservice).bind fun _ => himplementations.bind fun _ =>
    .pure fun _ hread hname => hname.bind (hread.bind_nil (.pure _))

/-! ## The module attribute -/

/-- **A module declaration is read back from its attribute.** -/
theorem ensures_module {m : ModuleDescriptor} (htexts : ∀ text ∈ m.texts, FitsText text)
    (h : m.FitsFormat) :
    Ensures (encodeModule m) fun pool bytes => (decodeModule pool).Reads bytes m.withDots := by
  obtain ⟨hname, hrequires, hpackages, huses, hprovides⟩ :=
    ModuleDescriptor.forall_mem_texts.1 htexts
  have hname := ensures_pooledRef .moduleRef (by decide) hname
  have hrequires := ensures_encodeCounted (Nat.lt_succ_of_le h.requires)
    fun r hr => ensures_requirement (hrequires r hr)
  have hpackages : ∀ e ∈ m.exports ++ m.opens, Ensures (encodePackageExport e)
      fun pool bytes => (decodePackageExport pool).Reads bytes e.withDots := fun e he =>
    ensures_packageExport (hpackages e he).1 (hpackages e he).2 (h.targets e he)
  have hexports := ensures_encodeCounted (Nat.lt_succ_of_le h.exports)
    fun e he => hpackages e (List.mem_append_left _ he)
  have hopens := ensures_encodeCounted (Nat.lt_succ_of_le h.opens)
    fun e he => hpackages e (List.mem_append_right _ he)
  have huses := ensures_encodeCounted (Nat.lt_succ_of_le h.uses)
    fun name hname => ensures_typeName (huses name hname)
  have hprovides := ensures_encodeCounted (Nat.lt_succ_of_le h.provides)
    fun p hp => ensures_provision (hprovides p hp).1 (hprovides p hp).2 (h.implementations p hp)
  simp only [encodeModule, encodeModuleName, bind_assoc, pure_bind]
  refine hname.bind fun _ => hrequires.bind fun _ => hexports.bind fun _ => hopens.bind fun _ =>
    huses.bind fun _ => hprovides.bind fun _ => .pure ?_
  intro pool hprovides huses hopens hexports hrequires hname
  simp only [List.append_assoc]
  refine (Decoder.reads_u2 _).bind ((Decoder.reads_u2 _).bind ((Decoder.reads_u2 _).bind
    (.lift_bind hname (hrequires.bind (hexports.bind (hopens.bind (huses.bind
      (hprovides.bind_nil ?_))))))))
  rw [isOpen_of_flags, List.map_id']
  exact .pure _

/-! ### Its length -/

theorem length_encodeU2 (n : UInt16) : (encodeU2 n).length = 2 := rfl

/-- If items take a certain number of bytes, so does a list of them. -/
theorem length_encodeCounted {α : Type} {encode : α → Pooling (List UInt8)} {size : α → Nat}
    (h : ∀ item pool, ((encode item).run pool).1.length = size item) (items : List α)
    (pool : PoolBuilder) :
    ((encodeCounted encode items).run pool).1.length = 2 + (items.map size).sum := by
  have hall : ∀ (items : List α) (pool : PoolBuilder),
      ((encodeAll encode items).run pool).1.length = (items.map size).sum := by
    intro items
    induction items with
    | nil => intro pool; rfl
    | cons item items ih =>
      intro pool
      rw [List.map_cons, List.sum_cons, ← h item pool, ← ih ((encode item).run pool).2]
      exact List.length_append
  rw [← hall items pool]
  exact List.length_append

theorem length_encodeModuleName (name : String) (pool : PoolBuilder) :
    ((encodeModuleName name).run pool).1.length = 2 := rfl

theorem length_encodeTypeName (name : String) (pool : PoolBuilder) :
    ((encodeTypeName name).run pool).1.length = 2 := rfl

theorem length_encodeRequirement (r : Requirement) (pool : PoolBuilder) :
    ((encodeRequirement r).run pool).1.length = 6 := rfl

theorem length_encodePackageExport (e : PackageExport) (pool : PoolBuilder) :
    ((encodePackageExport e).run pool).1.length = 6 + 2 * e.targets.length := by
  show (encodeU2 _ ++ encodeU2 0 ++ ((encodeCounted encodeModuleName e.targets).run _).1).length = _
  rw [List.length_append, List.length_append, length_encodeCounted length_encodeModuleName,
    length_encodeU2, length_encodeU2, List.map_const', List.sum_replicate_nat]
  omega

theorem length_encodeProvision (p : Provision) (pool : PoolBuilder) :
    ((encodeProvision p).run pool).1.length = 4 + 2 * p.implementations.length := by
  show (encodeU2 _ ++ ((encodeCounted encodeTypeName p.implementations).run _).1).length = _
  rw [List.length_append, length_encodeCounted length_encodeTypeName, length_encodeU2,
    List.map_const', List.sum_replicate_nat]
  omega

/-- The attribute of a module declaration is as long as `attributeLength` says, whatever is in the
pool. -/
theorem length_encodeModule (m : ModuleDescriptor) (pool : PoolBuilder) :
    ((encodeModule m).run pool).1.length = m.attributeLength := by
  show (encodeU2 _ ++ encodeU2 _ ++ encodeU2 0
    ++ ((encodeCounted encodeRequirement m.requires).run _).1
    ++ ((encodeCounted encodePackageExport m.exports).run _).1
    ++ ((encodeCounted encodePackageExport m.opens).run _).1
    ++ ((encodeCounted encodeTypeName m.uses).run _).1
    ++ ((encodeCounted encodeProvision m.provides).run _).1).length = _
  simp only [List.length_append, length_encodeU2, length_encodeCounted length_encodeRequirement,
    length_encodeCounted length_encodePackageExport, length_encodeCounted length_encodeTypeName,
    length_encodeCounted length_encodeProvision, List.map_const', List.sum_replicate_nat,
    ModuleDescriptor.attributeLength]
  omega

end ClassFile

/-! ## The stub -/

namespace Stub

/-- A member is read back with its name and its descriptor. -/
theorem ensures_member {member : Member} (hname : FitsText member.name)
    (hdescriptor : FitsText member.descriptor) :
    Ensures (encodeMember member) fun pool bytes => (decodeMember pool).Reads bytes member := by
  refine (ensures_pooledText hname).bind fun _ => (ensures_pooledText hdescriptor).bind fun _ =>
    .pure fun pool hdescriptor hname => ?_
  rw [List.append_assoc, List.append_assoc]
  refine (Decoder.reads_u2 _).bind ((Decoder.reads_u2 _).bind ((Decoder.reads_u2 _).bind
    ((Decoder.reads_u2 _).bind_nil ?_)))
  exact .lift_bind hname (.lift_bind hdescriptor
    ((Decoder.reads_times_zero _).bind_nil (.pure _)))

/-- The index of the super class is one of a reference, or the one that stands for none. -/
theorem ensures_super {superName : Option String} (h : ∀ name ∈ superName, FitsText name) :
    Ensures (encodeSuper superName) fun pool bytes =>
      ∃ index, bytes = encodeU2 index ∧ pool.className? index = .ok superName := by
  cases superName with
  | none => exact .pure fun _ => ⟨0, rfl, rfl⟩
  | some name =>
    have hname := h name rfl
    refine ((ensures_pooledRef .classRef (by decide) hname).and
      (ensures_pooledRef_ne_zero .classRef (by decide) hname)).bind fun index =>
        .pure fun pool hindex => ?_
    have hclass : pool.className index = .ok name := hindex.1
    refine ⟨index, rfl, ?_⟩
    rw [ConstantPool.className?, if_neg hindex.2, hclass]
    rfl

/-- An attribute with a module declaration is read back as a whole. -/
theorem reads_moduleAttribute {pool : ConstantPool} {m : ModuleDescriptor} {index : UInt16}
    {content : List UInt8} (hname : pool.text index = .ok moduleAttributeName)
    (hlength : content.length < 2 ^ 32) (hcontent : (decodeModule pool).Reads content m) :
    (decodeClassAttribute pool).Reads
      (encodeU2 index ++ (encodeU4 content.length.toUInt32 ++ content)) (some m) := by
  refine (Decoder.reads_u2 _).bind ((Decoder.reads_u4 _).bind ?_)
  rw [UInt32.toNat_ofNat_of_lt' hlength]
  refine (Decoder.reads_bytes _).bind_nil (.lift_bind hname ?_)
  rw [if_pos rfl]
  exact .lift_bind hcontent.run_all (.pure _)

/-- The attributes of a stub are read back: at most one, which holds the module declaration. -/
theorem ensures_attributes {module : Option ModuleDescriptor}
    (htexts : ∀ m ∈ module, ∀ text ∈ m.texts, FitsText text)
    (h : ∀ m ∈ module, m.FitsFormat) :
    Ensures (encodeAttributes module) fun pool bytes =>
      (Decoder.counted (decodeClassAttribute pool)).Reads bytes
        (module.toList.map fun m => some m.withDots) := by
  cases module with
  | none => exact .pure fun _ => (Decoder.reads_u2 0).bind_nil (.pure _)
  | some m =>
    have hcontent := (ensures_module (htexts m rfl) (h m rfl)).and_result
      (R := fun content => content.length = m.attributeLength) (length_encodeModule m)
    have hname : FitsText moduleAttributeName := by rw [FitsText]; decide
    refine hcontent.bind fun content => (ensures_pooledText hname).bind fun index => .pure ?_
    rintro pool hname ⟨hcontent, hlength⟩
    have hone := reads_moduleAttribute hname (hlength ▸ (h m rfl).attributeLength) hcontent
    rw [List.append_assoc, List.append_assoc]
    refine (Decoder.reads_u2 1).bind ?_
    simpa using Decoder.reads_times_succ hone (Decoder.reads_times_zero _)

/-! ### The whole file -/

theorem FitsFormat.fitsTexts {stub : Stub} (h : stub.FitsFormat) :
    FitsText stub.name ∧ (∀ name ∈ stub.superName, FitsText name) ∧
      (∀ member ∈ stub.fields ++ stub.methods,
        FitsText member.name ∧ FitsText member.descriptor) ∧
      ∀ m ∈ stub.module, ∀ text ∈ m.texts, FitsText text :=
  forall_mem_texts.1 fun text htext => Nat.lt_succ_of_le (h.texts text htext)

/-- What is written behind the pool consists of parts that are read back one by one. -/
theorem ensures_body {stub : Stub} (h : stub.FitsFormat) :
    Ensures (encodeBody stub) fun pool body =>
      ∃ thisIndex superIndex fields methods attributes,
        body = encodeU2 stub.flags ++ encodeU2 thisIndex ++ encodeU2 superIndex ++ encodeU2 0
          ++ fields ++ methods ++ attributes ∧
        pool.className thisIndex = .ok stub.name ∧
        pool.className? superIndex = .ok stub.superName ∧
        (Decoder.counted (decodeMember pool)).Reads fields stub.fields ∧
        (Decoder.counted (decodeMember pool)).Reads methods stub.methods ∧
        (Decoder.counted (decodeClassAttribute pool)).Reads attributes
          (stub.module.toList.map fun m => some m.withDots) := by
  obtain ⟨hthis, hsuper, hmembers, hmodule⟩ := h.fitsTexts
  have hmember : ∀ member ∈ stub.fields ++ stub.methods, Ensures (encodeMember member)
      fun pool bytes => (decodeMember pool).Reads bytes member := fun member hmember =>
    ensures_member (hmembers member hmember).1 (hmembers member hmember).2
  have hfields := ensures_encodeCounted (Nat.lt_succ_of_le h.fields)
    fun member hm => hmember member (List.mem_append_left _ hm)
  have hmethods := ensures_encodeCounted (Nat.lt_succ_of_le h.methods)
    fun member hm => hmember member (List.mem_append_right _ hm)
  refine (ensures_pooledRef .classRef (by decide) hthis).bind fun thisIndex =>
    (ensures_super hsuper).bind fun superBytes => hfields.bind fun fields =>
      hmethods.bind fun methods => (ensures_attributes hmodule h.module).bind fun attributes =>
        .pure ?_
  rintro pool hattributes hmethods hfields ⟨superIndex, rfl, hsuper⟩ hthis
  rw [List.map_id'] at hfields hmethods
  exact ⟨thisIndex, superIndex, fields, methods, attributes, rfl, hthis, hsuper, hfields,
    hmethods, hattributes⟩

/-- The versions stand in front of the pool, and the other parts behind it. -/
theorem encode_eq (stub : Stub) : stub.encode = encodeU4 magic ++ (encodeU2 0 ++
    (encodeU2 stub.majorVersion ++ (stub.pool.encode ++ ((encodeBody stub).run []).1))) := by
  simp only [encode, List.append_assoc]
  rfl

/-- All constants of a stub that keeps to the limits have been written as they should be. -/
theorem finished_pool {stub : Stub} (h : stub.FitsFormat) : stub.pool.Finished :=
  ⟨(ensures_body h [] PoolBuilder.sound_nil).2.1, Nat.lt_succ_of_le h.pool⟩

/-- The bytes of a stub are read as its type. -/
theorem reads_encode {stub : Stub} (h : stub.FitsFormat) :
    decodeClass.Reads stub.encode stub.type := by
  obtain ⟨-, -, hbody⟩ := ensures_body h [] PoolBuilder.sound_nil
  obtain ⟨thisIndex, superIndex, fields, methods, attributes, hbytes, hthis, hsuper, hfields,
    hmethods, hattributes⟩ := hbody _ (List.prefix_refl _) (finished_pool h)
  rw [encode_eq, hbytes]
  simp only [List.append_assoc]
  have hmagic : expectMagic.Reads (encodeU4 magic) () := (Decoder.reads_u4 _).bind_nil (.pure _)
  have hlast : ((stub.module.toList.map fun m => some m.withDots).filterMap id).getLast?
      = stub.module.map ModuleDescriptor.withDots := by
    cases stub.module <;> rfl
  refine hmagic.bind ((Decoder.reads_u2 _).bind ((Decoder.reads_u2 _).bind
    ((reads_encode_pool (finished_pool h)).bind ?_)))
  refine (Decoder.reads_u2 _).bind ((Decoder.reads_u2 _).bind ((Decoder.reads_u2 _).bind ?_))
  -- the count of interfaces is all there is of them
  refine Decoder.Reads.bind (a := []) ((Decoder.reads_u2 0).bind_nil (.pure _)) ?_
  refine hfields.bind (hmethods.bind (hattributes.bind_nil (.lift_bind hthis
    (.lift_bind hsuper ?_))))
  rw [hlast]
  exact .pure _

/-- **Parsing a stub gives the type that was written.** -/
theorem parseBinaryType_encode (stub : Stub) (h : stub.FitsFormat) :
    parseBinaryType stub.encode = .ok stub.type :=
  (reads_encode h).run_all

/-- A module with members beside its declaration, which spells names in both ways. -/
def sample : Stub :=
  { ofModule
    { name := "app.main"
      requires := [⟨"java.base", false, false⟩, ⟨"lib.api", true, true⟩]
      exports := [⟨"app/main/api", ["lib.api", "app.test"]⟩]
      opens := [⟨"app.main", []⟩]
      uses := ["app/main/api/Service"]
      provides := [⟨"app.main.api.Service", ["app/main/Direct", "app.main.Cached"]⟩] } with
    superName := some "java/lang/Object"
    fields := [⟨"size", "I", 0x0001⟩]
    methods := [⟨"size", "()I", 0x0001⟩] }

theorem sample_fitsFormat : sample.FitsFormat := by
  have hmodule : ∀ m ∈ sample.module, m.FitsFormat := by
    rintro m ⟨⟩
    exact ⟨by decide, by decide, by decide, by decide, by decide, by decide, by decide, by decide⟩
  exact ⟨by decide, by decide, by decide, hmodule, by decide⟩

theorem parseBinaryType_encode_sample :
    sample.FitsFormat ∧ parseBinaryType sample.encode = .ok sample.type :=
  ⟨sample_fitsFormat, parseBinaryType_encode sample sample_fitsFormat⟩

end Stub

end MultiRelease
