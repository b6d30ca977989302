import MultiRelease.Proofs.ClassFile.Storage
import MultiRelease.Proofs.ClassFile.TextReading

/-!
# Texts that nothing refers to

Most texts in the pool of a class file serve its code and its debugging attributes, which the reader
passes over.  What it makes of a class file hangs only on the constants that the structure of the
file *mentions*: the names of the type, its super class and its interfaces, names and descriptors of
members, names of attributes, and what a module attribute refers to (`typeMentions`).  But the
reader decodes all texts of the pool before it knows which ones it needs.

The main statement is `parseBinaryType_withTexts`.  If texts that nothing refers to are written
anew, in modified UTF-8 of any UTF-16 units, the file is read as the same type exactly if all these
units pair up to characters.  A single surrogate in a text that nothing refers to makes the whole
file unreadable (`exists_unused_text_refused`).

There are two halves to the argument, for what stands behind the pool and for the pool itself:

* A *coincidence law* (`LooksUp`): a function of the reader succeeds alike with two pools in which
  what it mentions leads to the same.  There is one rule for each way in which a decoder goes on,
  and from these the law goes from part to part of the file, until `looksUp_body`.
* Writing texts anew (`StoredFile.withTexts`) changes no widths, so that every constant keeps its
  index and every slot but those of the written texts holds what it held
  (`StoredFile.slot_withTexts`).  Whether the pool can still be read hangs on what was written
  (`StoredFile.isReadable_withTexts_iff`).

A reference to a text that is written anew is not changed itself, and yet it leads to something
else.  So what has to be left alone are the texts that mentions lead to (`Mention.texts`), and not
only the constants that are mentioned.
-/

set_option autoImplicit false

namespace MultiRelease

open ClassFile

namespace ClassFile

/-! ## Mentions -/

/-- How the structure of a class file refers to a text: by its index, or by the index of the class,
module or package that is named by it. -/
inductive Mention where
  | text (index : UInt16)
  | name (index : UInt16)

namespace Mention

/-- The indices of the texts that a mention leads to. -/
def texts (pool : ConstantPool) : Mention → List UInt16
  | text index => [index]
  | name index =>
    match pool.slot index with
    | .ok (.classRef textIndex) => [textIndex]
    | .ok (.moduleRef textIndex) => [textIndex]
    | .ok (.packageRef textIndex) => [textIndex]
    | _ => []

/-- A mention leads to the same in both pools. -/
def Agrees (pool other : ConstantPool) : Mention → Prop
  | text index => other.text index = pool.text index
  | name index => other.className index = pool.className index ∧
      other.moduleName index = pool.moduleName index ∧
      other.packageName index = pool.packageName index

end Mention

/-- The mentions in a list of things that are read one after the other. -/
def timesMentions : Nat → Decoder (List Mention) → Decoder (List Mention)
  | 0, _ => pure []
  | n + 1, mentions => do
    let first ← mentions
    let others ← timesMentions n mentions
    pure (first ++ others)

/-- The mentions in a list that is preceded by its length. -/
def countedMentions (mentions : Decoder (List Mention)) : Decoder (List Mention) := do
  let count ← Decoder.u2
  timesMentions count.toNat mentions

/-- A reference by name. -/
def nameMention : Decoder (List Mention) := do
  let index ← Decoder.u2
  pure [.name index]

/-- What a field or method mentions: its name and its descriptor. -/
def memberMentions : Decoder (List Mention) := do
  let _ ← Decoder.u2
  let nameIndex ← Decoder.u2
  let descriptorIndex ← Decoder.u2
  let attributeCount ← Decoder.u2
  let _ ← Decoder.times attributeCount.toNat skipAttribute
  pure [.text nameIndex, .text descriptorIndex]

/-- What a requirement mentions: the required module. -/
def requirementMentions : Decoder (List Mention) := do
  let index ← Decoder.u2
  let _ ← Decoder.u2
  let _ ← Decoder.u2
  pure [.name index]

/-- What an exported or opened package mentions: the package and the modules that it is meant
for. -/
def packageExportMentions : Decoder (List Mention) := do
  let index ← Decoder.u2
  let _ ← Decoder.u2
  let targets ← countedMentions nameMention
  pure (.name index :: targets)

/-- What a provision mentions: the service and the types that implement it. -/
def provisionMentions : Decoder (List Mention) := do
  let service ← nameMention
  let implementations ← countedMentions nameMention
  pure (service ++ implementations)

/-- What the content of a module attribute mentions. -/
def moduleMentions : Decoder (List Mention) := do
  let nameIndex ← Decoder.u2
  let _ ← Decoder.u2
  let _ ← Decoder.u2
  let requires ← countedMentions requirementMentions
  let exports ← countedMentions packageExportMentions
  let opens ← countedMentions packageExportMentions
  let uses ← countedMentions nameMention
  let provides ← countedMentions provisionMentions
  pure (.name nameIndex :: (requires ++ exports ++ opens ++ uses ++ provides))

/-- What an attribute of a class mentions: its name, and if this is the name of module attributes,
what its content mentions. -/
def classAttributeMentions (pool : ConstantPool) : Decoder (List Mention) := do
  let nameIndex ← Decoder.u2
  let length ← Decoder.u4
  let body ← Decoder.bytes length.toNat
  let name ← pool.text nameIndex
  if name = moduleAttributeName then
    let mentions ← moduleMentions.run body
    pure (.text nameIndex :: mentions)
  else pure [.text nameIndex]

/-- What a class file mentions behind its pool: the type, its super class and its interfaces, its
members, and its attributes. -/
def typeMentions (pool : ConstantPool) : Decoder (List Mention) := do
  let _ ← Decoder.u2
  let thisIndex ← Decoder.u2
  let superIndex ← Decoder.u2
  let interfaces ← countedMentions nameMention
  let fields ← countedMentions memberMentions
  let methods ← countedMentions memberMentions
  let attributes ← countedMentions (classAttributeMentions pool)
  pure (.name thisIndex :: .name superIndex :: (interfaces ++ fields ++ methods ++ attributes))

/-! ## Coincidence

`LooksUp` is shown from the inside out: one rule for each way in which a decoder goes on, and for a
part of a file one rule after the other. -/

/-- What the decoder looks up in the pool is mentioned: where it succeeds, mentions can be read from
the same bytes, and it does the same with every pool in which these lead to the same.  What has been
looked up before (`known`) is among the mentions. -/
def LooksUp {α : Type} (known : List Mention) (decoder : ConstantPool → Decoder α)
    (mentions : ConstantPool → Decoder (List Mention)) : Prop :=
  ∀ pool input value rest, decoder pool input = .ok (value, rest) →
    ∃ mentioned, mentions pool input = .ok (mentioned, rest) ∧ known ⊆ mentioned ∧
      ∀ other, (∀ mention ∈ mentioned, mention.Agrees pool other) →
        decoder other input = .ok (value, rest)

namespace LooksUp

variable {α β : Type} {known : List Mention}

theorem pure {value : α} {mentioned : List Mention} (h : known ⊆ mentioned) :
    LooksUp known (fun _ => pure value) fun _ => pure mentioned := by
  intro pool input found rest hfound
  obtain ⟨rfl, rfl⟩ := Decoder.pure_eq_ok_iff.1 hfound
  exact ⟨mentioned, rfl, h, fun _ _ => rfl⟩

/-- Both read something that has nothing to do with the pool. -/
theorem read {first : Decoder α} {decoder : α → ConstantPool → Decoder β}
    {mentions : α → ConstantPool → Decoder (List Mention)}
    (h : ∀ a, LooksUp known (decoder a) (mentions a)) :
    LooksUp known (fun pool => first >>= fun a => decoder a pool)
      fun pool => first >>= fun a => mentions a pool := by
  intro pool input value rest hvalue
  obtain ⟨a, middle, hfirst, hnext⟩ := Decoder.bind_eq_ok_iff.1 hvalue
  obtain ⟨mentioned, hmentioned, hknown, hagree⟩ := h a pool middle value rest hnext
  exact ⟨mentioned, Decoder.bind_eq_ok_iff.2 ⟨a, middle, hfirst, hmentioned⟩, hknown,
    fun other hother => Decoder.bind_eq_ok_iff.2 ⟨a, middle, hfirst, hagree other hother⟩⟩

/-- The decoder looks something up, which is mentioned in the end.  The mentions may look it up as
well. -/
theorem look_of {lookup : ConstantPool → Except ClassFileError α} (mention : Mention)
    (hlookup : ∀ pool other, mention.Agrees pool other → lookup other = lookup pool)
    {decoder : α → ConstantPool → Decoder β}
    {mentions : α → ConstantPool → Decoder (List Mention)}
    {allMentions : ConstantPool → Decoder (List Mention)}
    (hmentions : ∀ pool a, lookup pool = .ok a → allMentions pool = mentions a pool)
    (h : ∀ a, LooksUp (mention :: known) (decoder a) (mentions a)) :
    LooksUp known (fun pool => liftM (lookup pool) >>= fun a => decoder a pool) allMentions := by
  intro pool input value rest hvalue
  obtain ⟨a, middle, hfirst, hnext⟩ := Decoder.bind_eq_ok_iff.1 hvalue
  obtain ⟨hfound, rfl⟩ := Decoder.lift_eq_ok_iff.1 hfirst
  obtain ⟨mentioned, hmentioned, hall, hagree⟩ := h a pool input value rest hnext
  obtain ⟨hmention, hknown⟩ := List.cons_subset.1 hall
  refine ⟨mentioned, by rw [hmentions pool a hfound, hmentioned], hknown, fun other hother => ?_⟩
  have hfound' := (hlookup pool other (hother mention hmention)).trans hfound
  exact Decoder.bind_eq_ok_iff.2 ⟨a, input, Decoder.lift_eq_ok_iff.2 ⟨hfound', rfl⟩,
    hagree other hother⟩

theorem look {lookup : ConstantPool → Except ClassFileError α} (mention : Mention)
    (hlookup : ∀ pool other, mention.Agrees pool other → lookup other = lookup pool)
    {decoder : α → ConstantPool → Decoder β} {mentions : ConstantPool → Decoder (List Mention)}
    (h : ∀ a, LooksUp (mention :: known) (decoder a) mentions) :
    LooksUp known (fun pool => liftM (lookup pool) >>= fun a => decoder a pool) mentions :=
  look_of mention hlookup (fun _ _ _ => rfl) h

theorem lookBoth {lookup : ConstantPool → Except ClassFileError α} (mention : Mention)
    (hlookup : ∀ pool other, mention.Agrees pool other → lookup other = lookup pool)
    {decoder : α → ConstantPool → Decoder β} {mentions : α → ConstantPool → Decoder (List Mention)}
    (h : ∀ a, LooksUp (mention :: known) (decoder a) (mentions a)) :
    LooksUp known (fun pool => liftM (lookup pool) >>= fun a => decoder a pool)
      fun pool => liftM (lookup pool) >>= fun a => mentions a pool :=
  look_of mention hlookup (fun _ _ hfound => by rw [hfound]; rfl) h

/-- The decoder ends with what it looks up. -/
theorem look_pure {lookup : ConstantPool → Except ClassFileError α} (mention : Mention)
    (hlookup : ∀ pool other, mention.Agrees pool other → lookup other = lookup pool)
    {mentioned : List Mention} (h : mention :: known ⊆ mentioned) :
    LooksUp known (fun pool => liftM (lookup pool)) fun _ => Pure.pure mentioned := by
  have hlook : LooksUp known (fun pool => liftM (lookup pool) >>= fun a => Pure.pure a)
      fun _ => Pure.pure mentioned := look mention hlookup fun _ => pure h
  simpa only [bind_pure] using hlook

/-- One part is read after the other. -/
theorem bind {first : ConstantPool → Decoder α}
    {firstMentions : ConstantPool → Decoder (List Mention)}
    {decoder : α → ConstantPool → Decoder β}
    {mentions : List Mention → ConstantPool → Decoder (List Mention)}
    (hfirst : LooksUp [] first firstMentions)
    (hnext : ∀ a mentioned, LooksUp (mentioned ++ known) (decoder a) (mentions mentioned)) :
    LooksUp known (fun pool => first pool >>= fun a => decoder a pool)
      fun pool => firstMentions pool >>= fun mentioned => mentions mentioned pool := by
  intro pool input value rest hvalue
  obtain ⟨a, middle, ha, hvalue⟩ := Decoder.bind_eq_ok_iff.1 hvalue
  obtain ⟨front, hfront, -, hagree⟩ := hfirst pool input a middle ha
  obtain ⟨mentioned, hmentioned, hknown, hagree'⟩ := hnext a front pool middle value rest hvalue
  obtain ⟨hincluded, hknown⟩ := List.append_subset.1 hknown
  refine ⟨mentioned, Decoder.bind_eq_ok_iff.2 ⟨front, middle, hfront, hmentioned⟩, hknown,
    fun other hother => Decoder.bind_eq_ok_iff.2 ⟨a, middle, hagree other ?_, hagree' other hother⟩⟩
  exact fun mention hmention => hother mention (hincluded hmention)

/-- A part is read from bytes of its own. -/
theorem run {part : ConstantPool → Decoder α} {partMentions : ConstantPool → Decoder (List Mention)}
    (h : LooksUp [] part partMentions) (body : List UInt8) :
    LooksUp [] (fun pool => liftM ((part pool).run body))
      fun pool => liftM ((partMentions pool).run body) := by
  intro pool input value rest hvalue
  obtain ⟨hrun, rfl⟩ := Decoder.lift_eq_ok_iff.1 hvalue
  obtain ⟨unread, hread⟩ := Decoder.run_eq_ok_iff.1 hrun
  obtain ⟨mentioned, hmentioned, hknown, hagree⟩ := h pool body value unread hread
  refine ⟨mentioned, Decoder.lift_eq_ok_iff.2 ⟨Decoder.run_eq_ok_iff.2 ⟨unread, hmentioned⟩, rfl⟩,
    hknown, fun other hother => Decoder.lift_eq_ok_iff.2 ⟨?_, rfl⟩⟩
  exact Decoder.run_eq_ok_iff.2 ⟨unread, hagree other hother⟩

variable {decoder : ConstantPool → Decoder α} {mentions : ConstantPool → Decoder (List Mention)}

theorem times (h : LooksUp [] decoder mentions) (count : Nat) :
    LooksUp [] (fun pool => Decoder.times count (decoder pool))
      fun pool => timesMentions count (mentions pool) := by
  induction count with
  | zero => exact .pure (List.nil_subset _)
  | succ n ih => exact .bind h fun _ _ => .bind ih fun _ _ => .pure (by simp)

theorem counted (h : LooksUp [] decoder mentions) :
    LooksUp [] (fun pool => Decoder.counted (decoder pool))
      fun pool => countedMentions (mentions pool) :=
  .read fun count => h.times count.toNat

end LooksUp

/-! ### The parts of a file -/

theorem ConstantPool.className?_eq {pool other : ConstantPool} {index : UInt16}
    (h : other.className index = pool.className index) :
    other.className? index = pool.className? index := by
  rw [className?, h, className?]

/-- A member mentions its name and its descriptor. -/
theorem looksUp_member : LooksUp [] decodeMember fun _ => memberMentions :=
  .read fun _ => .read fun nameIndex => .read fun descriptorIndex => .read fun _ =>
    .look (.text nameIndex) (fun _ _ h => h) fun _ =>
    .look (.text descriptorIndex) (fun _ _ h => h) fun _ =>
    .read fun _ => .pure (by simp)

theorem looksUp_moduleName : LooksUp [] decodeModuleName fun _ => nameMention :=
  .read fun index => .look_pure (.name index) (fun _ _ h => h.2.1) (by simp)

theorem looksUp_className :
    LooksUp [] (fun pool => do let index ← Decoder.u2; pool.className index)
      fun _ => nameMention :=
  .read fun index => .look_pure (.name index) (fun _ _ h => h.1) (by simp)

theorem looksUp_typeName : LooksUp [] decodeTypeName fun _ => nameMention :=
  .read fun index => .look (.name index) (fun _ _ h => h.1) fun _ => .pure (by simp)

theorem looksUp_requirement : LooksUp [] decodeRequirement fun _ => requirementMentions :=
  .read fun index => .read fun _ => .read fun _ =>
    .look (.name index) (fun _ _ h => h.2.1) fun _ => .pure (by simp)

theorem looksUp_packageExport : LooksUp [] decodePackageExport fun _ => packageExportMentions :=
  .read fun index => .read fun _ => .bind looksUp_moduleName.counted fun _ _ =>
    .look (.name index) (fun _ _ h => h.2.2) fun _ => .pure (by simp)

theorem looksUp_provision : LooksUp [] decodeProvision fun _ => provisionMentions :=
  .bind looksUp_typeName fun _ _ => .bind looksUp_typeName.counted fun _ _ => .pure (by simp)

/-- What is read of a module declaration hangs on the names in it. -/
theorem looksUp_module : LooksUp [] decodeModule fun _ => moduleMentions :=
  .read fun nameIndex => .read fun _ => .read fun _ =>
    .look (.name nameIndex) (fun _ _ h => h.2.1) fun _ =>
    .bind looksUp_requirement.counted fun _ _ => .bind looksUp_packageExport.counted fun _ _ =>
    .bind looksUp_packageExport.counted fun _ _ => .bind looksUp_typeName.counted fun _ _ =>
    .bind looksUp_provision.counted fun _ _ => .pure (by grind)

theorem looksUp_classAttribute : LooksUp [] decodeClassAttribute classAttributeMentions := by
  refine .read fun nameIndex => .read fun _ => .read fun body =>
    .lookBoth (.text nameIndex) (fun _ _ h => h) fun name => ?_
  by_cases hname : name = moduleAttributeName
  · simp only [if_pos hname]
    exact .bind (.run looksUp_module body) fun _ _ => .pure (by simp)
  · simp only [if_neg hname]
    exact .pure (by simp)

/-- **What is read behind the pool hangs on the pool only in what the file mentions.** -/
theorem looksUp_body (majorVersion : UInt16) :
    LooksUp [] (fun pool => decodeBody majorVersion pool) typeMentions :=
  .read fun _ => .read fun thisIndex => .read fun superIndex =>
    .bind looksUp_className.counted fun _ _ => .bind looksUp_member.counted fun _ _ =>
    .bind looksUp_member.counted fun _ _ => .bind looksUp_classAttribute.counted fun _ _ =>
    .look (.name thisIndex) (fun _ _ h => h.1) fun _ =>
    .look (.name superIndex) (fun _ _ h => ConstantPool.className?_eq h.1) fun _ => .pure (by grind)

end ClassFile

/-! ## Writing texts anew -/

namespace Format

/-- UTF-16 units, so few that the bytes of their modified UTF-8 can be counted in two bytes. -/
abbrev ShortUnits := {units : List UInt16 // (units.flatMap unitBytes).length < 65536}

namespace StoredConstant

/-- A constant with units in place of its content, if it is a text and there are such units. -/
def withUnits : Option ShortUnits → StoredConstant → StoredConstant
  | some units, text _ => text ⟨units.val.flatMap unitBytes, units.property⟩
  | _, constant => constant

/-- The units that are written when a constant is given such. -/
def written : Option ShortUnits → StoredConstant → Option ShortUnits
  | some units, text _ => some units
  | _, _ => none

theorem width_withUnits (change : Option ShortUnits) (constant : StoredConstant) :
    (constant.withUnits change).width = constant.width := by
  cases change <;> cases constant <;> rfl

/-- A constant fills its slots with the same as before, unless it is a text that is written anew. -/
theorem slots_withUnits (change : Option ShortUnits) (constant : StoredConstant) :
    (constant.withUnits change).slots = constant.slots ∨
      change ≠ none ∧ (∃ old, constant.slots = [.text old]) ∧
        ∃ new, (constant.withUnits change).slots = [.text new] := by
  cases change with
  | none => exact .inl (by cases constant <;> rfl)
  | some units =>
    cases constant with
    | text content => exact .inr ⟨Option.some_ne_none _, ⟨_, rfl⟩, ⟨_, rfl⟩⟩
    | other constant htext => exact .inl rfl

/-- A constant stays readable exactly if the units that are written, if any, pair up to the
characters of a text. -/
theorem isReadable_withUnits {change : Option ShortUnits} {constant : StoredConstant}
    (h : constant.IsReadable) :
    (constant.withUnits change).IsReadable ↔
      ∀ units ∈ constant.written change, ∃ value, units.val = textUnits value := by
  cases change with
  | none => cases constant <;> simpa [withUnits, written] using h
  | some units =>
    cases constant with
    | other constant htext => simp [withUnits, written, IsReadable]
    | text content =>
      simp [withUnits, written, IsReadable,
        decodeText?_eq_some_of_units? (units?_flatMap_unitBytes units.val)]

end StoredConstant

/-- Constants with their indices, of which the first is given. -/
def indexed : Nat → List StoredConstant → List (Nat × StoredConstant)
  | _, [] => []
  | index, constant :: others => (index, constant) :: indexed (index + constant.width) others

theorem mem_of_mem_indexed {constants : List StoredConstant} {start index : Nat}
    {constant : StoredConstant} (h : (index, constant) ∈ indexed start constants) :
    constant ∈ constants := by
  induction constants generalizing start with
  | nil => cases h
  | cons first others ih =>
    rcases List.mem_cons.1 h with hfirst | hothers
    · obtain ⟨-, rfl⟩ := Prod.mk.inj hfirst
      exact List.mem_cons_self
    · exact List.mem_cons_of_mem _ (ih hothers)

/-- Constants of which some texts are written anew. -/
def rewritten (change : Nat → Option ShortUnits) (start : Nat) (constants : List StoredConstant) :
    List StoredConstant :=
  (indexed start constants).map fun (index, constant) => constant.withUnits (change index)

theorem Fills.rewritten {count : Nat} {constants : List StoredConstant}
    (h : Fills count constants) (change : Nat → Option ShortUnits) (start : Nat) :
    Fills count (rewritten change start constants) := by
  induction h generalizing start with
  | nil => exact .nil
  | @cons count constant others _ ih =>
    refine .cons ?_
    rw [StoredConstant.width_withUnits]
    exact ih _

/-- A slot holds the same as before, unless both are texts and the text is written anew. -/
theorem getElem?_rewritten (change : Nat → Option ShortUnits) (constants : List StoredConstant)
    (start k : Nat) :
    ((rewritten change start constants).flatMap StoredConstant.slots)[k]?
        = (constants.flatMap StoredConstant.slots)[k]? ∨
      change (start + k) ≠ none ∧
        (∃ old, (constants.flatMap StoredConstant.slots)[k]? = some (.text old)) ∧
        ∃ new, ((rewritten change start constants).flatMap StoredConstant.slots)[k]?
          = some (.text new) := by
  induction constants generalizing start k with
  | nil => exact .inl rfl
  | cons constant others ih =>
    rw [rewritten, indexed, List.map_cons, ← rewritten, List.flatMap_cons, List.flatMap_cons]
    by_cases hk : k < constant.width
    · rw [List.getElem?_append_left (by rwa [StoredConstant.length_slots,
        StoredConstant.width_withUnits]),
        List.getElem?_append_left (by rwa [StoredConstant.length_slots])]
      rcases StoredConstant.slots_withUnits (change start) constant with
        hsame | ⟨hchange, ⟨old, hold⟩, new, hnew⟩
      · exact .inl (by rw [hsame])
      · rw [← StoredConstant.length_slots, hold, List.length_singleton, Nat.lt_one_iff] at hk
        subst hk
        rw [hold, hnew]
        exact .inr ⟨hchange, ⟨old, rfl⟩, ⟨new, rfl⟩⟩
    · rw [List.getElem?_append_right (by rw [StoredConstant.length_slots,
        StoredConstant.width_withUnits]; omega),
        List.getElem?_append_right (by rw [StoredConstant.length_slots]; omega)]
      rw [StoredConstant.length_slots, StoredConstant.length_slots, StoredConstant.width_withUnits]
      have hrest := ih (start + constant.width) (k - constant.width)
      rwa [show start + constant.width + (k - constant.width) = start + k by omega] at hrest

namespace StoredFile

variable (file : StoredFile)

/-- The file with some of its texts written anew, in modified UTF-8 of the units that are given by
index. -/
def withTexts (change : Nat → Option ShortUnits) : StoredFile :=
  { file with
    constants := rewritten change 1 file.constants
    fills := file.fills.rewritten change 1 }

/-- The texts that are written anew. -/
def newTexts (change : Nat → Option ShortUnits) : List ShortUnits :=
  (indexed 1 file.constants).filterMap fun (index, constant) => constant.written (change index)

/-- The indices of the texts that the structure of the file leads to: the names of the type, its
super class and its interfaces, the names and descriptors of members, the names of class attributes,
and what a module attribute refers to. -/
def usedTexts : List UInt16 :=
  match typeMentions file.pool file.body with
  | .ok (mentions, _) => mentions.flatMap (Mention.texts file.pool)
  | .error _ => []

/-- A slot of the pool holds the same as before, unless it is a text that is written anew. -/
theorem slot_withTexts (change : Nat → Option ShortUnits) (index : UInt16) :
    (file.withTexts change).pool.slot index = file.pool.slot index ∨
      change index.toNat ≠ none ∧ (∃ old, file.pool.slot index = .ok (.text old)) ∧
        ∃ new, (file.withTexts change).pool.slot index = .ok (.text new) := by
  rw [ConstantPool.slot, ConstantPool.slot, pool, pool, withTexts]
  cases hindex : index.toNat with
  | zero => exact .inl rfl
  | succ k =>
    rw [List.getElem?_cons_succ, List.getElem?_cons_succ]
    rcases getElem?_rewritten change file.constants 1 k with
      hsame | ⟨hchange, ⟨old, hold⟩, new, hnew⟩
    · exact .inl (by rw [hsame])
    · rw [Nat.add_comm] at hchange
      exact .inr ⟨hchange, ⟨old, by rw [hold]⟩, ⟨new, by rw [hnew]⟩⟩

variable {file} {change : Nat → Option ShortUnits}

/-- A text that is not written anew is read as before. -/
theorem text_withTexts {index : UInt16} (h : change index.toNat = none) :
    (file.withTexts change).pool.text index = file.pool.text index := by
  rcases slot_withTexts file change index with hsame | ⟨hchange, -⟩
  · rw [ConstantPool.text, ConstantPool.text, hsame]
  · exact absurd h hchange

/-- A mention leads to the same as before if no text that it leads to is written anew. -/
theorem agrees_withTexts {mention : Mention}
    (h : ∀ index ∈ mention.texts file.pool, change index.toNat = none) :
    mention.Agrees file.pool (file.withTexts change).pool := by
  cases mention with
  | text index => exact text_withTexts (h index (by simp [Mention.texts]))
  | name index =>
    simp only [Mention.Agrees, ConstantPool.className, ConstantPool.moduleName,
      ConstantPool.packageName]
    rcases slot_withTexts file change index with
      hsame | ⟨-, ⟨old, hold⟩, new, hnew⟩
    · rw [hsame]
      cases hslot : file.pool.slot index with
      | error error => exact ⟨rfl, rfl, rfl⟩
      | ok constant =>
        rw [Mention.texts, hslot] at h
        cases constant with
        | classRef name => simp [text_withTexts (h name (by simp))]
        | moduleRef name => simp [text_withTexts (h name (by simp))]
        | packageRef name => simp [text_withTexts (h name (by simp))]
        | text value => exact ⟨rfl, rfl, rfl⟩
        | ignored => exact ⟨rfl, rfl, rfl⟩
        | unusable => exact ⟨rfl, rfl, rfl⟩
    · rw [hold, hnew]
      exact ⟨rfl, rfl, rfl⟩

/-- A file that can be read has no texts that cannot. -/
theorem isReadable_of_parseBinaryType {type : BinaryType}
    (h : parseBinaryType file.bytes = .ok type) :
    ∀ constant ∈ file.constants, constant.IsReadable := by
  by_contra hmalformed
  simp only [not_forall, exists_prop] at hmalformed
  obtain ⟨rest, hread⟩ := Decoder.run_eq_ok_iff.1 h
  rw [file.decodeClass_of_malformed hmalformed] at hread
  cases hread

/-- The texts of the rewritten file can be read exactly if what is written are texts. -/
theorem isReadable_withTexts_iff (h : ∀ constant ∈ file.constants, constant.IsReadable) :
    (∀ constant ∈ (file.withTexts change).constants, constant.IsReadable) ↔
      ∀ units ∈ file.newTexts change, ∃ text, units.val = textUnits text := by
  have hmem : ∀ index constant, (index, constant) ∈ indexed 1 file.constants →
      constant.IsReadable := fun index constant hindexed => h constant (mem_of_mem_indexed hindexed)
  simp only [withTexts, rewritten, newTexts, List.forall_mem_map, List.mem_filterMap, Prod.forall]
  constructor
  · rintro hreadable units ⟨⟨index, constant⟩, hindexed, hwritten⟩
    exact (StoredConstant.isReadable_withUnits (hmem index constant hindexed)).1
      (hreadable index constant hindexed) units hwritten
  · intro htexts index constant hindexed
    have hreadable := hmem index constant hindexed
    exact (StoredConstant.isReadable_withUnits hreadable).2 fun units hunits =>
      htexts units ⟨(index, constant), hindexed, hunits⟩

/-- Behind the pool, the rewritten file is read as before. -/
theorem decodeBody_withTexts {type : BinaryType} {rest : List UInt8}
    (hunused : ∀ index ∈ file.usedTexts, change index.toNat = none)
    (h : decodeBody file.majorVersion file.pool file.body = .ok (type, rest)) :
    decodeBody file.majorVersion (file.withTexts change).pool file.body = .ok (type, rest) := by
  obtain ⟨mentioned, hmentioned, -, hagree⟩ := looksUp_body file.majorVersion _ _ _ _ h
  refine hagree _ fun mention hmention => agrees_withTexts fun index hindex => hunused index ?_
  rw [usedTexts, hmentioned]
  exact List.mem_flatMap.2 ⟨mention, hmention, hindex⟩

end StoredFile

end Format

open Format

/-- **Texts that nothing refers to decide whether a file can be read, but not what is read.**  Every
file that the reader accepts is a stored file, and if some of its texts to which the structure does
not lead are written anew, in modified UTF-8 of any units, it is read as the same type if what is
written are texts, and else it is refused as malformed. -/
theorem parseBinaryType_withTexts {bytes : List UInt8} {type : BinaryType}
    (h : parseBinaryType bytes = .ok type) :
    (∃ file : StoredFile, file.bytes = bytes) ∧
      ∀ file : StoredFile, file.bytes = bytes → ∀ change : Nat → Option ShortUnits,
        (∀ index ∈ file.usedTexts, change index.toNat = none) →
          ((∀ units ∈ file.newTexts change, ∃ text, units.val = textUnits text) →
            parseBinaryType (file.withTexts change).bytes = .ok type) ∧
          ((∃ units ∈ file.newTexts change, ∀ text, units.val ≠ textUnits text) →
            parseBinaryType (file.withTexts change).bytes = .error .malformedText) := by
  obtain ⟨rest, hread⟩ := Decoder.run_eq_ok_iff.1 h
  refine ⟨StoredFile.exists_bytes_eq hread, ?_⟩
  rintro file rfl change hunused
  have hreadable := StoredFile.isReadable_of_parseBinaryType h
  rw [file.decodeClass_bytes hreadable] at hread
  constructor
  · intro htexts
    refine Decoder.run_eq_ok_iff.2 ⟨rest, ?_⟩
    rw [(file.withTexts change).decodeClass_bytes
      ((StoredFile.isReadable_withTexts_iff hreadable).2 htexts)]
    exact StoredFile.decodeBody_withTexts hunused hread
  · rintro ⟨units, hunits, hnone⟩
    have hmalformed : ∃ constant ∈ (file.withTexts change).constants, ¬ constant.IsReadable := by
      by_contra hall
      simp only [not_exists, not_and, not_not] at hall
      obtain ⟨text, htext⟩ := (StoredFile.isReadable_withTexts_iff hreadable).1 hall units hunits
      exact hnone text htext
    rw [parseBinaryType, Decoder.run, StateT.run,
      (file.withTexts change).decodeClass_of_malformed hmalformed]
    rfl

namespace Format.StoredFile

/-- A type with a string that its code may use. -/
def sample : StoredFile where
  minorVersion := 0
  majorVersion := 52
  slotCount := 5
  constants := [.text ⟨utf8Bytes "T", by decide +kernel⟩, .other (.classRef 1) rfl,
    .text ⟨utf8Bytes "s", by decide +kernel⟩, .other (.string 3) rfl]
  fills := .cons (.cons (.cons (.cons .nil)))
  body := [0x00, 0x21, 0x00, 0x02, 0x00, 0x00, 0x00, 0x00, 0x00, 0x00, 0x00, 0x00, 0x00, 0x00]

/-- What the type is read as. -/
def sampleType : BinaryType where
  name := "T"
  superName := none
  interfaces := []
  flags := 0x21
  majorVersion := 52
  fields := []
  methods := []
  module := none
  moduleName := none

theorem parseBinaryType_sample : parseBinaryType sample.bytes = .ok sampleType := by
  decide +kernel

/-- The string of the type is made of the given units. -/
def stringText (units : ShortUnits) : Nat → Option ShortUnits
  | 3 => some units
  | _ => none

/-- Only the name of the type is used. -/
theorem unused_stringText (units : ShortUnits) :
    ∀ index ∈ sample.usedTexts, stringText units index.toNat = none := by
  have hused : sample.usedTexts = [1] := by decide
  rw [hused]
  rintro index hindex
  obtain rfl := List.mem_singleton.1 hindex
  rfl

end Format.StoredFile

open StoredFile in
/-- The string becomes a pair of surrogates, which is a text. -/
theorem parseBinaryType_withTexts_sample :
    parseBinaryType sample.bytes = .ok sampleType ∧
      (∃ file : StoredFile, file.bytes = sample.bytes) ∧
      parseBinaryType
        (sample.withTexts (stringText ⟨[0xD83D, 0xDE00], by decide⟩)).bytes
        = .ok sampleType := by
  obtain ⟨hstored, hwritten⟩ := parseBinaryType_withTexts parseBinaryType_sample
  refine ⟨parseBinaryType_sample, hstored, (hwritten sample rfl _ (unused_stringText _)).1 ?_⟩
  intro units hunits
  obtain rfl := List.mem_singleton.1 hunits
  exact ⟨"😀", by decide⟩

/-- The string becomes a single surrogate.  No part of the type refers to its text, and yet the type
cannot be read any more. -/
theorem exists_unused_text_refused :
    ∃ (file : StoredFile) (type : BinaryType) (change : Nat → Option ShortUnits),
      parseBinaryType file.bytes = .ok type ∧
        (∀ index ∈ file.usedTexts, change index.toNat = none) ∧
        parseBinaryType (file.withTexts change).bytes = .error .malformedText :=
  ⟨.sample, StoredFile.sampleType, StoredFile.stringText ⟨[0xD800], by decide⟩,
    StoredFile.parseBinaryType_sample, StoredFile.unused_stringText _, by decide +kernel⟩

end MultiRelease
