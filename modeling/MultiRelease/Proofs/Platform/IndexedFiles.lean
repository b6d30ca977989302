import MultiRelease.Proofs.Platform.Standing

/-!
# What the index of the symbol archive knows

The index knows a file by the name of its entry without leading slashes
(`SymbolArchive.mem_indexName_iff`).  The data are looked up under the name as it is stored, so a
file can be read exactly if some entry has its path as a name.

`SymbolArchive.fileBytes_of_hasFile` states this for all that the index knows: what is stored
without slashes in front is read as an entry that the index knows by this name, and anything else is
not found.  That there is such a thing shows in `SymbolArchive.exists_indexed_not_read`.

Of several entries with one name the last is read, and it is one that the index knows under that
name (`SymbolArchive.mem_indexName_self`).  A name in the index has no slash in front, so a stored
name that differs from it has one (`SymbolArchive.stored_of_mem_indexName`): this is the whole
difference between the two names.

Reading may happen later than opening, when the files are no longer the same.  The data are then
those that the archive has at that time, which is why the statement asks for entries that are sound
*then* (`OpenArchive.unpack`).  Conversely, whatever can be read is in the index, unless its name
has a slash at either end (`SymbolArchive.mem_files_of_fileBytes`).
-/

set_option autoImplicit false

namespace MultiRelease

/-! ## Entries of archives -/

namespace Archive

variable {archive : Archive} {name : String}

theorem exists_of_entry? {entry : ArchiveEntry} (h : archive.entry? name = some entry) :
    entry ∈ archive.entries ∧ entry.name = name := by
  rw [ entry?, List.findRev?_eq_find?_reverse] at h
  have hname := List.find?_some h
  exact ⟨List.mem_reverse.1 (List.mem_of_find?_eq_some h), of_decide_eq_true hname⟩

theorem entry?_eq_none_iff :
    archive.entry? name = none ↔ name ∉ archive.entries.map (·.name) := by
  rw [ entry?, List.findRev?_eq_find?_reverse, List.find?_eq_none]
  simp only [List.mem_reverse, decide_eq_true_eq, List.mem_map, not_exists, not_and]

end Archive

/-- What an entry of an open archive unpacks to at present. -/
def OpenArchive.unpack (opened : OpenArchive) (files : Files) (entry : ArchiveEntry) :
    Except EntryFault ByteArray :=
  entry.packed.read ((files.contentOf? opened.file).getD (.ofBytes [])).data

theorem OpenArchive.unpack_eq {opened : OpenArchive} {files : Files} {content : Content}
    (h : files.contentOf? opened.file = some content) (entry : ArchiveEntry) :
    opened.unpack files entry = entry.packed.read content.data := by
  rw [unpack, h, Option.getD_some]

/-- Data with the checksum that is stated are read. -/
theorem PackedData.read_eq_ok {packed : PackedData} {bytes data : ByteArray}
    (hdata : packed.unpacked bytes = .ok data)
    (hchecksum : (Zip.checksum data).toNat = packed.statedChecksum) :
    packed.read bytes = .ok data := by
  rw [read, hdata]
  exact if_pos hchecksum

/-- The archive in a file can be opened, and its data are those that the file holds. -/
theorem Files.exists_openArchive {files : Files} {path : Path} {address : Address}
    {content : Content} {executable : Bool} {archive : Archive}
    (hresolve : files.resolve? path = some address)
    (hentry : files.entryAt? address = some (.file content executable))
    (harchive : Archive.ofBytes? content.data = some archive) :
    ∃ opened : OpenArchive, files.openArchive path = .ok opened ∧ opened.archive = archive ∧
      files.contentOf? opened.file = some content := by
  have hopen : files.openFile? path = some ⟨address, (files.removedAt address).length⟩ := by
    simp [openFile?, hresolve, hentry, FileEntry.isFile]
  have hcontent : files.contentOf? ⟨address, (files.removedAt address).length⟩ = some content := by
    simp [contentOf?, hentry]
  exact ⟨_, openArchive_eq_ok hopen hcontent harchive, rfl, hcontent⟩

namespace SymbolArchive

variable {files : Files} {archive : SymbolArchive} {name stored : String}

/-! ## Names in the index -/

theorem withoutLeadingSlashes_eq_self {text : List Char} (h : text.head? ≠ some '/') :
    withoutLeadingSlashes text = text := by
  cases text with
  | nil => rfl
  | cons c text => exact List.dropWhile_cons_of_neg (by simpa using h)

theorem head?_withoutLeadingSlashes (text : List Char) :
    (withoutLeadingSlashes text).head? ≠ some '/' := by
  rw [withoutLeadingSlashes]
  intro h
  simpa [h] using List.head?_dropWhile_not (· = '/') text

theorem withoutTrailingSlashes_eq_self {text : List Char} (h : text.getLast? ≠ some '/') :
    withoutTrailingSlashes text = text := by
  rw [← List.head?_reverse] at h
  have hreverse := withoutLeadingSlashes_eq_self h
  rw [withoutLeadingSlashes] at hreverse
  rw [withoutTrailingSlashes, hreverse, List.reverse_reverse]

/-- **The index knows a file by its name without leading slashes.**  A name that ends in a slash is
that of a folder. -/
theorem mem_indexName_iff :
    name ∈ (indexName stored).1 ↔
      name.toList = withoutLeadingSlashes stored.toList ∧ name ≠ "" ∧
        name.toList.getLast? ≠ some '/' := by
  rw [indexName]
  dsimp only
  by_cases hlast : (withoutLeadingSlashes stored.toList).getLast? = some '/'
  · rw [if_pos hlast]
    constructor
    · intro h
      split at h <;> exact absurd h List.not_mem_nil
    · rintro ⟨heq, -, h⟩
      exact absurd (heq ▸ hlast) h
  · rw [withoutTrailingSlashes_eq_self hlast, if_neg hlast]
    split
    · rename_i hempty
      refine ⟨fun h => absurd h List.not_mem_nil, ?_⟩
      rintro ⟨heq, hne, -⟩
      rw [← heq, String.toList_eq_nil_iff] at hempty
      exact absurd hempty hne
    · rename_i hne
      rw [List.mem_singleton, ← String.toList_inj, String.toList_ofList]
      refine ⟨fun h => ⟨h, ?_, h ▸ hlast⟩, And.left⟩
      rintro rfl
      exact hne h.symm

/-- A name in the index has no slash in front, so a stored name that differs from it has one. -/
theorem stored_of_mem_indexName (h : name ∈ (indexName stored).1) :
    stored = name ∨ stored.toList.head? = some '/' := by
  obtain ⟨heq, -, -⟩ := mem_indexName_iff.1 h
  refine or_iff_not_imp_right.2 fun hplain => ?_
  rw [withoutLeadingSlashes_eq_self hplain] at heq
  exact (String.toList_inj.1 heq).symm

/-- What is indexed under a name is also indexed under it when it is stored under it. -/
theorem mem_indexName_self (h : name ∈ (indexName stored).1) : name ∈ (indexName name).1 := by
  obtain ⟨heq, hne, hlast⟩ := mem_indexName_iff.1 h
  have hplain : name.toList.head? ≠ some '/' := heq ▸ head?_withoutLeadingSlashes stored.toList
  exact mem_indexName_iff.2 ⟨(withoutLeadingSlashes_eq_self hplain).symm, hne, hlast⟩

theorem mem_files_iff {path : Path} {content : OpenArchive} :
    name ∈ (ofArchive path content).files ↔
      ∃ entry ∈ content.archive.entries, name ∈ (indexName entry.name).1 := by
  rw [ofArchive]
  simp only [mem_sortedTexts, List.mem_flatMap, List.mem_map, exists_exists_and_eq_and]

theorem exists_of_openFile {path : Path} (h : openFile files path = .ok archive) :
    ∃ content, archive = ofArchive path content := by
  rw [openFile] at h
  split at h
  · rename_i content _
    exact ⟨content, (Except.ok.inj h).symm⟩
  · cases h

/-! ## Reading -/

theorem fileBytes_of_entry {entry : ArchiveEntry} {data : ByteArray}
    (hentry : archive.content.archive.entry? name = some entry)
    (hdata : archive.content.unpack files entry = .ok data) :
    archive.fileBytes files name = .ok data.data.toList := by
  rw [OpenArchive.unpack] at hdata
  simp [fileBytes, OpenArchive.read, hentry, hdata]

theorem fileBytes_of_absent (h : archive.content.archive.entry? name = none) :
    archive.fileBytes files name = .error (.badArchive (archive.path.join ⟨name⟩)) := by
  simp [fileBytes, OpenArchive.read, h]

theorem exists_entry_of_fileBytes {bytes : List UInt8}
    (h : archive.fileBytes files name = .ok bytes) :
    ∃ entry ∈ archive.content.archive.entries, entry.name = name := by
  cases hentry : archive.content.archive.entry? name with
  | none =>
    rw [fileBytes_of_absent hentry] at h
    cases h
  | some entry => exact ⟨entry, Archive.exists_of_entry? hentry⟩

/-- What can be read is in the index, unless its name has a slash at either end. -/
theorem mem_files_of_fileBytes {path : Path} {content : OpenArchive}
    (harchive : archive = ofArchive path content) {bytes : List UInt8}
    (h : archive.fileBytes files name = .ok bytes) (hne : name ≠ "")
    (hfirst : name.toList.head? ≠ some '/') (hlast : name.toList.getLast? ≠ some '/') :
    name ∈ archive.files := by
  obtain ⟨entry, hentry, rfl⟩ := exists_entry_of_fileBytes h
  rw [harchive] at hentry ⊢
  exact mem_files_iff.2 ⟨entry, hentry,
    mem_indexName_iff.2 ⟨(withoutLeadingSlashes_eq_self hfirst).symm, hne, hlast⟩⟩

/-- **What the index knows can be read if it is stored under the name by which it is known.**  Then
it has the data of an entry that the index knows under this name, at whatever time the data are
undamaged.  Otherwise all entries that the index knows under the name are stored with a slash in
front, and nothing is found. -/
theorem fileBytes_of_hasFile {later : Files} {path : Path}
    (hopen : openFile files path = .ok archive) (hfile : archive.hasFile name = true)
    (hsound : ∀ entry ∈ archive.content.archive.entries, name ∈ (indexName entry.name).1 →
      ∃ data, archive.content.unpack later entry = .ok data) :
    (name ∈ archive.content.archive.entries.map (·.name) →
      ∃ entry ∈ archive.content.archive.entries, name ∈ (indexName entry.name).1 ∧
        ∃ data, archive.content.unpack later entry = .ok data ∧
          archive.fileBytes later name = .ok data.data.toList) ∧
    (name ∉ archive.content.archive.entries.map (·.name) →
      (∀ entry ∈ archive.content.archive.entries, name ∈ (indexName entry.name).1 →
        entry.name.toList.head? = some '/') ∧
      archive.fileBytes later name = .error (.badArchive (path.join ⟨name⟩))) := by
  obtain ⟨content, rfl⟩ := exists_of_openFile hopen
  obtain ⟨known, -, hknown⟩ := mem_files_iff.1 (hasFile_iff.1 hfile)
  refine ⟨fun hstored => ?_, fun habsent => ⟨fun entry hentry hindexed => ?_, ?_⟩⟩
  · obtain ⟨entry, hfound⟩ := Option.ne_none_iff_exists'.1 fun hnone =>
      Archive.entry?_eq_none_iff.1 hnone hstored
    obtain ⟨hentry, hname⟩ := Archive.exists_of_entry? hfound
    have hindexed : name ∈ (indexName entry.name).1 := by
      rw [hname]
      exact mem_indexName_self hknown
    obtain ⟨data, hdata⟩ := hsound entry hentry hindexed
    exact ⟨entry, hentry, hindexed, data, hdata, fileBytes_of_entry hfound hdata⟩
  · refine (stored_of_mem_indexName hindexed).resolve_left fun hname => habsent ?_
    exact List.mem_map.2 ⟨entry, hentry, hname⟩
  · exact fileBytes_of_absent (Archive.entry?_eq_none_iff.2 habsent)

/-! ### A name with a slash in front -/

/-- A file of one byte. -/
def oneByteEntry (name : String) : NewEntry where
  name := name
  data := ⟨#[0x78]⟩
  method := PackedData.stored

/-- The symbols of a module, of which one is stored with a slash in front. -/
def slashedSymbols : Content :=
  ⟨Archive.pack [oneByteEntry "/B/m/T.sig", oneByteEntry "B/m/U.sig"]⟩

/-- The symbols under a name. -/
def slashedFiles : Files where
  entries := [(["ct.sym"], .file slashedSymbols false)]

theorem openFile_slashedFiles : ∃ archive, openFile slashedFiles ⟨"ct.sym"⟩ = .ok archive ∧
    archive.content.archive.entries.map (·.name) = ["/B/m/T.sig", "B/m/U.sig"] ∧
    archive.hasFile "B/m/T.sig" = true ∧ archive.hasFile "B/m/U.sig" = true ∧
    ∀ entry ∈ archive.content.archive.entries,
      archive.content.unpack slashedFiles entry = .ok ⟨#[0x78]⟩ := by
  have hread : (Archive.ofBytes? slashedSymbols.data).any (fun archive =>
      decide (archive.entries.map (·.name) = ["/B/m/T.sig", "B/m/U.sig"]) &&
        archive.entries.all fun entry =>
          decide (entry.packed.read slashedSymbols.data = .ok ⟨#[0x78]⟩)) = true := by
    decide +kernel
  obtain ⟨archive, harchive, hfound⟩ := (Option.any_eq_true _ _).1 hread
  rw [Bool.and_eq_true, decide_eq_true_eq, List.all_eq_true] at hfound
  obtain ⟨hnames, hdata⟩ := hfound
  have hresolve : slashedFiles.resolve? ⟨"/".intercalate ["ct.sym"]⟩ = some ["ct.sym"] :=
    Files.resolve?_intercalate (Files.wellFormed_of_forall (by decide) (by decide))
      (Files.linkFree_of_forall (by decide)) (by decide) rfl
  rw [String.intercalate_singleton] at hresolve
  obtain ⟨opened, hopen, rfl, hcontent⟩ := Files.exists_openArchive hresolve rfl harchive
  have hindexed : ∀ name ∈ ["B/m/T.sig", "B/m/U.sig"],
      (ofArchive ⟨"ct.sym"⟩ opened).hasFile name = true := by
    intro name hname
    have hindex : (opened.archive.entries.map (·.name)).map (fun stored => (indexName stored).1) =
        [["B/m/T.sig"], ["B/m/U.sig"]] := by
      rw [hnames]
      decide
    have hmem : [name] ∈
        (opened.archive.entries.map (·.name)).map (fun stored => (indexName stored).1) := by
      rw [hindex]
      simpa using hname
    rw [List.map_map] at hmem
    obtain ⟨entry, hentry, hentryName⟩ := List.mem_map.1 hmem
    rw [hasFile_iff, mem_files_iff]
    refine ⟨entry, hentry, ?_⟩
    rw [show (indexName entry.name).1 = [name] from hentryName]
    exact List.mem_singleton.2 rfl
  refine ⟨ofArchive ⟨"ct.sym"⟩ opened, by rw [openFile, hopen], hnames, hindexed _ (by simp),
    hindexed _ (by simp), fun entry hentry => ?_⟩
  exact (OpenArchive.unpack_eq hcontent entry).trans (of_decide_eq_true (hdata entry hentry))

/-- What is stored as it is indexed is read. -/
theorem fileBytes_of_hasFile_sample : ∃ archive, openFile slashedFiles ⟨"ct.sym"⟩ = .ok archive ∧
    archive.hasFile "B/m/U.sig" = true ∧
    archive.fileBytes slashedFiles "B/m/U.sig" = .ok [0x78] := by
  obtain ⟨archive, hopen, hnames, -, hfile, hdata⟩ := openFile_slashedFiles
  obtain ⟨entry, hentry, -, data, hunpack, hbytes⟩ :=
    (fileBytes_of_hasFile hopen hfile fun entry hentry _ => ⟨_, hdata entry hentry⟩).1
      (by rw [hnames]; simp)
  obtain rfl := Except.ok.inj ((hdata entry hentry).symm.trans hunpack)
  exact ⟨archive, hopen, hfile, hbytes⟩

/-- **Not all that the index knows can be read**, even if nothing is damaged. -/
theorem exists_indexed_not_read : ∃ archive, openFile slashedFiles ⟨"ct.sym"⟩ = .ok archive ∧
    (∀ entry ∈ archive.content.archive.entries,
      archive.content.unpack slashedFiles entry = .ok ⟨#[0x78]⟩) ∧
    archive.hasFile "B/m/T.sig" = true ∧
    ∀ bytes, archive.fileBytes slashedFiles "B/m/T.sig" ≠ .ok bytes := by
  obtain ⟨archive, hopen, hnames, hfile, -, hdata⟩ := openFile_slashedFiles
  refine ⟨archive, hopen, hdata, hfile, fun bytes hbytes => ?_⟩
  obtain ⟨entry, hentry, hname⟩ := exists_entry_of_fileBytes hbytes
  have hmem := List.mem_map_of_mem (f := ArchiveEntry.name) hentry
  rw [hname, hnames] at hmem
  simp at hmem

end SymbolArchive

end MultiRelease
