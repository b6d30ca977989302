import Mathlib.Order.Bounds.Defs
import MultiRelease.Proofs.Platform.SignatureFiles

/-!
# The module that a signature file belongs to

In an archive of the per-module layout there are three searches for a signature file of a release:
for its path in any module, for the name of the module that has it, and for its path in a given
module.  A type that is read from the archive is marked with what the second search finds, while its
bytes come from where the first one ends, and so the two must not part.

Both are one search (`SymbolArchive.owner?`), for a folder of the release and a module in it.  It
ends at the first folder that has the file in any module, and at the first such module of that
folder.  `SymbolArchive.moduleOf?_owns` says so, and that the search in this module ends there, too:
what would be found in an earlier folder would be in a folder of the index, because the index is
complete, and then the other searches would not have passed it.
-/

set_option autoImplicit false

namespace MultiRelease

open Text

/-! ## The first of a sorted list -/

/-- In a sorted list, the first text that holds is the least one that does. -/
theorem isLeast_of_first {before after : List String} {first : String} {holds : String → Prop}
    (hsorted : (before ++ first :: after).Pairwise (· ≤ ·)) (hfirst : holds first)
    (hbefore : ∀ text ∈ before, ¬ holds text) :
    IsLeast {text | text ∈ before ++ first :: after ∧ holds text} first := by
  refine ⟨⟨List.mem_append_right before List.mem_cons_self, hfirst⟩, ?_⟩
  rintro text ⟨htext, hholds⟩
  rcases List.mem_append.1 htext with htext | htext
  · exact absurd hholds (hbefore text htext)
  · rcases List.mem_cons.1 htext with rfl | htext
    · exact String.le_refl text
    · exact List.rel_of_pairwise_cons (List.pairwise_append.1 hsorted).2.1 htext

theorem isLeast_of_head? {texts : List String} (hsorted : texts.Pairwise (· ≤ ·)) {first : String}
    (h : texts.head? = some first) : IsLeast {text | text ∈ texts} first := by
  obtain ⟨others, rfl⟩ := List.head?_eq_some_iff.1 h
  have hleast : IsLeast {text | text ∈ [] ++ first :: others ∧ True} first :=
    isLeast_of_first hsorted trivial fun _ hnone => absurd hnone List.not_mem_nil
  simpa using hleast

theorem le_of_append_le_append {beginning a b : String} (h : beginning ++ a ≤ beginning ++ b) :
    a ≤ b := by
  rw [← String.not_lt] at h ⊢
  intro hlt
  refine h ?_
  rw [String.lt_iff, String.toList_append, String.toList_append]
  exact List.append_left_lt (String.lt_iff.1 hlt)

namespace SymbolArchive

variable {archive : SymbolArchive} {code : Char} {signaturePath root module : String}

theorem pairwise_releaseRoots (h : archive.Complete) (code : Char) :
    (archive.releaseRoots code).Pairwise (· ≤ ·) :=
  h.sorted.filter _

/-- Sub-folders stand in the order of their own names, because their paths do. -/
theorem pairwise_childFolders (h : archive.Complete) (folder : String) :
    (archive.childFolders folder).Pairwise (· ≤ ·) := by
  rw [childFolders, List.pairwise_filterMap]
  have hinside := h.sorted.sublist ((List.takeWhile_sublist (hasPrefix (folder ++ "/"))).trans
    (List.dropWhile_sublist fun name => decide (name < folder ++ "/")))
  refine hinside.imp fun hle a ha b hb => ?_
  obtain rfl := withoutPrefix?_eq_some_iff.1 (Option.filter_eq_some_iff.1 ha).1
  obtain rfl := withoutPrefix?_eq_some_iff.1 (Option.filter_eq_some_iff.1 hb).1
  exact le_of_append_le_append hle

/-! ## One search -/

/-- The first folder of a release that has a signature file in a module, with the first such
module. -/
def owner? (archive : SymbolArchive) (code : Char) (signaturePath : String) :
    Option (String × String) :=
  (archive.releaseRoots code).findSome? fun root =>
    (archive.modulesWith root signaturePath).head?.map fun module => (root, module)

theorem moduleOf?_eq (hlayout : archive.perModule = true) (code : Char) (signaturePath : String) :
    archive.moduleOf? code signaturePath = (archive.owner? code signaturePath).map (·.2) := by
  rw [moduleOf?, if_pos hlayout, owner?, List.map_findSome?]
  simp [Function.comp_def]

theorem fullPath?_none_eq (hlayout : archive.perModule = true) (code : Char)
    (signaturePath : String) :
    archive.fullPath? code signaturePath none
      = (archive.owner? code signaturePath).map fun owner =>
          modulePath owner.1 owner.2 signaturePath := by
  rw [fullPath?, owner?, List.map_findSome?]
  simp [Function.comp_def, pathInRoot?, hlayout]

theorem holds_none_iff (hlayout : archive.perModule = true) :
    archive.Holds root signaturePath none ↔
      ∃ module, '/' ∉ module.toList ∧ modulePath root module signaturePath ∈ archive.files := by
  rw [Holds, if_pos hlayout]

/-- What a folder holds in a module, it holds. -/
theorem Holds.anywhere (hlayout : archive.perModule = true) (hplain : '/' ∉ module.toList)
    (hholds : archive.Holds root signaturePath (some module)) :
    archive.Holds root signaturePath none := by
  rw [Holds, if_pos hlayout] at hholds
  exact (holds_none_iff hlayout).2 ⟨module, hplain, hholds⟩

/-- Where the search ends: at the first folder that has the file, and at its first module that
does.  The search in this module ends there, too. -/
theorem of_owner?_eq_some (h : archive.Complete) (hlayout : archive.perModule = true)
    (howner : archive.owner? code signaturePath = some (root, module)) :
    IsLeast {root | archive.IsReleaseRoot code root ∧ archive.Holds root signaturePath none} root ∧
      IsLeast {module | '/' ∉ module.toList ∧
        modulePath root module signaturePath ∈ archive.files} module ∧
      archive.fullPath? code signaturePath (some module)
        = some (modulePath root module signaturePath) := by
  obtain ⟨before, root', after, hroots, hfound, hbefore⟩ := List.findSome?_eq_some_iff.1 howner
  obtain ⟨module', hhead, heq⟩ := Option.map_eq_some_iff.1 hfound
  obtain ⟨rfl, rfl⟩ := Prod.mk.inj heq
  have hmodule : IsLeast {module | module ∈ archive.modulesWith root' signaturePath} module' :=
    isLeast_of_head? ((pairwise_childFolders h root').filter _) hhead
  simp only [mem_modulesWith h] at hmodule
  obtain ⟨hplain, hfile⟩ := hmodule.1
  have hpassed : ∀ other ∈ before, ¬ archive.Holds other signaturePath none := by
    intro other hother hholds
    obtain ⟨module, hmem⟩ := (holds_none_iff hlayout).1 hholds
    have hnil := List.head?_eq_none_iff.1 (Option.map_eq_none_iff.1 (hbefore other hother))
    exact List.ne_nil_of_mem ((mem_modulesWith h).2 hmem) hnil
  have hroot : IsLeast {root | root ∈ archive.releaseRoots code ∧
      archive.Holds root signaturePath none} root' := by
    rw [hroots]
    exact isLeast_of_first (hroots ▸ pairwise_releaseRoots h code)
      ((holds_none_iff hlayout).2 ⟨module', hplain, hfile⟩) hpassed
  simp only [mem_releaseRoots] at hroot
  refine ⟨hroot, hmodule, List.findSome?_eq_some_iff.2 ⟨before, root', after, hroots, ?_, ?_⟩⟩
  · simp [pathInRoot?, hlayout, hasFile_iff, hfile]
  · intro other hother
    exact (pathInRoot?_eq_none_iff h _ _ _).2 fun hholds =>
      hpassed other hother (hholds.anywhere hlayout hplain)

/-- **The module of a signature file is the one that its path leads through**: the file is found in
a module exactly if a module is found that has it.  This is the first module that has the file in
the first folder of the release that has it in any, and the search in this module ends at the same
path. -/
theorem moduleOf?_owns {path : Path} {content : OpenArchive}
    (harchive : ofArchive path content = archive) (hlayout : archive.perModule = true)
    (code : Char) (signaturePath : String) :
    ((archive.fullPath? code signaturePath none).isSome = true ↔
      (archive.moduleOf? code signaturePath).isSome = true) ∧
    ∀ module, archive.moduleOf? code signaturePath = some module →
      ∃ root,
        IsLeast {root | archive.IsReleaseRoot code root ∧ archive.Holds root signaturePath none}
          root ∧
        IsLeast {module | '/' ∉ module.toList ∧
          modulePath root module signaturePath ∈ archive.files} module ∧
        archive.fullPath? code signaturePath none
          = some (modulePath root module signaturePath) ∧
        archive.fullPath? code signaturePath (some module)
          = some (modulePath root module signaturePath) := by
  have hcomplete : archive.Complete := harchive ▸ complete_ofArchive path content
  rw [moduleOf?_eq hlayout, fullPath?_none_eq hlayout, Option.isSome_map, Option.isSome_map]
  refine ⟨.rfl, fun module hmodule => ?_⟩
  obtain ⟨⟨root, module⟩, howner, rfl⟩ := Option.map_eq_some_iff.1 hmodule
  obtain ⟨hroot, hleast, hscoped⟩ := of_owner?_eq_some hcomplete hlayout howner
  exact ⟨root, hroot, hleast, by rw [howner, Option.map_some], hscoped⟩

/-- The index of two modules with a class of one name.  The folder of one module comes first, the
name of the other. -/
theorem ofArchive_two {content : OpenArchive} (path : Path)
    (hnames : content.archive.entries.map (·.name) = ["9B/z/T.sig", "B/a/T.sig"]) :
    ofArchive path content =
      { path, content, files := ["9B/z/T.sig", "B/a/T.sig"],
        folders := ["9B", "9B/z", "B", "B/a"] } := by
  have hindexed : content.archive.entries.map (fun entry => indexName entry.name)
      = [(["9B/z/T.sig"], ["9B", "9B/z"]), (["B/a/T.sig"], ["B", "B/a"])] := by
    have hmap := congrArg (List.map indexName) hnames
    rw [List.map_map] at hmap
    exact hmap.trans (by decide)
  rw [ofArchive, hindexed]
  simp [sortedTexts, sortedDistinct, List.mergeSort_of_pairwise, dropRepeated]

/-- An archive with these modules. -/
def twoModules : OpenArchive where
  file := ⟨["ct.sym"], 0⟩
  archive := ⟨["9B/z/T.sig", "B/a/T.sig"].map fun name => ⟨name, default⟩⟩

theorem moduleOf?_owns_sample :
    (ofArchive ⟨"ct.sym"⟩ twoModules).moduleOf? 'B' "T.sig" = some "z" ∧
      (ofArchive ⟨"ct.sym"⟩ twoModules).fullPath? 'B' "T.sig" (some "z")
        = (ofArchive ⟨"ct.sym"⟩ twoModules).fullPath? 'B' "T.sig" none := by
  have hnames : twoModules.archive.entries.map (·.name) = ["9B/z/T.sig", "B/a/T.sig"] := rfl
  have hindex := ofArchive_two ⟨"ct.sym"⟩ hnames
  have hlayout : (ofArchive ⟨"ct.sym"⟩ twoModules).perModule = true := by
    rw [hindex]
    decide
  have hmodule : (ofArchive ⟨"ct.sym"⟩ twoModules).moduleOf? 'B' "T.sig" = some "z" := by
    rw [hindex]
    decide
  obtain ⟨root, -, -, hpath, hscoped⟩ := (moduleOf?_owns rfl hlayout 'B' "T.sig").2 "z" hmodule
  exact ⟨hmodule, hscoped.trans hpath.symm⟩

end SymbolArchive

end MultiRelease
