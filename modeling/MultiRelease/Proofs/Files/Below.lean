import MultiRelease.Proofs.Files.Tree

/-!
# Below a folder without links

A path may lead to a folder through links.  If there are no links below the folder itself
(`Files.LinkFreeBelow`), then further steps along proper names lead to the place with these names if
something stands there, and nowhere else (`Files.walk_below`).  So what a path names below the
folder is what stands there, whatever the rest of the tree looks like (`Files.Leads.entry?_below`).

This is the same statement as for trees without any links, under a weaker assumption.  It is what
the output folder of a build needs, which may well be reached through a link, as long as the
compiler puts none into it.  The walk is followed name by name: what stands at the first name has no
links below it either (`Files.LinkFreeBelow.append`), and if nothing stands there, then nothing
stands at the end (`Files.WellFormed.entryAt?_append_eq_none`).
-/

set_option autoImplicit false

namespace MultiRelease.Files

open Text

variable {files : Files} {home : Address} {p : Path} {names : List String}

/-- No links stand below an address. -/
def LinkFreeBelow (files : Files) (home : Address) : Prop :=
  ∀ names target, (home ++ names, .link target) ∉ files.entries

theorem LinkFreeBelow.append (h : files.LinkFreeBelow home) (names : List String) :
    files.LinkFreeBelow (home ++ names) := fun inner target => by
  rw [List.append_assoc]
  exact h (names ++ inner) target

theorem LinkFreeBelow.entryAt?_ne (h : files.LinkFreeBelow home) (hne : names ≠ [])
    (target : Path) : files.entryAt? (home ++ names) ≠ some (.link target) := fun hentry =>
  h names target (mem_of_entryAt? (by simp [hne]) hentry)

/-- Where nothing stands, nothing stands below. -/
theorem WellFormed.entryAt?_append_eq_none (h : files.WellFormed)
    (hnone : files.entryAt? home = none) (names : List String) :
    files.entryAt? (home ++ names) = none := by
  by_cases hne : names = []
  · rwa [hne, List.append_nil]
  · refine Option.eq_none_iff_forall_ne_some.2 fun entry hentry => ?_
    rw [h.folder_of_below hne hentry] at hnone
    cases hnone

/-- **A walk below a folder without links** leads to the place with the names that it follows. -/
theorem walk_below (hwf : files.WellFormed) {links : Nat} {names : List String} :
    ∀ {home : Address}, files.LinkFreeBelow home → (files.entryAt? home).isSome = true →
      (∀ name ∈ names, ProperName name) →
        files.walk links home names
          = (files.entryAt? (home ++ names)).map fun _ => home ++ names := by
  induction names with
  | nil =>
    intro home _ hsome _
    obtain ⟨entry, hentry⟩ := Option.isSome_iff_exists.1 hsome
    rw [walk, List.append_nil, hentry, Option.map_some]
  | cons name names ih =>
    intro home hfree hsome hproper
    have hname := hproper name List.mem_cons_self
    have hrest : home ++ name :: names = home ++ [name] ++ names := by simp
    rw [walk]
    by_cases hfolder : (files.entryAt? home).any FileEntry.isFolder
    · rw [if_pos hfolder, if_neg hname.ne_dot, if_neg hname.ne_dots, hrest]
      have hgoes := fun hsome => ih (hfree.append [name]) hsome fun other hother =>
        hproper other (List.mem_cons_of_mem _ hother)
      cases hentry : files.entryAt? (home ++ [name]) with
      | none => rw [hwf.entryAt?_append_eq_none hentry, Option.map_none]
      | some entry =>
        cases entry with
        | link target => exact absurd hentry (hfree.entryAt?_ne (List.cons_ne_nil _ _) target)
        | folder => exact hgoes (by rw [hentry, Option.isSome_some])
        | file content executable => exact hgoes (by rw [hentry, Option.isSome_some])
    · rw [if_neg hfolder]
      cases hentry : files.entryAt? (home ++ name :: names) with
      | none => rfl
      | some entry =>
        exact absurd (isFolder_iff.2 (hwf.folder_of_below (List.cons_ne_nil _ _) hentry)) hfolder

/-! ## Paths below a folder -/

/-- A path leads to the folder that it names. -/
theorem leads_of_folder? (h : files.folder? p = some home) : files.Leads home p [] := by
  have hne : p.text ≠ "" := by
    intro hempty
    rw [folder?, resolve?, if_pos hempty] at h
    cases h
  rw [files.folder?_eq_walk hne, walk_concat_dot, Option.filter_eq_some_iff] at h
  exact ⟨hne, p.names, (List.append_nil _).symm, h.1⟩

theorem entryAt?_of_folder? (h : files.folder? p = some home) :
    files.entryAt? home = some .folder := by
  rw [folder?, Option.filter_eq_some_iff] at h
  exact isFolder_iff.1 h.2

/-- A path to something in a folder leads there, if it is no link. -/
theorem resolve?_child (hfolder : files.folder? p = some home) {name : String} {entry : FileEntry}
    (hname : ProperName name) (hentry : files.entryAt? (home ++ [name]) = some entry)
    (hlink : ∀ target, entry ≠ .link target) :
    files.resolve? (p.child name) = some (home ++ [name]) := by
  have hleads := (leads_of_folder? hfolder).child hname
  obtain ⟨front, hnames, hfront⟩ := hleads.names
  rw [resolve?, if_neg hleads.ne_empty, Path.steps, ← Path.names, p.hasSuffix_slash_child hname,
    if_neg Bool.false_ne_true, List.append_nil, hnames]
  exact walk_concat hname (entryAt?_of_folder? hfolder) hentry hlink _ _ _ hfront

theorem Leads.resolve?_below (h : files.Leads home p names) (hwf : files.WellFormed)
    (hfree : files.LinkFreeBelow home) (hhome : files.entryAt? home = some .folder)
    (hproper : ∀ name ∈ names, ProperName name) (hend : hasSuffix "/" p.text = false) :
    files.resolve? p = (files.entryAt? (home ++ names)).map fun _ => home ++ names := by
  obtain ⟨front, hnames, hfront⟩ := h.names
  obtain ⟨left, hleft⟩ := exists_walk_append hfront
  rw [resolve?, if_neg h.ne_empty, Path.steps, ← Path.names, hend, if_neg Bool.false_ne_true,
    List.append_nil, hnames, hleft]
  exact walk_below hwf hfree (by rw [hhome, Option.isSome_some]) hproper

/-- **What a path names below a folder without links** is what stands there. -/
theorem Leads.entry?_below (h : files.Leads home p names) (hwf : files.WellFormed)
    (hfree : files.LinkFreeBelow home) (hhome : files.entryAt? home = some .folder)
    (hproper : ∀ name ∈ names, ProperName name) (hend : hasSuffix "/" p.text = false) :
    files.entry? p = files.entryAt? (home ++ names) := by
  rw [ entry?, h.resolve?_below hwf hfree hhome hproper hend]
  cases hentry : files.entryAt? (home ++ names) with
  | none => rfl
  | some entry => rw [Option.map_some, Option.bind_some, hentry]

end MultiRelease.Files
