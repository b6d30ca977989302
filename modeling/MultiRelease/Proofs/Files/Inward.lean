import MultiRelease.Proofs.Files.Below

/-!
# Paths that stay in a folder

Joining a relative path to a folder may lead out of the folder, because two dots lead to the parent.
`descend` follows the steps of a path and gives up where they would leave the folder that they start
from.  A path is *inward* if they never do (`Path.IsInward`).

`Path.GoesInto folder names path` says that a path goes on from a folder in this way, and that it
comes out at the place below with the given names.  This is about the text of the path.  For what
stands in the tree it means that the path leads to that place and nowhere else, if no symbolic link
stands below the folder (`Path.GoesInto.eq_of_resolve?`).
-/

set_option autoImplicit false

namespace MultiRelease

open Text

/-! ## Following steps -/

/-- The place below a folder that steps lead to from a place below it, if they stay in the
folder. -/
def descend : List String → List String → Option (List String)
  | here, [] => some here
  | here, step :: steps =>
    if step = "." then descend here steps
    else if step = ".." then
      if here = [] then none else descend here.dropLast steps
    else descend (here ++ [step]) steps

theorem descend_append (here steps others : List String) :
    descend here (steps ++ others) = (descend here steps).bind fun there =>
      descend there others := by
  induction here, steps using descend.induct with
  | case1 here => rw [List.nil_append, descend, Option.bind_some]
  | case2 here steps ih => rw [List.cons_append, descend, if_pos rfl, descend, if_pos rfl, ih]
  | case3 steps hdot =>
    rw [List.cons_append, descend, if_neg hdot, if_pos rfl, if_pos rfl, descend, if_neg hdot,
      if_pos rfl, if_pos rfl, Option.bind_none]
  | case4 here steps hne hdot ih =>
    rw [List.cons_append, descend, if_neg hdot, if_pos rfl, if_neg hne, descend, if_neg hdot,
      if_pos rfl, if_neg hne, ih]
  | case5 here step steps hdot hdots ih =>
    rw [List.cons_append, descend, if_neg hdot, if_neg hdots, descend, if_neg hdot, if_neg hdots,
      ih]

/-- A proper name leads one step further down. -/
theorem descend_concat {here steps there : List String} (h : descend here steps = some there)
    {name : String} (hname : ProperName name) :
    descend here (steps ++ [name]) = some (there ++ [name]) := by
  rw [descend_append, h, Option.bind_some, descend, if_neg hname.ne_dot, if_neg hname.ne_dots,
    descend]

/-- Steps lead along proper names. -/
theorem proper_of_descend {here steps there : List String} (h : descend here steps = some there)
    (hhere : ∀ name ∈ here, ProperName name)
    (hsteps : ∀ step ∈ steps, step ≠ "" ∧ '/' ∉ step.toList) :
    ∀ name ∈ there, ProperName name := by
  induction here, steps using descend.induct with
  | case1 here =>
    rw [descend, Option.some_inj] at h
    exact h ▸ hhere
  | case2 here steps ih =>
    rw [descend, if_pos rfl] at h
    exact ih h hhere (List.forall_mem_cons.1 hsteps).2
  | case3 steps hdot =>
    rw [descend, if_neg hdot, if_pos rfl, if_pos rfl] at h
    cases h
  | case4 here steps hne hdot ih =>
    rw [descend, if_neg hdot, if_pos rfl, if_neg hne] at h
    exact ih h (fun name hname => hhere name (List.mem_of_mem_dropLast hname))
      (List.forall_mem_cons.1 hsteps).2
  | case5 here step steps hdot hdots ih =>
    rw [descend, if_neg hdot, if_neg hdots] at h
    obtain ⟨⟨hempty, hslash⟩, hrest⟩ := List.forall_mem_cons.1 hsteps
    refine ih h (List.forall_mem_append.2 ⟨hhere, List.forall_mem_singleton.2 ?_⟩) hrest
    exact ⟨hempty, hdot, hdots, hslash⟩

/-- Only two dots lead out of a folder. -/
theorem isSome_descend {here steps : List String} (h : ∀ step ∈ steps, step ≠ "..") :
    (descend here steps).isSome = true := by
  induction here, steps using descend.induct with
  | case1 here => rw [descend, Option.isSome_some]
  | case2 here steps ih =>
    rw [descend, if_pos rfl]
    exact ih (List.forall_mem_cons.1 h).2
  | case3 steps hdot => exact absurd rfl (List.forall_mem_cons.1 h).1
  | case4 here steps hne hdot ih => exact absurd rfl (List.forall_mem_cons.1 h).1
  | case5 here step steps hdot hdots ih =>
    rw [descend, if_neg hdot, if_neg hdots]
    exact ih (List.forall_mem_cons.1 h).2

/-- **A walk below a folder without links** leads to where the steps lead that it follows, as long
as they stay in the folder. -/
theorem Files.eq_of_walk_of_descend {files : Files} {home : Address}
    (hfree : files.LinkFreeBelow home) {here steps there : List String}
    (h : descend here steps = some there) {links : Nat} {place : Address}
    (hwalk : files.walk links (home ++ here) steps = some place) : place = home ++ there := by
  induction here, steps using descend.induct generalizing links with
  | case1 here =>
    rw [descend, Option.some_inj] at h
    rw [walk, Option.some_inj] at hwalk
    rw [← hwalk, h]
  | case2 here steps ih =>
    rw [descend, if_pos rfl] at h
    rw [walk, Option.ite_none_right_eq_some, if_pos rfl] at hwalk
    exact ih h hwalk.2
  | case3 steps hdot =>
    rw [descend, if_neg hdot, if_pos rfl, if_pos rfl] at h
    cases h
  | case4 here steps hne hdot ih =>
    rw [descend, if_neg hdot, if_pos rfl, if_neg hne] at h
    rw [walk, Option.ite_none_right_eq_some, if_neg hdot, if_pos rfl,
      List.dropLast_append_of_ne_nil hne] at hwalk
    exact ih h hwalk.2
  | case5 here step steps hdot hdots ih =>
    rw [descend, if_neg hdot, if_neg hdots] at h
    rw [walk, Option.ite_none_right_eq_some, if_neg hdot, if_neg hdots, List.append_assoc] at hwalk
    obtain ⟨-, hwalk⟩ := hwalk
    split at hwalk
    · cases hwalk
    · rename_i target hlink
      exact absurd hlink (hfree.entryAt?_ne (by simp) target)
    · exact ih h hwalk

/-! ## Inward paths -/

namespace Text

/-- The segments of a text are parts of it without the separator. -/
theorem segmentsAt_spec {separator : Char} {text : List Char} :
    ∀ segment ∈ segmentsAt separator text, separator ∉ segment ∧ segment.Sublist text := by
  induction text with
  | nil => simp [segmentsAt]
  | cons c text ih =>
    rw [segmentsAt]
    by_cases hc : c = separator
    · rw [if_pos hc]
      refine List.forall_mem_cons.2 ⟨⟨List.not_mem_nil, List.nil_sublist _⟩, fun segment hmem => ?_⟩
      exact ⟨(ih segment hmem).1, (ih segment hmem).2.cons c⟩
    · rw [if_neg hc]
      cases hsegments : segmentsAt separator text with
      | nil => exact absurd hsegments (segmentsAt_ne_nil separator text)
      | cons first others =>
        rw [hsegments] at ih
        obtain ⟨⟨hfirst, hsublist⟩, hothers⟩ := List.forall_mem_cons.1 ih
        refine List.forall_mem_cons.2 ⟨⟨?_, hsublist.cons_cons c⟩, fun segment hmem => ?_⟩
        · exact List.not_mem_cons_of_ne_of_not_mem (Ne.symm hc) hfirst
        · exact ⟨(hothers segment hmem).1, (hothers segment hmem).2.cons c⟩

theorem segments_spec {separator : Char} {text segment : String}
    (h : segment ∈ segments separator text) :
    separator ∉ segment.toList ∧ segment.toList.Sublist text.toList := by
  obtain ⟨chars, hchars, rfl⟩ := List.mem_map.1 h
  rw [String.toList_ofList]
  exact segmentsAt_spec chars hchars

end Text

namespace Path

variable {p folder path : Path} {below : List String}

/-- The names of a path are not empty, and there is no slash in them. -/
theorem names_spec {step : String} (h : step ∈ p.names) : step ≠ "" ∧ '/' ∉ step.toList := by
  obtain ⟨hsegment, hne⟩ := List.mem_filter.1 h
  exact ⟨of_decide_eq_true hne, (segments_spec hsegment).1⟩

/-- A relative path whose steps stay in the folder that they start from. -/
structure IsInward (p : Path) : Prop where
  relative : p.isAbsolute = false
  stays : (descend [] p.names).isSome = true

/-- A path goes on from a folder along steps that stay in it, to the place below with the given
names. -/
structure GoesInto (folder : Path) (below : List String) (path : Path) : Prop where
  isAbsolute : path.isAbsolute = folder.isAbsolute
  names : ∃ steps, path.names = folder.names ++ steps ∧ descend [] steps = some below
  ne_nil : below ≠ []
  proper : ∀ name ∈ below, ProperName name

/-- Steps that stay in a folder and a proper name behind them lead to a place below it. -/
theorem exists_goesInto {steps : List String} (hstays : (descend [] steps).isSome = true)
    (hsteps : ∀ step ∈ steps, step ≠ "" ∧ '/' ∉ step.toList) {name : String}
    (hname : ProperName name) (hnames : path.names = folder.names ++ (steps ++ [name]))
    (habsolute : path.isAbsolute = folder.isAbsolute) : ∃ below, folder.GoesInto below path := by
  obtain ⟨below, hbelow⟩ := Option.isSome_iff_exists.1 hstays
  have hproper : ∀ name ∈ below, ProperName name := proper_of_descend hbelow (by simp) hsteps
  exact ⟨below ++ [name], habsolute, ⟨_, hnames, descend_concat hbelow hname⟩, by simp,
    List.forall_mem_append.2 ⟨hproper, List.forall_mem_singleton.2 hname⟩⟩

/-- **A path into a folder without links leads to its place below the folder**, if it leads
anywhere. -/
theorem GoesInto.eq_of_resolve? {files : Files} {home place : Address}
    (h : folder.GoesInto below path) (hfolder : files.folder? folder = some home)
    (hfree : files.LinkFreeBelow home) (hresolve : files.resolve? path = some place) :
    place = home ++ below := by
  obtain ⟨-, front, hfront, hhome⟩ := Files.leads_of_folder? hfolder
  obtain ⟨left, hleft⟩ := Files.exists_walk_append hhome
  obtain ⟨steps, hnames, hbelow⟩ := h.names
  rw [List.append_nil] at hfront
  rw [Files.resolve?, Option.ite_none_left_eq_some, Path.steps, ← Path.names, hnames, hfront,
    List.append_assoc, Files.start, h.isAbsolute, ← Files.start, hleft] at hresolve
  have hwalk := hresolve.2
  rw [← List.append_nil home] at hwalk
  refine Files.eq_of_walk_of_descend hfree ?_ hwalk
  split
  · rw [descend_append, hbelow, Option.bind_some, descend, if_pos rfl, descend]
  · rwa [List.append_nil]

end Path

end MultiRelease
