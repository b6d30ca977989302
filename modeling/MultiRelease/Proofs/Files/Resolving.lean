import MultiRelease.Files

/-!
# Paths that lead to the same place

Two spellings of a path are the same (`Path.same`) when their components are, which leaves repeated
slashes and inner dots out of account.  The main statements are that the spelling does not matter:

* `Files.resolve?_join_of_same`: not for what is found *below* the path;
* `Files.folder?_of_same`: not for the folder that the path names, nor for what the folder lists
  (`Files.list?_eq_folder?`) and what is found anywhere below it (`Files.below_eq_folder?`).

It does matter for other things that the path may name.  `a` names a file and `a/.` names nothing
then, since a dot asks for a folder.  That is also why the statements are true: a dot only asks for
a folder, which the step after it does as well (`Files.walk_dot_cons`), so that dots in front of a
step can be left out (`Files.walk_without_dots`).

The other half of the work is to tell the segments of a path from those of its parts, so that
walking along a path can be cut where the path was joined.  A separator cuts a text in two, wherever
it stands (`segmentsAt_append_separator`), and joining paths puts exactly one separator between
them, so the names of a joined path are those of its parts (`Path.names_join`), and its steps are
the names of the first part and the steps of the second (`Path.steps_join`).  The two differ in the
last step only, which is a dot if the path ends in a slash.

Components are read off the segments.  Up to dots and empty segments nothing is lost
(`Path.segments_eq_of_components`), and they tell whether a path is absolute
(`Path.isAbsolute_iff_of_components`) and whether it is empty (`Path.components_eq_nil_iff`).  This
is all that resolving a path looks at.
-/

set_option autoImplicit false

namespace MultiRelease

/-! ## Segments -/

namespace Text

theorem segmentsAt_ne_nil (separator : Char) (text : List Char) :
    segmentsAt separator text ≠ [] := by
  cases text with
  | nil => simp [segmentsAt]
  | cons c text =>
    rw [segmentsAt]
    split
    · simp
    · split <;> simp

/-- A separator cuts a text in two, and nothing else depends on where it stands. -/
theorem segmentsAt_append_separator (separator : Char) (front back : List Char) :
    segmentsAt separator (front ++ separator :: back)
      = segmentsAt separator front ++ segmentsAt separator back := by
  induction front with
  | nil => simp [segmentsAt]
  | cons c front ih =>
    rw [List.cons_append, segmentsAt, segmentsAt, ih]
    by_cases hc : c = separator
    · simp [hc]
    · rw [if_neg hc, if_neg hc]
      cases hfront : segmentsAt separator front with
      | nil => exact absurd hfront (segmentsAt_ne_nil separator front)
      | cons segment others => rfl

theorem segments_append_separator (separator : Char) (front back : String) :
    segments separator (front ++ String.singleton separator ++ back)
      = segments separator front ++ segments separator back := by
  rw [segments, segments, segments, ← List.map_append, ← segmentsAt_append_separator]
  simp

theorem segmentsAt_of_notMem {separator : Char} :
    ∀ {text : List Char}, separator ∉ text → segmentsAt separator text = [text]
  | [], _ => rfl
  | c :: text, h => by
    rw [List.mem_cons, not_or] at h
    rw [segmentsAt, if_neg (Ne.symm h.1), segmentsAt_of_notMem h.2]

theorem segments_append_slash (front back : String) :
    segments '/' (front ++ "/" ++ back) = segments '/' front ++ segments '/' back :=
  segments_append_separator '/' front back

/-- Segments that were put together are found again. -/
theorem segments_intercalate :
    ∀ {names : List String}, names ≠ [] → (∀ name ∈ names, '/' ∉ name.toList) →
      segments '/' ("/".intercalate names) = names
  | [], hne, _ => absurd rfl hne
  | [name], _, h => by
    rw [String.intercalate_singleton, segments, segmentsAt_of_notMem (h name List.mem_cons_self)]
    simp
  | name :: other :: names, _, h => by
    have hothers := segments_intercalate (List.cons_ne_nil other names) fun name hname =>
      h name (List.mem_cons_of_mem _ hname)
    rw [String.intercalate_cons_cons, segments_append_slash, hothers, segments,
      segmentsAt_of_notMem (h name List.mem_cons_self)]
    simp

end Text

namespace Path

open Text

theorem hasSuffix_slash (text : String) :
    hasSuffix "/" text = decide (text.toList.getLast? = some '/') := by
  rw [hasSuffix, Bool.eq_iff_iff, List.isSuffixOf_iff_suffix, decide_eq_true_eq,
    List.getLast?_eq_some_iff]
  exact ⟨fun ⟨front, h⟩ => ⟨front, h.symm⟩, fun ⟨front, h⟩ => ⟨front, h.symm⟩⟩

theorem hasSuffix_slash_append (front : String) {back : String} (h : back ≠ "") :
    hasSuffix "/" (front ++ back) = hasSuffix "/" back := by
  have hback : back.toList ≠ [] := fun hnil => h (String.toList_eq_nil_iff.1 hnil)
  rw [hasSuffix_slash, hasSuffix_slash, String.toList_append, List.getLast?_append,
    Option.or_of_isSome (List.getLast?_isSome.2 hback)]

/-- A slash at the end of a path is followed by an empty segment. -/
theorem exists_of_slash {p : Path} (h : hasSuffix "/" p.text = true) :
    ∃ front, p.text = front ++ "/" ∧ p.segments = Text.segments '/' front ++ [""] := by
  rw [hasSuffix_slash, decide_eq_true_eq, List.getLast?_eq_some_iff] at h
  obtain ⟨front, hfront⟩ := h
  have htext : p.text = String.ofList front ++ "/" := by
    rw [← String.toList_inj, hfront, String.toList_append, String.toList_ofList]
    rfl
  refine ⟨String.ofList front, htext, ?_⟩
  have hsegments := segments_append_slash (String.ofList front) ""
  rwa [String.append_empty, ← htext] at hsegments

/-- The segments of a path that lead anywhere. -/
def names (p : Path) : List String := p.segments.filter (· ≠ "")

/-- The names of a joined path are those of its parts. -/
theorem names_join (p q : Path) (habsolute : q.isAbsolute = false) :
    (p.join q).names = p.names ++ q.names := by
  have hnil : Text.segments '/' "" = [""] := rfl
  rw [join, if_neg (by simp [habsolute])]
  by_cases hp : p.text = ""
  · rw [if_pos hp, names, names, segments, segments, hp, hnil]
    rfl
  · rw [if_neg hp]
    by_cases hslash : hasSuffix "/" p.text = true
    · obtain ⟨front, htext, hsegments⟩ := exists_of_slash hslash
      rw [if_pos hslash, names, names, names, hsegments, Path.segments, htext,
        segments_append_slash]
      simp [Path.segments]
    · rw [if_neg hslash, names, names, names, Path.segments, segments_append_slash,
        List.filter_append]
      rfl

/-- A path is not empty if it is joined from one that is not. -/
theorem text_join_ne_empty (p : Path) {q : Path} (habsolute : q.isAbsolute = false)
    (h : p.text ≠ "" ∨ q.text ≠ "") : (p.join q).text ≠ "" := by
  rw [join, if_neg (by simp [habsolute])]
  by_cases hp : p.text = ""
  · rw [if_pos hp]
    exact h.resolve_left (not_not_intro hp)
  · rw [if_neg hp]
    split <;> simp [hp]

/-- What a joined path ends in is decided by its last part. -/
theorem hasSuffix_slash_join (p : Path) {q : Path} (habsolute : q.isAbsolute = false)
    (hq : q.text ≠ "") : hasSuffix "/" (p.join q).text = hasSuffix "/" q.text := by
  rw [join, if_neg (by simp [habsolute])]
  by_cases hp : p.text = ""
  · rw [if_pos hp]
  · rw [if_neg hp]
    split <;> exact hasSuffix_slash_append _ hq

/-- The steps along a joined path are those along its parts. -/
theorem steps_join (p q : Path) (habsolute : q.isAbsolute = false) (hq : q.text ≠ "") :
    (p.join q).steps = p.names ++ q.steps := by
  rw [steps, steps, ← names, ← names, names_join p q habsolute, hasSuffix_slash_join p habsolute hq,
    List.append_assoc]

theorem isAbsolute_join (p q : Path) (habsolute : q.isAbsolute = false) :
    (p.join q).isAbsolute = p.isAbsolute := by
  rw [join, if_neg (by simp [habsolute])]
  by_cases hp : p.text = ""
  · rw [if_pos hp, habsolute, isAbsolute, hp]
    rfl
  · have hne : p.text.toList ≠ [] := fun hnil => hp (String.toList_eq_nil_iff.1 hnil)
    obtain ⟨c, rest, hc⟩ := List.exists_cons_of_ne_nil hne
    rw [if_neg hp]
    split <;> simp [isAbsolute, hc]

/-! ## Components -/

/-- The name to follow for a component, if it leads anywhere. -/
def Component.step? : Component → Option String
  | root => none
  | current => none
  | parent => some ".."
  | name value => some value

theorem filterMap_segmentComponents (segment : String) :
    (segmentComponents segment).filterMap Component.step?
      = [segment].filter (fun s => !isIdle s) := by
  rw [segmentComponents]
  by_cases hidle : segment = "" ∨ segment = "."
  · rw [if_pos hidle]
    rcases hidle with rfl | rfl <;> rfl
  · have hidle' : isIdle segment = false := by
      rw [not_or] at hidle
      simp [isIdle, hidle.1, hidle.2]
    rw [if_neg hidle]
    by_cases hparent : segment = ".."
    · rw [if_pos hparent, hparent]
      rfl
    · rw [if_neg hparent]
      simp [Component.step?, hidle']

theorem filterMap_flatMap_segmentComponents (segments : List String) :
    (segments.flatMap segmentComponents).filterMap Component.step?
      = segments.filter (fun s => !isIdle s) := by
  induction segments with
  | nil => rfl
  | cons segment segments ih =>
    rw [List.flatMap_cons, List.filterMap_append, ih, filterMap_segmentComponents,
      ← List.filter_append, List.singleton_append]

/-- An absolute path starts with an empty segment. -/
theorem segments_of_isAbsolute {p : Path} (h : p.isAbsolute = true) :
    ∃ others, p.segments = "" :: others := by
  rw [isAbsolute, decide_eq_true_eq, List.head?_eq_some_iff] at h
  obtain ⟨rest, hrest⟩ := h
  exact ⟨(segmentsAt '/' rest).map String.ofList, by
    rw [Path.segments, Text.segments, hrest, segmentsAt, if_pos rfl]
    rfl⟩

/-- Up to empty segments and dots, the components of a path tell its segments. -/
theorem segments_eq_of_components (p : Path) :
    p.segments.filter (fun s => !isIdle s) = p.components.filterMap Component.step? := by
  rw [components]
  cases hsegments : p.segments with
  | nil => rfl
  | cons first others =>
    dsimp only
    rw [List.filterMap_append, filterMap_flatMap_segmentComponents, ← List.singleton_append,
      List.filter_append]
    congr 1
    by_cases habsolute : p.isAbsolute = true
    · obtain ⟨_, hfirst⟩ := segments_of_isAbsolute habsolute
      obtain ⟨rfl, -⟩ := List.cons.inj (hsegments.symm.trans hfirst)
      rw [if_pos habsolute]
      rfl
    · rw [if_neg habsolute]
      by_cases hdot : first = "."
      · rw [if_pos hdot, hdot]
        rfl
      · rw [if_neg hdot, filterMap_segmentComponents]

theorem root_notMem_segmentComponents (segment : String) :
    Component.root ∉ segmentComponents segment := by
  rw [segmentComponents]
  split
  · simp
  · split <;> simp

/-- The components of a path tell whether it is absolute. -/
theorem isAbsolute_iff_of_components (p : Path) :
    p.isAbsolute = true ↔ p.components.head? = some .root := by
  rw [components]
  constructor
  · intro habsolute
    obtain ⟨others, hsegments⟩ := segments_of_isAbsolute habsolute
    rw [hsegments, habsolute]
    rfl
  · intro h
    refine Decidable.byContradiction fun habsolute => ?_
    cases hsegments : p.segments with
    | nil => simp [hsegments] at h
    | cons first others =>
      have hroot : Component.root ∈ (first :: others).flatMap segmentComponents := by
        rw [hsegments] at h
        dsimp only at h
        rw [if_neg habsolute] at h
        by_cases hdot : first = "."
        · simp [hdot] at h
        · rw [if_neg hdot] at h
          exact List.mem_of_mem_head? h
      obtain ⟨segment, -, hsegment⟩ := List.mem_flatMap.1 hroot
      exact root_notMem_segmentComponents segment hsegment

/-- Only an absolute path and the empty one start with an empty segment. -/
theorem exists_segment_of_relative {p : Path} (h : p.isAbsolute = false) (hne : p.text ≠ "") :
    ∃ first others, p.segments = first :: others ∧ first ≠ "" := by
  obtain ⟨c, rest, htext⟩ :=
    List.exists_cons_of_ne_nil fun hnil => hne (String.toList_eq_nil_iff.1 hnil)
  have hc : c ≠ '/' := by
    rintro rfl
    simp [isAbsolute, htext] at h
  rw [Path.segments, Text.segments, htext, segmentsAt, if_neg hc]
  cases segmentsAt '/' rest with
  | nil => exact ⟨_, _, rfl, by simp⟩
  | cons segment others => exact ⟨_, _, rfl, by simp⟩

/-- Only the empty path has no components. -/
theorem components_eq_nil_iff {p : Path} : p.components = [] ↔ p.text = "" := by
  constructor
  · intro h
    refine Decidable.byContradiction fun hne => ?_
    by_cases habsolute : p.isAbsolute = true
    · rw [isAbsolute_iff_of_components, h] at habsolute
      cases habsolute
    · rw [Bool.not_eq_true] at habsolute
      obtain ⟨first, others, hsegments, hfirst⟩ := exists_segment_of_relative habsolute hne
      rw [components, hsegments, habsolute] at h
      dsimp only at h
      rw [if_neg Bool.false_ne_true, List.append_eq_nil_iff] at h
      by_cases hdot : first = "."
      · simp [hdot] at h
      · rw [if_neg hdot, segmentComponents, if_neg (not_or.2 ⟨hfirst, hdot⟩)] at h
        split at h <;> cases h.1
  · intro h
    obtain rfl : p = ⟨""⟩ := by rw [← h]
    rfl

/-- More segments bring more components.  What a path ends in, other than its segments, does not
matter: that is why nothing has to come of `tail`. -/
theorem components_extend {p q : Path} {front tail names : List String} (hne : front ≠ [])
    (habsolute : q.isAbsolute = p.isAbsolute) (hp : p.segments = front ++ tail)
    (hq : q.segments = front ++ names) (htail : tail.flatMap segmentComponents = []) :
    q.components = p.components ++ names.flatMap segmentComponents := by
  obtain ⟨first, others, rfl⟩ := List.exists_cons_of_ne_nil hne
  rw [List.cons_append] at hp hq
  rw [components, components, hp, hq, habsolute]
  dsimp only
  rw [List.flatMap_append, List.flatMap_append, htail, List.append_nil, List.append_assoc]

/-- **The components of a joined path.**  Those of its second part do not start with a dot, since
it is no longer the start of a path. -/
theorem components_join (p : Path) (hp : p.text ≠ "") {q : Path}
    (habsolute : q.isAbsolute = false) :
    (p.join q).components = p.components ++ q.segments.flatMap segmentComponents := by
  have habsolute' := isAbsolute_join p q habsolute
  rw [join, if_neg (by rw [habsolute]; exact Bool.false_ne_true), if_neg hp] at habsolute' ⊢
  by_cases hslash : hasSuffix "/" p.text = true
  · rw [if_pos hslash] at habsolute' ⊢
    obtain ⟨front, htext, hsegments⟩ := exists_of_slash hslash
    have hfront : Text.segments '/' front ≠ [] := by simp [Text.segments, segmentsAt_ne_nil]
    refine components_extend hfront habsolute' hsegments ?_ rfl
    rw [Path.segments, htext, segments_append_slash, Path.segments]
  · rw [if_neg hslash] at habsolute' ⊢
    have hpne : p.segments ≠ [] := by simp [Path.segments, Text.segments, segmentsAt_ne_nil]
    refine components_extend hpne habsolute' (List.append_nil _).symm ?_ rfl
    rw [Path.segments, segments_append_slash, Path.segments, Path.segments]

/-- Paths that are the same stay so when the same is joined to them. -/
theorem components_join_congr {p q : Path} (h : p.components = q.components) (x : Path) :
    (p.join x).components = (q.join x).components := by
  by_cases habsolute : x.isAbsolute = true
  · rw [join, join, if_pos habsolute, if_pos habsolute]
  · rw [Bool.not_eq_true] at habsolute
    by_cases hp : p.text = ""
    · have hq : q.text = "" := by rw [← components_eq_nil_iff, ← h, components_eq_nil_iff, hp]
      rw [join, join, if_pos hp, if_pos hq]
    · have hq : q.text ≠ "" := by
        rwa [Ne, ← components_eq_nil_iff, ← h, components_eq_nil_iff]
      rw [p.components_join hp habsolute, q.components_join hq habsolute, h]

end Path

/-! ## Walking -/

namespace Files

variable (files : Files)

/-- What comes after some steps may be exchanged for steps that lead to the same places. -/
theorem walk_append_congr {tail tail' : List String}
    (h : ∀ links here, files.walk links here tail = files.walk links here tail')
    (links : Nat) (here : Address) (steps : List String) :
    files.walk links here (steps ++ tail) = files.walk links here (steps ++ tail') := by
  induction links, here, steps using walk.induct files with
  | case1 links here => exact h links here
  | case2 links here steps hfolder ih => simpa [walk, hfolder] using ih
  | case3 links here steps hfolder hdot ih => simpa [walk, hfolder] using ih
  | case4 links here step steps hfolder hdot hparent hentry =>
    simp [walk, hfolder, hdot, hparent, hentry]
  | case5 here step steps hfolder hdot hparent target hentry =>
    simp [walk, hfolder, hdot, hparent, hentry]
  | case6 here step steps hfolder hdot hparent target hentry links ih =>
    simpa [walk, hfolder, hdot, hparent, hentry] using ih
  | case7 links here step steps hfolder hdot hparent entry hlink hentry ih =>
    cases entry with
    | link target => exact absurd rfl (hlink target)
    | folder => simpa [walk, hfolder, hdot, hparent, hentry] using ih
    | file content executable => simpa [walk, hfolder, hdot, hparent, hentry] using ih
  | case8 links here step steps hfolder => simp [walk, hfolder]

/-- A dot asks for a folder, and so does every step. -/
theorem walk_dot_cons (links : Nat) (here : Address) (step : String) (steps : List String) :
    files.walk links here ("." :: step :: steps) = files.walk links here (step :: steps) := by
  rw [walk, if_pos rfl]
  by_cases hfolder : (files.entryAt? here).any FileEntry.isFolder
  · rw [if_pos hfolder]
  · rw [if_neg hfolder, walk, if_neg hfolder]

/-- Dots in front of a step lead nowhere. -/
theorem walk_without_dots (steps : List String) (step : String) (others : List String) :
    ∀ links here, files.walk links here (steps ++ step :: others)
      = files.walk links here (steps.filter (· ≠ ".") ++ step :: others) := by
  induction steps with
  | nil => exact fun _ _ => rfl
  | cons first steps ih =>
    intro links here
    by_cases hdot : first = "."
    · rw [hdot, List.filter_cons_of_neg (by simp), ← ih]
      cases steps with
      | nil => exact files.walk_dot_cons links here step others
      | cons second steps => exact files.walk_dot_cons links here second (steps ++ step :: others)
    · rw [List.filter_cons_of_pos (by simpa using hdot)]
      exact files.walk_append_congr ih links here [first]

/-- **What is found below a path does not depend on how the path is spelled.** -/
theorem resolve?_join_of_same {p q : Path} (h : p.same q = true) {x : Path}
    (habsolute : x.isAbsolute = false) (hx : x.text ≠ "") (hsteps : x.steps ≠ []) :
    files.resolve? (p.join x) = files.resolve? (q.join x) := by
  have hcomponents : p.components = q.components := of_decide_eq_true h
  have hstart : files.start (p.join x) = files.start (q.join x) := by
    have habs : p.isAbsolute = q.isAbsolute := by
      rw [Bool.eq_iff_iff, Path.isAbsolute_iff_of_components, Path.isAbsolute_iff_of_components,
        hcomponents]
    rw [start, start, Path.isAbsolute_join p x habsolute, Path.isAbsolute_join q x habsolute, habs]
  obtain ⟨step, others, hx'⟩ := List.exists_cons_of_ne_nil hsteps
  have hnames : ∀ r : Path, r.names.filter (· ≠ ".")
      = r.components.filterMap Path.Component.step? := by
    intro r
    rw [Path.names, List.filter_filter, ← Path.segments_eq_of_components]
    refine List.filter_congr fun segment _ => ?_
    simp [Path.isIdle, Bool.and_comm]
  have hne : ∀ r : Path, (r.join x).text ≠ "" := fun r =>
    r.text_join_ne_empty habsolute (.inr hx)
  rw [resolve?, resolve?, if_neg (hne p), if_neg (hne q), hstart, Path.steps_join p x habsolute hx,
    Path.steps_join q x habsolute hx, hx', files.walk_without_dots p.names,
    files.walk_without_dots q.names, hnames, hnames, hcomponents]

/-! ## Folders -/

/-- The folder that a path names. -/
def folder? (p : Path) : Option Address :=
  (files.resolve? p).filter fun there => (files.entryAt? there).any FileEntry.isFolder

theorem list?_eq_folder? (p : Path) : files.list? p = (files.folder? p).map files.childrenAt := by
  rw [list?, folder?]
  cases files.resolve? p with
  | none => rfl
  | some there =>
    rw [Option.filter_some]
    dsimp only
    split <;> rfl

theorem below_eq_folder? (p : Path) :
    files.below p = (files.folder? p).elim [] files.belowAt := by
  rw [below, folder?]
  cases files.resolve? p with
  | none => rfl
  | some there =>
    rw [Option.filter_some]
    dsimp only
    split <;> rfl

/-- A dot at the end asks for a folder. -/
theorem walk_concat_dot (links : Nat) (here : Address) (steps : List String) :
    files.walk links here (steps ++ ["."]) = (files.walk links here steps).filter fun there =>
      (files.entryAt? there).any FileEntry.isFolder := by
  induction links, here, steps using walk.induct files with
  | case1 links here =>
    rw [List.nil_append, walk, walk, walk, if_pos rfl, Option.filter_some]
  | case2 links here steps hfolder ih => simpa [walk, hfolder] using ih
  | case3 links here steps hfolder hdot ih => simpa [walk, hfolder] using ih
  | case4 links here step steps hfolder hdot hparent hentry =>
    simp [walk, hfolder, hdot, hparent, hentry]
  | case5 here step steps hfolder hdot hparent target hentry =>
    simp [walk, hfolder, hdot, hparent, hentry]
  | case6 here step steps hfolder hdot hparent target hentry links ih =>
    simpa [walk, hfolder, hdot, hparent, hentry] using ih
  | case7 links here step steps hfolder hdot hparent entry hlink hentry ih =>
    cases entry with
    | link target => exact absurd rfl (hlink target)
    | folder => simpa [walk, hfolder, hdot, hparent, hentry] using ih
    | file content executable => simpa [walk, hfolder, hdot, hparent, hentry] using ih
  | case8 links here step steps hfolder => simp [walk, hfolder]

/-- A walk to the folder that a path names ends in a dot. -/
theorem folder?_eq_walk {p : Path} (h : p.text ≠ "") :
    files.folder? p = files.walk maxLinks (files.start p) (p.names ++ ["."]) := by
  rw [folder?, resolve?, if_neg h, ← walk_concat_dot, Path.steps, ← Path.names]
  split
  · rw [List.append_assoc]
    exact files.walk_append_congr (fun links here => files.walk_dot_cons links here "." []) _ _ _
  · rw [List.append_nil]

/-- A dot behind a path asks for the folder that the path names. -/
theorem resolve?_join_dot {p : Path} (h : p.text ≠ "") :
    files.resolve? (p.join ⟨"."⟩) = files.folder? p := by
  have hdot : Path.steps ⟨"."⟩ = ["."] := by decide
  rw [files.folder?_eq_walk h, resolve?, if_neg (p.text_join_ne_empty rfl (.inl h)),
    p.steps_join _ rfl (by decide), hdot, start, start, p.isAbsolute_join _ rfl]

/-- **Which folder a path names does not depend on how the path is spelled.** -/
theorem folder?_of_same {p q : Path} (h : p.same q = true) : files.folder? p = files.folder? q := by
  have hcomponents : p.components = q.components := of_decide_eq_true h
  by_cases hp : p.text = ""
  · have hq : q.text = "" := by
      rw [← Path.components_eq_nil_iff, ← hcomponents, Path.components_eq_nil_iff, hp]
    rw [folder?, folder?, resolve?, resolve?, if_pos hp, if_pos hq]
  · have hq : q.text ≠ "" := by
      rw [Ne, ← Path.components_eq_nil_iff, ← hcomponents, Path.components_eq_nil_iff]
      exact hp
    rw [← files.resolve?_join_dot hp, ← files.resolve?_join_dot hq]
    exact files.resolve?_join_of_same h rfl (by decide) (by decide)

end Files

end MultiRelease
