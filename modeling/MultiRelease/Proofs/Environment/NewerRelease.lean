import MultiRelease.ClassFile.Stub
import MultiRelease.Proofs.Environment.FirstAnswer

/-!
# Lookups at a newer release

Two lookups of one type, at an older and at a newer release, ask different locations.  Still the
answer at the newer release is the one at the older release, unless it comes from a location that is
bound to a release in between (`Environment.find_at_newer`).  So a type that is found stays found at
newer releases, and its version never becomes older.

The two lookups may be made in different states of the classpath, as long as lookups led to both of
them from a common one (`Environment.Reaches`) and the files stayed as they were.  Lookups change
what is remembered, but nothing of what the locations show: asking one entry does not
(`Environment.shown_asked`), hence a lookup does not (`Environment.shown_findAt`, by induction on
the positions that it asks), and hence a run of lookups does not (`Environment.shown_of_reaches`, by
induction on the run).  The answers depend on nothing else (`Environment.Answers.transfer`).

The comparison itself is a tie that cannot be.  Suppose that the location that answers at the newer
release applies to the older one as well.  Then it answers there, and so does the location that the
older lookup prefers at the newer release.  Each of the two is preferred to the other in one of the
lookups, and preference is asymmetric, so they are the same (`Environment.find_eq_of_applies`).

A lookup at no release can be compared as well, but only if no location is the platform library of a
release: such an entry answers it with other classes than all lookups at a release
(`Environment.Settled`).
-/

set_option autoImplicit false

namespace MultiRelease

namespace Environment

variable {files : Files}

/-! ## What lookups leave alone -/

/-- What the locations of a classpath show. -/
def shown (files : Files) (environment : Environment) : List Location.Shown :=
  environment.locations.map (Location.shown files)

/-- One classpath with its sessions after any number of lookups, the files staying as they are. -/
inductive Reaches (files : Files) (start : Environment × Sessions) : Environment × Sessions → Prop
  | start : Reaches files start start
  | lookup {state : Environment × Sessions} (h : Reaches files start state) (query : Query)
      (constraint : ModuleConstraint) (release : Release) :
      Reaches files start (state.1.find files state.2 query constraint release).2

theorem getElem?_shown (environment : Environment) (position : Nat) :
    (environment.shown files)[position]?
      = environment.entries[position]?.map (·.location.shown files) := by
  rw [shown, locations, List.map_map, List.getElem?_map]
  rfl

theorem shown_asked (files : Files) {environment : Environment} (sessions : Sessions)
    {position : Nat} {entry : ClasspathEntry}
    (h : environment.entries[position]? = some entry) (query : Query)
    (constraint : ModuleConstraint) (release : Release) :
    (asked files query constraint release environment sessions position entry).1.shown files
      = environment.shown files := by
  refine List.ext_getElem? fun other => ?_
  rw [getElem?_shown, getElem?_shown]
  by_cases hother : position = other
  · obtain ⟨hlt, -⟩ := List.getElem?_eq_some_iff.1 h
    have hset : (asked files query constraint release environment sessions position
        entry).1.entries[position]? = some { entry with
          location := (entry.location.find files query constraint release
            (sessions.named entry.session)).2.1 } := List.getElem?_set_self hlt
    rw [← hother, hset, h, Option.map_some, Option.map_some, Location.shown_find]
  · have hset : (asked files query constraint release environment sessions position
        entry).1.entries[other]? = environment.entries[other]? := List.getElem?_set_ne hother
    rw [hset]

theorem shown_findAt (query : Query) (constraint : ModuleConstraint) (release : Release)
    (positions : List Nat) :
    ∀ (environment : Environment) (sessions : Sessions),
      (findAt files query constraint release positions environment sessions).2.1.shown files
        = environment.shown files := by
  induction positions with
  | nil => exact fun _ _ => rfl
  | cons position positions ih =>
    intro environment sessions
    cases hentry : environment.entries[position]? with
    | none =>
      rw [findAt, hentry]
      exact ih environment sessions
    | some entry =>
      have hasked := shown_asked files sessions hentry query constraint release
      rw [findAt_cons hentry]
      cases entry.answer files sessions query constraint release with
      | some answer => exact hasked
      | none => exact (ih _ _).trans hasked

theorem shown_of_reaches {start state : Environment × Sessions} (h : Reaches files start state) :
    state.1.shown files = start.1.shown files := by
  induction h with
  | start => rfl
  | lookup _ query constraint release ih =>
    exact (shown_findAt query constraint release _ _ _).trans ih

/-! ## Two lookups -/

/-- The lookups at a release, and all lookups if no location is the platform library of a release,
are answered with the own answers of the locations. -/
def Settled (environment : Environment) (release : Release) : Prop :=
  release.isVersioned = true ∨
    ∀ location ∈ environment.locations, location.isReleasePlatform = false

theorem Settled.of_shown {environment environment' : Environment}
    (hshown : environment.shown files = environment'.shown files) {release : Release}
    (h : environment.Settled release) : environment'.Settled release := by
  refine h.imp id fun h location hlocation => ?_
  have hmem := List.mem_map_of_mem (f := Location.shown files) hlocation
  rw [← shown, ← hshown, shown, List.mem_map] at hmem
  obtain ⟨other, hother, heq⟩ := hmem
  exact (congrArg Location.Shown.isReleasePlatform heq).symm.trans (h other hother)

/-- In a settled lookup an entry answers with its own answer. -/
theorem Answers.ownAnswer {environment : Environment} {sessions : Sessions} {query : Query}
    {constraint : ModuleConstraint} {release : Release} {position : Nat} {entry : ClasspathEntry}
    {answer : Answer}
    (h : Answers environment files sessions query constraint release position entry answer)
    (hsettled : environment.Settled release) :
    entry.location.ownAnswer files query constraint = some answer := by
  have hmem : entry.location ∈ environment.locations :=
    List.mem_map_of_mem (List.mem_of_getElem? h.found)
  have hanswers := h.answers
  rw [ClasspathEntry.answer, Location.find_eq_ownAnswer _ _ _ _ _
    (hsettled.imp id (· entry.location hmem)), if_pos h.applies] at hanswers
  exact hanswers

/-- **An answer carries over** to every state that shows the same, and to every release that its
location applies to. -/
theorem Answers.transfer {environment environment' : Environment} {sessions : Sessions}
    {query : Query} {constraint : ModuleConstraint} {release release' : Release} {position : Nat}
    {entry : ClasspathEntry} {answer : Answer}
    (h : Answers environment files sessions query constraint release position entry answer)
    (hshown : environment.shown files = environment'.shown files)
    (hsettled : environment.Settled release) (hsettled' : environment.Settled release')
    (happlies : entry.location.release.appliesTo release' = true) (sessions' : Sessions) :
    ∃ entry', entry'.location.release = entry.location.release ∧
      Answers environment' files sessions' query constraint release' position entry' answer := by
  have hown := h.ownAnswer hsettled
  have hposition : (environment.shown files)[position]? = (environment'.shown files)[position]? :=
    congrArg (·[position]?) hshown
  rw [getElem?_shown, getElem?_shown, h.found, Option.map_some, eq_comm,
    Option.map_eq_some_iff] at hposition
  obtain ⟨entry', hfound', heq⟩ := hposition
  have hrelease : entry'.location.release = entry.location.release :=
    congrArg Location.Shown.release heq
  have hown' : entry'.location.ownAnswer files query constraint = some answer :=
    (congrFun (congrFun (congrArg Location.Shown.answer heq) query) constraint).trans hown
  have hmem : entry'.location ∈ environment'.locations :=
    List.mem_map_of_mem (List.mem_of_getElem? hfound')
  refine ⟨entry', hrelease, hfound', hrelease ▸ happlies, ?_⟩
  rw [ClasspathEntry.answer, Location.find_eq_ownAnswer _ _ _ _ _
    ((hsettled'.of_shown hshown).imp id (· entry'.location hmem)), hrelease, if_pos happlies, hown']

theorem Answers.unique {environment : Environment} {sessions : Sessions} {query : Query}
    {constraint : ModuleConstraint} {release : Release} {position : Nat}
    {entry entry' : ClasspathEntry} {answer answer' : Answer}
    (h : Answers environment files sessions query constraint release position entry answer)
    (h' : Answers environment files sessions query constraint release position entry' answer') :
    answer = answer' := by
  obtain rfl : entry = entry' := Option.some_inj.1 (h.found.symm.trans h'.found)
  exact Option.some_inj.1 (h.answers.symm.trans h'.answers)

theorem Preferred.asymm {a b : Release × Nat} (hab : Preferred a b) (hba : Preferred b a) :
    False := by
  have hrelease := Release.precedes_antisymm hba.1 hab.1
  exact Nat.lt_asymm (hab.2 hrelease.symm) (hba.2 hrelease)

section

variable {older newer : Environment × Sessions} {query : Query} {constraint : ModuleConstraint}
  {before : Release} {number : UInt16}

/-- An answer at the newer release from a location that applies to the older one as well is the
answer at the older release. -/
theorem find_eq_of_applies (hshown : older.1.shown files = newer.1.shown files)
    (hle : before ≤ .java number) (hsettled : older.1.Settled before) {position : Nat}
    {entry : ClasspathEntry} {answer : Answer}
    (h : Answers newer.1 files newer.2 query constraint (.java number) position entry answer)
    (hpreferred : ∀ position' entry' answer',
      Answers newer.1 files newer.2 query constraint (.java number) position' entry' answer' →
        position' = position ∨
          Preferred (entry.location.release, position) (entry'.location.release, position'))
    (happlies : entry.location.release.appliesTo before = true) :
    (older.1.find files older.2 query constraint before).1 = some answer := by
  obtain ⟨entry₁, hrelease₁, hanswers₁⟩ := h.transfer hshown.symm (.inl rfl)
    (hsettled.of_shown hshown) happlies older.2
  cases hfind : (older.1.find files older.2 query constraint before).1 with
  | none => exact absurd hanswers₁ (find_eq_none_iff.1 hfind _ _ _)
  | some other =>
    obtain ⟨position₂, entry₂, hanswers₂, hpreferred₂⟩ := preferred_of_find_eq_some hfind
    obtain ⟨entry₃, hrelease₃, hanswers₃⟩ := hanswers₂.transfer hshown hsettled (.inl rfl)
      (Release.appliesTo_of_le hle hanswers₂.applies) newer.2
    -- each is preferred to the other in one of the lookups, so both are at one position
    rcases hpreferred _ _ _ hanswers₃ with rfl | hbefore
    · rw [h.unique hanswers₃]
    · rcases hpreferred₂ _ _ _ hanswers₁ with rfl | hbefore'
      · rw [h.unique hanswers₃]
      · rw [hrelease₁] at hbefore'
        rw [hrelease₃] at hbefore
        exact (hbefore.asymm hbefore').elim

end

/-- **What a newer release changes.**  Between a lookup at an older release, or at none, and one at
a newer release, the answer only changes to one from a location that is bound to a release in
between.  So what is found at the older release is found at the newer one, and never in an older
version.  A lookup at no release is comparable if no location is the platform library of a
release. -/
theorem find_at_newer {start older newer : Environment × Sessions}
    (holder : Reaches files start older) (hnewer : Reaches files start newer) (query : Query)
    (constraint : ModuleConstraint) {before : Release} {number : UInt16}
    (hle : before ≤ .java number)
    (hcomparable : before.isVersioned = true ∨
      ∀ location ∈ start.1.locations, location.isReleasePlatform = false) :
    ((∃ position entry answer n,
        (newer.1.find files newer.2 query constraint (.java number)).1 = some answer ∧
        Answers newer.1 files newer.2 query constraint (.java number) position entry answer ∧
        entry.location.release = .java n ∧ before.IsBefore n ∧ n ≤ number) ∨
      (newer.1.find files newer.2 query constraint (.java number)).1
        = (older.1.find files older.2 query constraint before).1) ∧
    ∀ answer, (older.1.find files older.2 query constraint before).1 = some answer →
      ∃ answer', (newer.1.find files newer.2 query constraint (.java number)).1 = some answer' ∧
        answer.release ≤ answer'.release := by
  have hshown := (shown_of_reaches holder).trans (shown_of_reaches hnewer).symm
  have hsettled : older.1.Settled before :=
    Settled.of_shown (shown_of_reaches holder).symm hcomparable
  cases hfind : (newer.1.find files newer.2 query constraint (.java number)).1 with
  | none =>
    have hnone : (older.1.find files older.2 query constraint before).1 = none := by
      refine find_eq_none_iff.2 fun position entry answer hanswers => ?_
      obtain ⟨entry', -, hanswers'⟩ := hanswers.transfer hshown hsettled (.inl rfl)
        (Release.appliesTo_of_le hle hanswers.applies) newer.2
      exact find_eq_none_iff.1 hfind _ _ _ hanswers'
    exact ⟨.inr hnone.symm, fun answer h => absurd (hnone.symm.trans h) (by simp)⟩
  | some answer =>
    obtain ⟨position, entry, hanswers, hpreferred⟩ := preferred_of_find_eq_some hfind
    by_cases happlies : entry.location.release.appliesTo before = true
    · have hsame := find_eq_of_applies hshown hle hsettled hanswers hpreferred happlies
      refine ⟨.inr hsame.symm, fun other hother => ⟨answer, rfl, ?_⟩⟩
      rw [Option.some_inj.1 (hother.symm.trans hsame)]
      exact Release.precedes_refl _
    · -- the location is bound to a release that the older lookup does not see
      cases hbound : entry.location.release with
      | unversioned => exact absurd (by rw [hbound]; rfl) happlies
      | java n =>
        have hn := hanswers.applies
        rw [hbound] at hn
        have hbefore : before.IsBefore n := by
          rw [hbound, Bool.not_eq_true] at happlies
          exact Release.isBefore_of_not_applies happlies
        refine ⟨.inl ⟨position, entry, answer, n, rfl, hanswers, hbound, hbefore,
          of_decide_eq_true hn⟩, ?_⟩
        intro other hother
        obtain ⟨_, entry', hanswers', -⟩ := preferred_of_find_eq_some hother
        refine ⟨answer, rfl, ?_⟩
        rw [release_answer hanswers.answers, hbound,
          Location.release_ownAnswer (hanswers'.ownAnswer hsettled)]
        exact Release.le_of_applies_of_isBefore hanswers'.applies hbefore

/-- A folder with a type, and one with the version of it for release 11. -/
def sampleFiles : Files where
  entries := [(["base"], .folder),
    (["base", "T.class"], .file (.ofBytes (Stub.encode { name := "T" })) false),
    (["eleven"], .folder),
    (["eleven", "T.class"], .file (.ofBytes (Stub.encode { name := "T" })) false)]

/-- The classpath of the two folders. -/
def sampleClasspath : Environment × Sessions :=
  (⟨[⟨.classFolder { root := ⟨"base"⟩ }, ""⟩,
    ⟨.classFolder { root := ⟨"eleven"⟩, release := .java 11 }, ""⟩]⟩, {})

/-- The classpath after a lookup at release 17. -/
def sampleClasspathUsed : Environment × Sessions :=
  (sampleClasspath.1.find sampleFiles sampleClasspath.2 (.inPackage "T" []) .any (.java 17)).2

theorem find_at_newer_sample :
    Reaches sampleFiles sampleClasspath sampleClasspath ∧
      Reaches sampleFiles sampleClasspath sampleClasspathUsed ∧
      Release.java 9 ≤ .java 17 ∧
      ∀ answer, (sampleClasspath.1.find sampleFiles sampleClasspath.2 (.inPackage "T" []) .any
          (.java 9)).1 = some answer →
        ∃ answer', (sampleClasspathUsed.1.find sampleFiles sampleClasspathUsed.2
          (.inPackage "T" []) .any (.java 17)).1 = some answer' ∧
            answer.release ≤ answer'.release :=
  ⟨.start, .lookup .start _ _ _, by decide,
    (find_at_newer .start (.lookup .start _ _ _) (.inPackage "T" []) .any (by decide)
      (.inl rfl)).2⟩

end Environment

end MultiRelease
