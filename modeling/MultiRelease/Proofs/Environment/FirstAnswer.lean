import MultiRelease.Proofs.Environment.Order
import MultiRelease.Proofs.Location.OwnAnswer

/-!
# The answer of a classpath

A lookup asks one location after the other until one answers, and each may leave its own session and
itself changed.  `Environment.findAt_eq_findSome?` says that this does not matter: the answer is the
first that the locations give when each is asked in the state *before* the lookup.  The induction is
on the positions that are still to be asked, and its invariant is `Environment.Undisturbed`: at
these positions stand the same locations as before, and their sessions give the same archives.
Every location is asked once, so what is changed lies behind, and what the locations asked before it
did to its session does not show.

With the order of the locations this determines which location it is whose answer counts.
`Environment.Answers` says that an entry applies to the release of a lookup and answers it, and
`Environment.Preferred` compares two such entries.

* `Environment.answeringPosition?`: the position whose answer counts, if there is one.  It is
  preferred to all others with an answer (`Environment.preferred_of_answeringPosition?`).
* `Environment.find_spec`: there is no answer if no location answers that applies to the release,
  and otherwise it is that of the preferred one among those that do.
* `Environment.release_answer`: an answer at a release is marked with what its location is bound to,
  and this is never newer than the release of the lookup.

None of this needs an assumption about the files, the locations or the state that they are in.
-/

set_option autoImplicit false

namespace MultiRelease

/-- What an entry answers when it is asked. -/
def ClasspathEntry.answer (entry : ClasspathEntry) (files : Files) (sessions : Sessions)
    (query : Query) (constraint : ModuleConstraint) (release : Release) : Option Answer :=
  (entry.location.find files query constraint release (sessions.named entry.session)).1

namespace Environment

section

variable (files : Files) (query : Query) (constraint : ModuleConstraint) (release : Release)

/-- What the entry at a position answers when it is asked. -/
def answerAt (environment : Environment) (sessions : Sessions) (position : Nat) : Option Answer :=
  environment.entries[position]?.bind (·.answer files sessions query constraint release)

/-- The classpath and the sessions after the entry at a position was asked. -/
def asked (environment : Environment) (sessions : Sessions) (position : Nat)
    (entry : ClasspathEntry) : Environment × Sessions :=
  let (_, location, session) := entry.location.find files query constraint release
    (sessions.named entry.session)
  (⟨environment.entries.set position { entry with location }⟩,
    sessions.keep entry.session session)

/-- The positions at which nothing has changed that an answer depends on. -/
structure Undisturbed (environment environment' : Environment) (sessions sessions' : Sessions)
    (positions : List Nat) : Prop where
  entries : ∀ position ∈ positions, environment'.entries[position]? = environment.entries[position]?
  sessions : ∀ name, (sessions'.named name).SameArchives files (sessions.named name)

end

variable {files : Files} {query : Query} {constraint : ModuleConstraint} {release : Release}

theorem Undisturbed.answerAt_eq {environment environment' : Environment}
    {sessions sessions' : Sessions} {positions : List Nat}
    (h : Undisturbed files environment environment' sessions sessions' positions) {position : Nat}
    (hposition : position ∈ positions) :
    environment'.answerAt files query constraint release sessions' position
      = environment.answerAt files query constraint release sessions position := by
  rw [answerAt, answerAt, h.entries position hposition]
  cases environment.entries[position]? with
  | none => rfl
  | some entry =>
    exact entry.location.find_congr (h.sessions entry.session) query constraint release

theorem findAt_cons {environment : Environment} {sessions : Sessions} {position : Nat}
    {entry : ClasspathEntry} (h : environment.entries[position]? = some entry)
    (positions : List Nat) :
    findAt files query constraint release (position :: positions) environment sessions
      = match entry.answer files sessions query constraint release with
        | some answer =>
          (some answer, asked files query constraint release environment sessions position entry)
        | none =>
          findAt files query constraint release positions
            (asked files query constraint release environment sessions position entry).1
            (asked files query constraint release environment sessions position entry).2 := by
  rw [findAt, h]
  rfl

/-- Asking one entry disturbs no other position. -/
theorem undisturbed_asked {environment : Environment} {sessions : Sessions} {position : Nat}
    {entry : ClasspathEntry} {positions : List Nat} (h : position ∉ positions) :
    Undisturbed files environment
      (asked files query constraint release environment sessions position entry).1 sessions
      (asked files query constraint release environment sessions position entry).2 positions where
  entries other hother := by
    have hne : position ≠ other := by
      rintro rfl
      exact h hother
    exact List.getElem?_set_ne hne
  sessions name := by
    show ((sessions.keep entry.session _).named name).SameArchives files _
    by_cases hname : name = entry.session
    · rw [Sessions.named, Sessions.keep, hname, NameMap.get?_insert_self]
      exact entry.location.sameArchives_find _ query constraint release
    · rw [Sessions.named, Sessions.keep, NameMap.get?_insert_of_ne hname]
      exact .refl _

theorem findSome?_congr {α β : Type} {f g : α → Option β} :
    ∀ {list : List α}, (∀ a ∈ list, f a = g a) → list.findSome? f = list.findSome? g
  | [], _ => rfl
  | a :: list, h => by
    rw [List.findSome?_cons, List.findSome?_cons, h a List.mem_cons_self,
      findSome?_congr fun b hb => h b (List.mem_cons_of_mem a hb)]

/-- **The answer is the first that the locations give, asked in the state before the lookup.** -/
theorem findAt_eq_findSome? (positions : List Nat) :
    ∀ (environment : Environment) (sessions : Sessions), positions.Nodup →
      (findAt files query constraint release positions environment sessions).1
        = positions.findSome? (environment.answerAt files query constraint release sessions) := by
  induction positions with
  | nil => exact fun _ _ _ => rfl
  | cons position positions ih =>
    intro environment sessions hnodup
    obtain ⟨hfresh, hnodup⟩ := List.nodup_cons.1 hnodup
    rw [List.findSome?_cons, answerAt]
    cases hentry : environment.entries[position]? with
    | none =>
      rw [findAt, hentry]
      exact ih environment sessions hnodup
    | some entry =>
      rw [findAt_cons hentry, Option.bind_some]
      cases entry.answer files sessions query constraint release with
      | some answer => rfl
      | none =>
        dsimp only
        rw [ih _ _ hnodup]
        exact findSome?_congr fun other hother =>
          (undisturbed_asked hfresh).answerAt_eq hother

theorem find_eq_findSome? (environment : Environment) (sessions : Sessions) :
    (environment.find files sessions query constraint release).1
      = (resolutionOrder (environment.locations.map Location.release) release).findSome?
          (environment.answerAt files query constraint release sessions) :=
  findAt_eq_findSome? _ environment sessions (nodup_resolutionOrder _ release)

/-! ## The preferred answer -/

/-- The entry at a position applies to the release of the lookup, and answers. -/
structure Answers (environment : Environment) (files : Files) (sessions : Sessions)
    (query : Query) (constraint : ModuleConstraint) (release : Release) (position : Nat)
    (entry : ClasspathEntry) (answer : Answer) : Prop where
  found : environment.entries[position]? = some entry
  applies : entry.location.release.appliesTo release = true
  answers : entry.answer files sessions query constraint release = some answer

theorem getElem?_releases (environment : Environment) (position : Nat) :
    (environment.locations.map Location.release)[position]?
      = environment.entries[position]?.map (·.location.release) := by
  rw [locations, List.map_map, List.getElem?_map]
  rfl

/-- The positions that a lookup asks are those at which something applies to its release. -/
theorem mem_resolutionOrder {environment : Environment} {position : Nat} :
    position ∈ resolutionOrder (environment.locations.map Location.release) release
      ↔ ∃ entry, environment.entries[position]? = some entry ∧
          entry.location.release.appliesTo release = true := by
  rw [map_resolutionPairs, List.mem_map]
  constructor
  · rintro ⟨⟨bound, position⟩, hpair, rfl⟩
    obtain ⟨hbound, happlies⟩ := mem_resolutionPairs.1 hpair
    rw [getElem?_releases, Option.map_eq_some_iff] at hbound
    obtain ⟨entry, hentry, rfl⟩ := hbound
    exact ⟨entry, hentry, happlies⟩
  · rintro ⟨entry, hentry, happlies⟩
    refine ⟨(entry.location.release, position), mem_resolutionPairs.2 ⟨?_, happlies⟩, rfl⟩
    rw [getElem?_releases, hentry]
    rfl

/-- Of two positions that a lookup asks, the one that it asks first is preferred. -/
theorem pairwise_resolutionOrder (environment : Environment) (release : Release) :
    (resolutionOrder (environment.locations.map Location.release) release).Pairwise
      fun i j => ∀ a b, environment.entries[i]? = some a → environment.entries[j]? = some b →
        Preferred (a.location.release, i) (b.location.release, j) := by
  rw [map_resolutionPairs, List.pairwise_map]
  refine (pairwise_resolutionPairs _ release).imp_of_mem fun {p q} hp hq hpq a b ha hb => ?_
  have hbound : ∀ {pair : Release × Nat} {entry : ClasspathEntry},
      pair ∈ resolutionPairs (environment.locations.map Location.release) release →
      environment.entries[pair.2]? = some entry → (entry.location.release, pair.2) = pair := by
    rintro ⟨bound, position⟩ entry hpair hentry
    have hbound := (mem_resolutionPairs.1 hpair).1
    rw [getElem?_releases, hentry, Option.map_some, Option.some_inj] at hbound
    rw [← hbound]
  rw [hbound hp ha, hbound hq hb]
  exact hpq

/-- An answer at a release is marked with what its location is bound to. -/
theorem release_answer {entry : ClasspathEntry} {sessions : Sessions} {number : UInt16}
    {answer : Answer}
    (h : entry.answer files sessions query constraint (.java number) = some answer) :
    answer.release = entry.location.release := by
  rw [ClasspathEntry.answer, Location.find_eq_ownAnswer _ _ _ _ _ (.inl rfl)] at h
  split at h
  · exact Location.release_ownAnswer h
  · cases h

/-- The answers that count are those at the positions that a lookup asks. -/
theorem answers_iff {environment : Environment} {sessions : Sessions} {position : Nat}
    {entry : ClasspathEntry} {answer : Answer} :
    Answers environment files sessions query constraint release position entry answer ↔
      position ∈ resolutionOrder (environment.locations.map Location.release) release ∧
        environment.entries[position]? = some entry ∧
        environment.answerAt files query constraint release sessions position = some answer := by
  constructor
  · rintro ⟨hfound, happlies, hanswers⟩
    refine ⟨mem_resolutionOrder.2 ⟨entry, hfound, happlies⟩, hfound, ?_⟩
    rw [answerAt, hfound]
    exact hanswers
  · rintro ⟨hmem, hfound, hanswers⟩
    obtain ⟨other, hother, happlies⟩ := mem_resolutionOrder.1 hmem
    obtain rfl : entry = other := Option.some_inj.1 (hfound.symm.trans hother)
    rw [answerAt, hfound] at hanswers
    exact ⟨hfound, happlies, hanswers⟩

theorem find_eq_none_iff {environment : Environment} {sessions : Sessions} :
    (environment.find files sessions query constraint release).1 = none ↔
      ∀ position entry answer,
        ¬ Answers environment files sessions query constraint release position entry answer := by
  rw [find_eq_findSome?, List.findSome?_eq_none_iff]
  constructor
  · intro h position entry answer hanswers
    obtain ⟨hmem, -, hanswer⟩ := answers_iff.1 hanswers
    exact absurd (hanswer.symm.trans (h position hmem)) (by simp)
  · intro h position hmem
    obtain ⟨entry, hfound, -⟩ := mem_resolutionOrder.1 hmem
    exact Option.eq_none_iff_forall_ne_some.2 fun answer hanswer =>
      h position entry answer (answers_iff.2 ⟨hmem, hfound, hanswer⟩)

section

variable (environment : Environment) (files : Files) (sessions : Sessions) (query : Query)
  (constraint : ModuleConstraint) (release : Release)

/-- The position of the location whose answer a lookup gives. -/
def answeringPosition? : Option Nat :=
  (resolutionOrder (environment.locations.map Location.release) release).find? fun position =>
    (environment.answerAt files query constraint release sessions position).isSome

theorem find_eq_bind : (environment.find files sessions query constraint release).1
    = (environment.answeringPosition? files sessions query constraint release).bind
        (environment.answerAt files query constraint release sessions) := by
  rw [find_eq_findSome?, answeringPosition?]
  induction resolutionOrder (environment.locations.map Location.release) release with
  | nil => rfl
  | cons position positions ih =>
    rw [List.findSome?_cons, List.find?_cons, ih]
    cases hanswer : environment.answerAt files query constraint release sessions position with
    | none => rfl
    | some answer => exact hanswer.symm

end

/-- The position that answers is preferred to all others at which there is an answer. -/
theorem preferred_of_answeringPosition? {environment : Environment} {sessions : Sessions}
    {position : Nat}
    (h : environment.answeringPosition? files sessions query constraint release = some position) :
    ∃ entry answer,
      Answers environment files sessions query constraint release position entry answer ∧
      ∀ position' entry' answer',
        Answers environment files sessions query constraint release position' entry' answer' →
          position' = position ∨
            Preferred (entry.location.release, position) (entry'.location.release, position') := by
  obtain ⟨hanswer, front, back, horder, hfront⟩ := List.find?_eq_some_iff_append.1 h
  obtain ⟨answer, hanswer⟩ := Option.isSome_iff_exists.1 hanswer
  have hmem : position ∈ resolutionOrder (environment.locations.map Location.release) release := by
    simp [horder]
  obtain ⟨entry, hfound, -⟩ := mem_resolutionOrder.1 hmem
  refine ⟨entry, answer, answers_iff.2 ⟨hmem, hfound, hanswer⟩, ?_⟩
  intro position' entry' answer' hanswers'
  obtain ⟨hmem', hfound', hanswer'⟩ := answers_iff.1 hanswers'
  have hpairwise := pairwise_resolutionOrder environment release
  rw [horder] at hmem' hpairwise
  rcases List.mem_append.1 hmem' with hmem' | hmem'
  · have hnone := hfront position' hmem'
    simp [hanswer'] at hnone
  · rcases List.mem_cons.1 hmem' with rfl | hmem'
    · exact .inl rfl
    · have hback := (List.pairwise_cons.1 (List.pairwise_append.1 hpairwise).2.1).1
      exact .inr (hback position' hmem' entry entry' hfound hfound')

/-- The answer is that of the preferred location among those that answer. -/
theorem preferred_of_find_eq_some {environment : Environment} {sessions : Sessions}
    {answer : Answer}
    (h : (environment.find files sessions query constraint release).1 = some answer) :
    ∃ position entry,
      Answers environment files sessions query constraint release position entry answer ∧
      ∀ position' entry' answer',
        Answers environment files sessions query constraint release position' entry' answer' →
          position' = position ∨
            Preferred (entry.location.release, position) (entry'.location.release, position') := by
  rw [find_eq_bind, Option.bind_eq_some_iff] at h
  obtain ⟨position, hposition, hanswer⟩ := h
  obtain ⟨entry, other, hanswers, hpreferred⟩ := preferred_of_answeringPosition? hposition
  obtain rfl : other = answer :=
    Option.some_inj.1 ((answers_iff.1 hanswers).2.2.symm.trans hanswer)
  exact ⟨position, entry, hanswers, hpreferred⟩

variable (environment : Environment) (files : Files) (sessions : Sessions) (query : Query)
  (constraint : ModuleConstraint) (release : Release)

/-- **What a classpath answers.**  There is no answer if no location answers that applies to the
release of the lookup.  Otherwise the answer is that of the location, among those, which is bound to
the newest release, and of the first in the order of the classpath among equals.  A lookup at a
release is answered with what its location is bound to, which is never newer than the release. -/
theorem find_spec :
    ((environment.find files sessions query constraint release).1 = none ↔
      ∀ position entry answer,
        ¬ Answers environment files sessions query constraint release position entry answer) ∧
    ∀ answer, (environment.find files sessions query constraint release).1 = some answer →
      ∃ position entry,
        Answers environment files sessions query constraint release position entry answer ∧
        (∀ position' entry' answer',
          Answers environment files sessions query constraint release position' entry' answer' →
            entry'.location.release ≤ entry.location.release ∧
              (entry'.location.release = entry.location.release → position ≤ position')) ∧
        ∀ number, release = .java number →
          answer.release = entry.location.release ∧
            (answer.release = .unversioned ∨ ∃ n, n ≤ number ∧ answer.release = .java n) := by
  refine ⟨find_eq_none_iff, fun answer h => ?_⟩
  obtain ⟨position, entry, hanswers, hpreferred⟩ := preferred_of_find_eq_some h
  refine ⟨position, entry, hanswers, fun position' entry' answer' hanswers' => ?_, ?_⟩
  · rcases hpreferred position' entry' answer' hanswers' with rfl | hbefore
    · obtain rfl : entry = entry' := Option.some_inj.1 (hanswers.found.symm.trans hanswers'.found)
      exact ⟨Release.precedes_refl _, fun _ => Nat.le_refl _⟩
    · exact ⟨hbefore.1, fun heq => Nat.le_of_lt (hbefore.2 heq)⟩
  · rintro number rfl
    have hrelease := release_answer hanswers.answers
    exact ⟨hrelease, hrelease ▸ Release.bound_of_appliesTo hanswers.applies⟩

end Environment

end MultiRelease
