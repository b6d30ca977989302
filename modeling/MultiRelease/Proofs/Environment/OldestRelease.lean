import MultiRelease.Proofs.Environment.AskedModule
import MultiRelease.Proofs.Environment.NewerRelease
import MultiRelease.Proofs.Platform.AcceptedModules

/-!
# Lookups at no release and at the oldest one

If no location is bound to the oldest release or to an older one, then a lookup at no release and
one at the oldest release ask the same locations in the same order
(`Environment.resolutionOrder_of_newer`, `Environment.AllNewer.resolutionOrder_eq`).  Most locations
answer both alike (`Location.find_unversioned_eq`).  The exception is the platform library of a
release: it answers the former with the classes of its own release and the latter with those of the
runtime image, and only where the release is served from the image are these the same
(`ReleaseLibrary.find_unversioned_of_running`).

So the two lookups have the same result, or they *part* at the platform library of a release
(`Environment.PartsAt`).  Both search one list of positions, and two searches through one list part
at its first element that they answer differently, if at all (`findSome?_eq_or_part`).  That element
is the platform library of a release, since nothing else tells the lookups apart.

* `Environment.find_at_oldest`: the results are the same or the lookups part.  Where they part and
  the library has the type in its own release, the result at no release is what the library has.  It
  is marked with the release of the library, and no answer to the lookup at the oldest release is
  marked with any, so the results differ.
* `Environment.exists_found_at_oldest`: a type that is only found at the oldest release.

That an answer is marked with the release of the library is said in two steps.  What comes from the
symbol archive is marked with the release of the classes (`ReleaseClasses.release_of_loadSymbols`),
and all else comes from the image, as at the oldest release (`ReleaseLibrary.release_or_find_eq`).
The classes that an entry has set up are for its own release by construction
(`ReleaseLibrary.release_releaseClasses`).
-/

set_option autoImplicit false

namespace MultiRelease

variable {files : Files} {session : Session} {query : Query} {constraint : ModuleConstraint}

/-- Two searches through a list find the same, or they part at an element: neither has found
anything before it. -/
theorem findSome?_eq_or_part {α β : Type} (f g : α → Option β) (list : List α) :
    list.findSome? f = list.findSome? g ∨
      ∃ front a back, list = front ++ a :: back ∧ (∀ b ∈ front, f b = none ∧ g b = none) ∧
        f a ≠ g a := by
  induction list with
  | nil => exact .inl rfl
  | cons a list ih =>
    by_cases heq : f a = g a
    · rw [List.findSome?_cons, List.findSome?_cons, heq]
      cases hg : g a with
      | some b => exact .inl rfl
      | none =>
        refine ih.imp id ?_
        rintro ⟨front, b, back, rfl, hfront, hne⟩
        refine ⟨a :: front, b, back, rfl, ?_, hne⟩
        exact List.forall_mem_cons.2 ⟨⟨heq.trans hg, hg⟩, hfront⟩
    · exact .inr ⟨[], a, list, rfl, by simp, heq⟩

/-! ## Locations -/

/-- The release of a lookup does not matter to a location that is bound to none, the platform
library of a release excepted. -/
theorem Location.find_unversioned_eq {location : Location}
    (hrelease : location.release = .unversioned) (hkind : location.isReleasePlatform = false)
    (release : Release) :
    (location.find files query constraint .unversioned session).1
      = (location.find files query constraint release session).1 := by
  rw [find_eq_ownAnswer _ _ _ _ _ (.inr hkind), find_eq_ownAnswer _ _ _ _ _ (.inr hkind), hrelease]
  rfl

/-- What is found in the symbol archive is marked with the release. -/
theorem ReleaseClasses.release_of_loadSymbols {classes : ReleaseClasses}
    {library : PlatformLibrary} {archive : SymbolArchive} {code : Char} {name : String}
    {module : Option String} {answer : Answer}
    (h : (classes.loadSymbols library files session archive code name module).1.toOption.join
      = some answer) : answer.release = .java classes.release := by
  rw [loadSymbols_fst] at h
  split at h
  · cases h
  · split at h
    · cases h
    · split at h
      · cases h
      · rw [← Option.some_inj.1 h]
        rfl

namespace ReleaseLibrary

variable {entry : ReleaseLibrary}

/-- What an entry finds in the classes of its release. -/
theorem find_unversioned_fst (entry : ReleaseLibrary) (session : Session) (query : Query)
    (constraint : ModuleConstraint) :
    (entry.find files session query constraint .unversioned).1
      = ((entry.releaseClasses files session).1.loadType
          (entry.releaseClasses files session).2.1.library files
          (entry.releaseClasses files session).2.2 query.qualifiedBinaryFileName constraint.name?
          fun _ => true).1.toOption.join := by
  rw [find_unversioned]
  rfl

/-- What the image gives to an entry that has set its classes up is what it gave before. -/
theorem join_loadType_eq (entry : ReleaseLibrary) (session : Session) (query : Query)
    (constraint : ModuleConstraint) :
    ((entry.releaseClasses files session).2.1.library.loadType files
        (entry.releaseClasses files session).2.2 query.qualifiedBinaryFileName constraint.name?
        fun _ => true).1.toOption.join
      = (entry.library.find files session query constraint).1 := by
  rw [PlatformLibrary.find_fst,
    PlatformLibrary.loadType_congr (entry.releaseClasses_preserves files session).1 _ session]

/-- An entry whose release is served from the runtime image answers from the image. -/
theorem find_unversioned_of_running
    (h : (entry.releaseClasses files session).1.ServedAs files .running) :
    (entry.find files session query constraint .unversioned).1
      = (entry.library.find files session query constraint).1 := by
  rw [find_unversioned_fst, h, join_loadType_eq]

/-- What an entry has from the symbol archive is marked with its release, and all else is what the
image has. -/
theorem release_or_find_eq {answer : Answer}
    (h : (entry.find files session query constraint .unversioned).1 = some answer) :
    answer.release = .java entry.number ∨
      (entry.find files session query constraint .unversioned).1
        = (entry.library.find files session query constraint).1 := by
  rw [find_unversioned_fst, ReleaseClasses.loadType] at h ⊢
  split at h
  · cases h
  · exact .inr (entry.join_loadType_eq session query constraint)
  · split at h
    · rename_i hroots
      rw [if_pos hroots]
      exact .inr (entry.join_loadType_eq session query constraint)
    · left
      rw [ReleaseClasses.release_of_loadSymbols h, release_releaseClasses]

end ReleaseLibrary

/-! ## Classpaths -/

namespace Environment

/-- Locations that are bound to a newer release than that of a lookup are not asked. -/
theorem resolutionOrder_of_newer {releases : List Release} {requested : Release}
    (h : ∀ release ∈ releases, release.isVersioned = true → release.appliesTo requested = false) :
    resolutionOrder releases requested = resolutionOrder releases .unversioned := by
  have horder : ∀ requested', (∀ release ∈ releases, release.isVersioned = true →
      release.appliesTo requested' = false) → resolutionOrder releases requested'
        = (releases.zipIdx.filter fun pair => !pair.1.isVersioned).map (·.2) := by
    intro requested' hnewer
    have hversioned : (releases.zipIdx.filter fun pair =>
        pair.1.isVersioned && pair.1.appliesTo requested') = [] := by
      refine List.filter_eq_nil_iff.2 fun pair hmem => ?_
      have hrelease := List.fst_mem_of_mem_zipIdx hmem
      cases hbound : pair.1.isVersioned with
      | false => simp
      | true => simp [hnewer pair.1 hrelease hbound]
    have hsorted : resolutionOrder releases requested'
        = ((releases.zipIdx.filter fun pair =>
            pair.1.isVersioned && pair.1.appliesTo requested').mergeSort newestFirst ++
          releases.zipIdx.filter fun pair => !pair.1.isVersioned).map (·.2) := rfl
    rw [hsorted, hversioned, List.mergeSort_nil, List.nil_append]
  have hunversioned : ∀ release ∈ releases, release.isVersioned = true →
      release.appliesTo .unversioned = false := by
    intro release _ hbound
    cases release with
    | unversioned => cases hbound
    | java number => rfl
  exact (horder requested h).trans (horder .unversioned hunversioned).symm

/-- The lookups at no release and at the oldest one part at an entry: they reach it, no location
before it having answered either, it is the platform library of a release that is not served from
the runtime image, and it answers them differently. -/
structure PartsAt (environment : Environment) (files : Files) (sessions : Sessions) (query : Query)
    (constraint : ModuleConstraint) (position : Nat) (entry : ClasspathEntry)
    (platform : ReleaseLibrary) : Prop where
  found : environment.entries[position]? = some entry
  location : entry.location = .releasePlatform platform
  reached : ∀ earlier other, earlier < position → environment.entries[earlier]? = some other →
    other.location.release = .unversioned →
      other.answer files sessions query constraint .unversioned = none ∧
        other.answer files sessions query constraint (.java oldestSymbolRelease) = none
  served : ¬ (platform.releaseClasses files (sessions.named entry.session)).1.ServedAs files
    .running
  differs : entry.answer files sessions query constraint .unversioned
    ≠ entry.answer files sessions query constraint (.java oldestSymbolRelease)

variable {environment : Environment} {sessions : Sessions}

theorem partsAt_of_differs {position : Nat} {entry : ClasspathEntry}
    (hfound : environment.entries[position]? = some entry)
    (hbound : entry.location.release = .unversioned)
    (hreached : ∀ earlier other, earlier < position → environment.entries[earlier]? = some other →
      other.location.release = .unversioned →
        other.answer files sessions query constraint .unversioned = none ∧
          other.answer files sessions query constraint (.java oldestSymbolRelease) = none)
    (hdiffers : entry.answer files sessions query constraint .unversioned
      ≠ entry.answer files sessions query constraint (.java oldestSymbolRelease)) :
    ∃ platform, PartsAt environment files sessions query constraint position entry platform := by
  obtain ⟨location, session⟩ := entry
  cases hkind : location.isReleasePlatform with
  | false => exact absurd (Location.find_unversioned_eq hbound hkind _) hdiffers
  | true =>
    cases location with
    | releasePlatform platform =>
      refine ⟨platform, hfound, rfl, hreached, fun hserved => hdiffers ?_, hdiffers⟩
      exact ReleaseLibrary.find_unversioned_of_running hserved
    | _ => cases hkind

/-- No location is bound to the oldest release or to an older one. -/
def AllNewer (environment : Environment) : Prop :=
  ∀ location ∈ environment.locations, ∀ number, location.release = .java number →
    oldestSymbolRelease < number

theorem AllNewer.release_eq (h : environment.AllNewer) {position : Nat} {entry : ClasspathEntry}
    (hfound : environment.entries[position]? = some entry)
    (happlies : entry.location.release.appliesTo (.java oldestSymbolRelease) = true) :
    entry.location.release = .unversioned := by
  have hmem : entry.location ∈ environment.locations :=
    List.mem_map_of_mem (List.mem_of_getElem? hfound)
  rcases Release.bound_of_appliesTo happlies with hbound | ⟨n, hle, hbound⟩
  · exact hbound
  · exact absurd hle (UInt16.not_le.2 (h _ hmem n hbound))

/-- Lookups at the oldest release ask the locations that those at no release ask. -/
theorem AllNewer.resolutionOrder_eq (h : environment.AllNewer) :
    resolutionOrder (environment.locations.map Location.release) (.java oldestSymbolRelease)
      = resolutionOrder (environment.locations.map Location.release) .unversioned := by
  refine resolutionOrder_of_newer fun release hrelease hversioned => ?_
  obtain ⟨location, hlocation, rfl⟩ := List.mem_map.1 hrelease
  cases hbound : location.release with
  | unversioned => simp [hbound, Release.isVersioned] at hversioned
  | java number => exact decide_eq_false (UInt16.not_le.2 (h location hlocation number hbound))

/-- The locations without a release that stand before a position are asked before it. -/
theorem mem_front_of_lt {front back : List Nat} {position earlier : Nat}
    {entry other : ClasspathEntry}
    (horder : resolutionOrder (environment.locations.map Location.release) .unversioned
      = front ++ position :: back)
    (hentry : environment.entries[position]? = some entry)
    (hentryBound : entry.location.release = .unversioned)
    (hother : environment.entries[earlier]? = some other)
    (hotherBound : other.location.release = .unversioned) (hlt : earlier < position) :
    earlier ∈ front := by
  have hmem : earlier ∈ resolutionOrder (environment.locations.map Location.release)
      .unversioned := mem_resolutionOrder.2 ⟨other, hother, by rw [hotherBound]; rfl⟩
  have hpairwise := pairwise_resolutionOrder environment .unversioned
  rw [horder] at hmem hpairwise
  rcases List.mem_append.1 hmem with hfront | hmem
  · exact hfront
  · rcases List.mem_cons.1 hmem with rfl | hback
    · exact absurd hlt (Nat.lt_irrefl _)
    · have hpreferred := (List.pairwise_cons.1 (List.pairwise_append.1 hpairwise).2.1).1 earlier
        hback entry other hentry hother
      exact absurd hlt (Nat.lt_asymm (hpreferred.2 (hotherBound.trans hentryBound.symm)))

/-- The two lookups have the same result, or they part. -/
theorem AllNewer.find_eq_or_partsAt (h : environment.AllNewer) :
    (environment.find files sessions query constraint .unversioned).1
        = (environment.find files sessions query constraint (.java oldestSymbolRelease)).1 ∨
      ∃ position entry platform,
        PartsAt environment files sessions query constraint position entry platform := by
  rw [find_eq_findSome?, find_eq_findSome?, h.resolutionOrder_eq]
  refine (findSome?_eq_or_part _ _ _).imp id ?_
  rintro ⟨front, position, back, horder, hfront, hdiffers⟩
  have hmem : position ∈ resolutionOrder (environment.locations.map Location.release)
      .unversioned := horder ▸ List.mem_append_right _ List.mem_cons_self
  obtain ⟨entry, hentry, happlies⟩ := mem_resolutionOrder.1 hmem
  have hbound := Release.eq_unversioned_of_applies happlies
  rw [answerAt, answerAt, hentry, Option.bind_some, Option.bind_some] at hdiffers
  refine ⟨position, entry, partsAt_of_differs hentry hbound ?_ hdiffers⟩
  intro earlier other hlt hother hotherBound
  have hnone := hfront earlier (mem_front_of_lt horder hentry hbound hother hotherBound hlt)
  rwa [answerAt, answerAt, hother] at hnone

/-- Where the lookups part, an answer from the classes of the release is the result of the one at no
release. -/
theorem PartsAt.find_eq {position : Nat} {entry : ClasspathEntry} {platform : ReleaseLibrary}
    {answer : Answer}
    (hparts : PartsAt environment files sessions query constraint position entry platform)
    (hanswer : entry.answer files sessions query constraint .unversioned = some answer) :
    (environment.find files sessions query constraint .unversioned).1 = some answer := by
  have hanswers : Answers environment files sessions query constraint .unversioned position entry
      answer := ⟨hparts.found, by rw [hparts.location]; rfl, hanswer⟩
  cases hfind : (environment.find files sessions query constraint .unversioned).1 with
  | none => exact absurd hanswers (find_eq_none_iff.1 hfind _ _ _)
  | some other =>
    obtain ⟨position', entry', hanswers', hpreferred⟩ := preferred_of_find_eq_some hfind
    rcases hpreferred _ _ _ hanswers with rfl | hbefore
    · rw [hanswers.unique hanswers']
    · have hbound' := Release.eq_unversioned_of_applies hanswers'.applies
      have hbound : entry.location.release = .unversioned := by rw [hparts.location]; rfl
      have hnone := (hparts.reached position' entry' (hbefore.2 (hbound.trans hbound'.symm))
        hanswers'.found hbound').1
      exact absurd (hanswers'.answers.symm.trans hnone) (by simp)

/-- **What the oldest release changes.**  A lookup at no release has the same result as one at the
oldest release, if no location is bound to that or to an older one, unless the two part at the
platform library of a release.  If the library has the type in its own release, the results do
differ: the one at no release is what the library has, marked with the release that the library was
opened for. -/
theorem find_at_oldest (h : environment.AllNewer) (files : Files) (sessions : Sessions)
    (query : Query) (constraint : ModuleConstraint) :
    ((environment.find files sessions query constraint .unversioned).1
        = (environment.find files sessions query constraint (.java oldestSymbolRelease)).1 ∨
      ∃ position entry platform,
        PartsAt environment files sessions query constraint position entry platform) ∧
    ∀ position entry platform answer,
      PartsAt environment files sessions query constraint position entry platform →
      entry.answer files sessions query constraint .unversioned = some answer →
        (environment.find files sessions query constraint .unversioned).1 = some answer ∧
          answer.release = .java platform.number ∧
          (environment.find files sessions query constraint (.java oldestSymbolRelease)).1
            ≠ some answer := by
  refine ⟨h.find_eq_or_partsAt, fun position entry platform answer hparts hanswer => ?_⟩
  obtain ⟨location, session⟩ := entry
  obtain rfl : location = .releasePlatform platform := hparts.location
  have hrelease : answer.release = .java platform.number :=
    (ReleaseLibrary.release_or_find_eq hanswer).resolve_right hparts.differs
  refine ⟨hparts.find_eq hanswer, hrelease, fun hfind => ?_⟩
  -- the answer at the oldest release would be marked with what its location is bound to
  obtain ⟨_, entry', hanswers', -⟩ := preferred_of_find_eq_some hfind
  rw [release_answer hanswers'.answers, h.release_eq hanswers'.found hanswers'.applies] at hrelease
  cases hrelease

/-! ## A class of the release that the library is opened for

The release is recorded with the class, and the JDK has no runtime image. -/

/-- An overlay in front of the platform library of a release. -/
def releaseClasspath (platform : ReleaseLibrary) : Environment :=
  ⟨[⟨.classFolder { root := ⟨"jdk"⟩, release := .java 9 }, ""⟩, ⟨.releasePlatform platform, ""⟩]⟩

theorem allNewer_releaseClasspath (platform : ReleaseLibrary) :
    (releaseClasspath platform).AllNewer := by
  intro location hlocation number hbound
  simp only [locations, releaseClasspath, List.map_cons, List.map_nil, List.mem_cons,
    List.not_mem_nil, or_false] at hlocation
  rcases hlocation with rfl | rfl
  · rw [← Release.java.inj hbound]
    decide
  · cases hbound

/-- Only the platform library is asked. -/
theorem find_releaseClasspath (platform : ReleaseLibrary) {release : Release}
    (horder : resolutionOrder [.java 9, .unversioned] release = [1]) :
    ((releaseClasspath platform).find files {} query constraint release).1
      = (platform.find files {} query constraint release).1 := by
  have hreleases : (releaseClasspath platform).locations.map Location.release
      = [.java 9, .unversioned] := rfl
  have hanswer : (releaseClasspath platform).answerAt files query constraint release {} 1
      = (platform.find files {} query constraint release).1 := rfl
  rw [find_eq_findSome?, hreleases, horder, List.findSome?_cons, hanswer, List.findSome?_nil]
  cases (platform.find files {} query constraint release).1 <;> rfl

theorem find_unversioned_releaseClasspath (platform : ReleaseLibrary) :
    ((releaseClasspath platform).find files {} query constraint .unversioned).1
      = (platform.find files {} query constraint .unversioned).1 :=
  find_releaseClasspath platform (by decide +kernel)

theorem find_oldest_releaseClasspath (platform : ReleaseLibrary) :
    ((releaseClasspath platform).find files {} query constraint (.java oldestSymbolRelease)).1
      = (platform.library.find files {} query constraint).1 :=
  find_releaseClasspath platform (by decide +kernel)

/-- The lookups can only part at the platform library. -/
theorem PartsAt.eq_of_releaseClasspath {platform platform' : ReleaseLibrary} {position : Nat}
    {entry : ClasspathEntry} (h : PartsAt (releaseClasspath platform) files sessions query constraint
      position entry platform') :
    entry = ⟨.releasePlatform platform, ""⟩ ∧ platform' = platform := by
  have hmem := List.mem_of_getElem? h.found
  have hlocation := h.location
  simp only [releaseClasspath, List.mem_cons, List.not_mem_nil, or_false] at hmem
  rcases hmem with rfl | rfl
  · cases hlocation
  · exact ⟨rfl, (Location.releasePlatform.inj hlocation).symm⟩

/-- The library has the class in its own release. -/
theorem exists_find_twiceLibrary : ∃ answer,
    (twiceLibrary.forEleven.find twiceJdk {} (.inPackage "T" []) .any .unversioned).1
      = some answer := by
  obtain ⟨answer, hanswer, -⟩ := ReleaseClasses.exists_loadType_twiceJdk (.inl rfl)
    (twiceLibrary.forEleven.releaseClasses twiceJdk {}).2.1.library
    (twiceLibrary.forEleven.releaseClasses twiceJdk {}).2.2 fun _ => true
  refine ⟨answer, ?_⟩
  rw [ReleaseLibrary.find_unversioned_fst, qualifiedBinaryFileName_sample]
  exact congrArg (Option.join ∘ Except.toOption) hanswer

/-- A class that is found in the release of the library, and not in the runtime image, since there
is none. -/
theorem find_at_oldest_sample :
    ReleaseLibrary.openArchive twiceJdk ⟨"jdk/lib/jrt-fs.jar"⟩ none none "11"
        = .ok twiceLibrary.forEleven ∧
      (releaseClasspath twiceLibrary.forEleven).AllNewer ∧
      ∃ position entry answer,
        PartsAt (releaseClasspath twiceLibrary.forEleven) twiceJdk {} (.inPackage "T" []) .any
          position entry twiceLibrary.forEleven ∧
        entry.answer twiceJdk {} (.inPackage "T" []) .any .unversioned = some answer ∧
        ((releaseClasspath twiceLibrary.forEleven).find twiceJdk {} (.inPackage "T" []) .any
          .unversioned).1 = some answer ∧
        answer.release = .java 11 ∧
        ((releaseClasspath twiceLibrary.forEleven).find twiceJdk {} (.inPackage "T" []) .any
          (.java oldestSymbolRelease)).1 ≠ some answer := by
  have hnewer := allNewer_releaseClasspath twiceLibrary.forEleven
  obtain ⟨answer, hanswer⟩ := exists_find_twiceLibrary
  obtain ⟨hsame | ⟨position, entry, platform, hparts⟩, hdiffer⟩ :=
    find_at_oldest hnewer twiceJdk {} (.inPackage "T" []) .any
  · rw [find_unversioned_releaseClasspath, find_oldest_releaseClasspath, hanswer] at hsame
    cases hsame
  · obtain ⟨rfl, rfl⟩ := hparts.eq_of_releaseClasspath
    obtain ⟨hfind, hrelease, hne⟩ := hdiffer _ _ _ answer hparts hanswer
    exact ⟨PlatformLibrary.openArchive_forEleven openArchive_twiceJdk, hnewer, position, _, answer,
      hparts, hanswer, hfind, hrelease, hne⟩

/-! ## A class that only the oldest release finds -/

/-- **A type may be found at the oldest release and not at none**, with no location bound to that
release or to an older one. -/
theorem exists_found_at_oldest :
    ReleaseLibrary.openArchive sampleJdk ⟨"jdk/lib/jrt-fs.jar"⟩ none none "11"
        = .ok sampleLibrary.forEleven ∧
      (releaseClasspath sampleLibrary.forEleven).AllNewer ∧
      ((releaseClasspath sampleLibrary.forEleven).find sampleJdk {} (.inPackage "T" []) .any
        .unversioned).1 = none ∧
      ((releaseClasspath sampleLibrary.forEleven).find sampleJdk {} (.inPackage "T" []) .any
        (.java oldestSymbolRelease)).1 = some sampleAnswer := by
  refine ⟨PlatformLibrary.openArchive_forEleven openArchive_sampleJdk,
    allNewer_releaseClasspath _, ?_, ?_⟩
  · rw [find_unversioned_releaseClasspath, find_unversioned_sampleLibrary]
  · rw [find_oldest_releaseClasspath]
    exact find_sampleLibrary {} rfl

end Environment

end MultiRelease
