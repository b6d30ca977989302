import MultiRelease.Environment
import MultiRelease.Proofs.Release

/-!
# The order in which a classpath is asked

`Environment.resolutionOrder` lists the positions of the locations that a lookup asks.  These are
the locations that apply to the release of the lookup, each once (`Environment.mem_resolutionPairs`,
`Environment.nodup_resolutionOrder`), and they stand in the order of *preference*
(`Environment.Preferred`): the newer release first, and among equals the order of the classpath
(`Environment.pairwise_resolutionPairs`).

That equals keep their order is the stability of the sort, in the form of
`Environment.filter_sorted`: taking the locations of one release out of the sorted list gives what
taking them out of the unsorted one does.  Locations without a release are not sorted but follow
behind the others, which comes to the same, since every release is newer than none.
-/

set_option autoImplicit false

namespace MultiRelease

namespace Environment

/-- The location at one position is asked before the one at the other: it is bound to a newer
release, or to the same one and stands in front. -/
def Preferred (a b : Release × Nat) : Prop := b.1.precedes a.1 = true ∧ (b.1 = a.1 → a.2 < b.2)

/-- The newest release first. -/
def newestFirst (a b : Release × Nat) : Bool := b.1.precedes a.1

theorem newestFirst_trans (a b c : Release × Nat) (hab : newestFirst a b = true)
    (hbc : newestFirst b c = true) : newestFirst a c = true :=
  Release.precedes_trans c.1 b.1 a.1 hbc hab

theorem newestFirst_total (a b : Release × Nat) : (newestFirst a b || newestFirst b a) = true :=
  Release.precedes_total b.1 a.1

/-- **Sorting leaves the order among equals as it was.** -/
theorem filter_sorted (positions : List (Release × Nat)) (release : Release) :
    (positions.mergeSort newestFirst).filter (·.1 = release)
      = positions.filter (·.1 = release) := by
  have hequal : (positions.filter (·.1 = release)).Pairwise fun a b => newestFirst a b = true := by
    refine List.pairwise_of_forall_mem_list fun a ha b hb => ?_
    rw [List.mem_filter, decide_eq_true_eq] at ha hb
    rw [newestFirst, ha.2, hb.2]
    exact Release.precedes_refl release
  have hsublist := (List.sublist_mergeSort newestFirst_trans newestFirst_total hequal
    List.filter_sublist).filter fun x => decide (x.1 = release)
  rw [List.filter_filter] at hsublist
  simp only [Bool.and_self] at hsublist
  have hlength := ((List.mergeSort_perm positions newestFirst).filter
    fun x => decide (x.1 = release)).length_eq
  exact (hsublist.eq_of_length hlength.symm).symm

/-- Positions in the order of the classpath are sorted into the order of preference. -/
theorem pairwise_sorted {positions : List (Release × Nat)}
    (h : positions.Pairwise fun a b => a.2 < b.2) :
    (positions.mergeSort newestFirst).Pairwise Preferred := by
  have hsorted := List.pairwise_mergeSort newestFirst_trans newestFirst_total positions
  rw [List.pairwise_iff_forall_sublist] at hsorted ⊢
  intro a b hab
  refine ⟨hsorted hab, fun hrelease => ?_⟩
  -- both are among those of one release, which stand as they stood before
  have hfiltered := hab.filter fun x => decide (x.1 = a.1)
  rw [filter_sorted, List.filter_cons_of_pos (by simp),
    List.filter_cons_of_pos (by simpa using hrelease), List.filter_nil] at hfiltered
  exact List.pairwise_iff_forall_sublist.1 h (hfiltered.trans List.filter_sublist)

/-! ## The positions -/

/-- The positions with what stands there, in the order in which a lookup asks them. -/
def resolutionPairs (releases : List Release) (requested : Release) : List (Release × Nat) :=
  (releases.zipIdx.filter fun (release, _) =>
      release.isVersioned && release.appliesTo requested).mergeSort newestFirst
    ++ releases.zipIdx.filter fun (release, _) => !release.isVersioned

theorem map_resolutionPairs (releases : List Release) (requested : Release) :
    resolutionOrder releases requested = (resolutionPairs releases requested).map (·.2) := rfl

/-- A lookup asks the locations that apply to its release. -/
theorem mem_resolutionPairs {releases : List Release} {requested release : Release}
    {position : Nat} :
    (release, position) ∈ resolutionPairs releases requested
      ↔ releases[position]? = some release ∧ release.appliesTo requested = true := by
  rw [resolutionPairs, List.mem_append, List.mem_mergeSort, List.mem_filter, List.mem_filter,
    List.mk_mem_zipIdx_iff_getElem?, ← and_or_left]
  refine and_congr_right fun _ => ?_
  cases hversioned : release.isVersioned with
  | true => simp [hversioned]
  | false => simp [hversioned, Release.appliesTo_of_not_isVersioned hversioned]

/-- **A lookup asks in the order of preference.** -/
theorem pairwise_resolutionPairs (releases : List Release) (requested : Release) :
    (resolutionPairs releases requested).Pairwise Preferred := by
  have hpositions : releases.zipIdx.Pairwise fun a b => a.2 < b.2 := by
    have hrange := List.pairwise_lt_range' (s := 0) (n := releases.length)
    rw [← List.zipIdx_map_snd, List.pairwise_map] at hrange
    exact hrange
  have hlast : ∀ a ∈ releases.zipIdx.filter fun (release, _) => !release.isVersioned,
      a.1 = .unversioned := by
    rintro ⟨release, position⟩ ha
    cases release with
    | unversioned => rfl
    | java number => simp [Release.isVersioned] at ha
  rw [resolutionPairs, List.pairwise_append]
  refine ⟨pairwise_sorted (hpositions.filter _), ?_, fun a ha b hb => ?_⟩
  · refine (hpositions.filter _).imp_of_mem fun {a b} ha hb hab => ⟨?_, fun _ => hab⟩
    rw [hlast a ha, hlast b hb]
    rfl
  · rw [List.mem_mergeSort, List.mem_filter, Bool.and_eq_true] at ha
    rw [Preferred, hlast b hb]
    refine ⟨rfl, fun hrelease => ?_⟩
    rw [← hrelease] at ha
    exact absurd ha.2.1 (by decide)

theorem nodup_resolutionOrder (releases : List Release) (requested : Release) :
    (resolutionOrder releases requested).Nodup := by
  rw [map_resolutionPairs, List.Nodup, List.pairwise_map]
  refine (pairwise_resolutionPairs releases requested).imp_of_mem fun {a b} ha hb hab heq => ?_
  have hrelease : b.1 = a.1 := by
    have ha' := (mem_resolutionPairs.1 ha).1
    have hb' := (mem_resolutionPairs.1 hb).1
    rw [heq] at ha'
    exact Option.some_inj.1 (hb'.symm.trans ha')
  exact Nat.lt_irrefl b.2 (heq ▸ hab.2 hrelease)

end Environment

end MultiRelease
