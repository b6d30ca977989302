import Mathlib.Data.List.Forall2
import MultiRelease.Sorted

/-!
# What a sorted list without repetition holds

Sorting and dropping repetitions (`sortedDistinct`) is used in three places: for texts, for the
members of a type, and for the output folders of a build.  Equal texts and members are equal, but
folders count as the same if their paths have the same components, however they are written.  So
there are two ways to say that nothing is lost.

* `mem_of_mem_sortedDistinct`: nothing is added.
* `mem_sortedDistinct`: where only equal elements count as the same, nothing is lost.
* `exists_mem_sortedDistinct`: in general, one of those that count as the same stays.
* `pairwise_sortedDistinct`: no two that stay count as the same.  This needs that those elements
  count as the same that precede each other, for then they stand next to each other once the list is
  sorted.

Each is proved for `dropRepeated` first, by induction along its recursion: an element gives way to
the next one or stays in front of what is left of the others.

Sorted lists with related members are related position by position (`forall₂_of_sorted`).  This is
how two listings of what should be the same are compared, without a look at how they came about.
-/

set_option autoImplicit false

namespace MultiRelease

variable {α : Type} {precedes same : α → α → Bool}

/-! ## Dropping repetitions -/

/-- What stays is left in its order. -/
theorem dropRepeated_sublist (same : α → α → Bool) (elements : List α) :
    (dropRepeated same elements).Sublist elements := by
  induction elements using dropRepeated.induct same with
  | case1 => exact .refl []
  | case2 b => exact .refl [b]
  | case3 b c rest heq ih =>
    rw [dropRepeated, if_pos heq]
    exact ih.cons b
  | case4 b c rest hne ih =>
    rw [dropRepeated, if_neg hne]
    exact ih.cons_cons b

theorem mem_of_mem_dropRepeated {a : α} {elements : List α}
    (h : a ∈ dropRepeated same elements) : a ∈ elements :=
  (dropRepeated_sublist same elements).mem h

/-- Of elements that count as the same, one stays. -/
theorem exists_mem_dropRepeated {β : Type} (key : α → β)
    (hsame : ∀ a b, same a b = true → key a = key b) {a : α} {elements : List α}
    (h : a ∈ elements) : ∃ b ∈ dropRepeated same elements, key b = key a := by
  induction elements using dropRepeated.induct same generalizing a with
  | case1 => exact absurd h List.not_mem_nil
  | case2 b => exact ⟨a, h, rfl⟩
  | case3 b c rest heq ih =>
    rw [dropRepeated, if_pos heq]
    rcases List.mem_cons.1 h with rfl | hothers
    · rw [hsame a c heq]
      exact ih List.mem_cons_self
    · exact ih hothers
  | case4 b c rest hne ih =>
    rw [dropRepeated, if_neg hne]
    rcases List.mem_cons.1 h with rfl | hothers
    · exact ⟨a, List.mem_cons_self, rfl⟩
    · obtain ⟨d, hd, hkey⟩ := ih hothers
      exact ⟨d, List.mem_cons_of_mem b hd, hkey⟩

/-- If only equal elements count as the same, all of them stay. -/
theorem mem_dropRepeated (hsame : ∀ a b, same a b = true → a = b) {a : α} {elements : List α} :
    a ∈ dropRepeated same elements ↔ a ∈ elements := by
  refine ⟨mem_of_mem_dropRepeated, fun h => ?_⟩
  obtain ⟨b, hb, rfl⟩ := exists_mem_dropRepeated id hsame h
  exact hb

/-! ## Sorting first -/

theorem mem_of_mem_sortedDistinct {a : α} {elements : List α}
    (h : a ∈ sortedDistinct precedes same elements) : a ∈ elements :=
  List.mem_mergeSort.1 (mem_of_mem_dropRepeated h)

/-- If only equal elements count as the same, the list holds what it was made from. -/
theorem mem_sortedDistinct (hsame : ∀ a b, same a b = true → a = b) {a : α}
    {elements : List α} : a ∈ sortedDistinct precedes same elements ↔ a ∈ elements := by
  rw [sortedDistinct, mem_dropRepeated hsame, List.mem_mergeSort]

/-- Whatever the list is made from, it holds an element with the same key. -/
theorem exists_mem_sortedDistinct {β : Type} (key : α → β)
    (hsame : ∀ a b, same a b = true → key a = key b) {a : α} {elements : List α}
    (h : a ∈ elements) : ∃ b ∈ sortedDistinct precedes same elements, key b = key a :=
  exists_mem_dropRepeated key hsame (List.mem_mergeSort.2 h)

theorem sortedDistinct_ne_nil {elements : List α} (h : elements ≠ []) :
    sortedDistinct precedes same elements ≠ [] := by
  obtain ⟨a, ha⟩ := List.exists_mem_of_ne_nil elements h
  obtain ⟨b, hb, -⟩ := exists_mem_sortedDistinct (fun _ => ()) (fun _ _ _ => rfl) ha
  exact List.ne_nil_of_mem hb

/-! ## Repetitions -/

/-- In a sorted list the elements that count as the same stand next to each other, so that only one
of them stays. -/
theorem pairwise_dropRepeated
    (htrans : ∀ a b c, precedes a b = true → precedes b c = true → precedes a c = true)
    (hsame : ∀ a b, same a b = true ↔ precedes a b = true ∧ precedes b a = true)
    {elements : List α} (hsorted : elements.Pairwise fun a b => precedes a b = true) :
    (dropRepeated same elements).Pairwise fun a b => same a b = false := by
  induction elements using dropRepeated.induct same with
  | case1 =>
    rw [dropRepeated]
    exact .nil
  | case2 b =>
    rw [dropRepeated]
    exact List.pairwise_singleton _ _
  | case3 b c rest heq ih =>
    rw [dropRepeated, if_pos heq]
    exact ih (List.pairwise_cons.1 hsorted).2
  | case4 b c rest hne ih =>
    obtain ⟨hb, hrest⟩ := List.pairwise_cons.1 hsorted
    rw [dropRepeated, if_neg hne, List.pairwise_cons]
    refine ⟨fun d hd => ?_, ih hrest⟩
    rw [← Bool.not_eq_true]
    intro hbd
    -- what comes later cannot be the same as `b`, since `c` would be so, too
    have hcd : precedes c d = true := by
      rcases List.mem_cons.1 (mem_of_mem_dropRepeated hd) with rfl | hd
      · exact absurd hbd hne
      · exact (List.pairwise_cons.1 hrest).1 d hd
    exact hne ((hsame b c).2
      ⟨hb c List.mem_cons_self, htrans c d b hcd ((hsame b d).1 hbd).2⟩)

/-- No two elements of the list count as the same. -/
theorem pairwise_sortedDistinct
    (htrans : ∀ a b c, precedes a b = true → precedes b c = true → precedes a c = true)
    (htotal : ∀ a b, (precedes a b || precedes b a) = true)
    (hsame : ∀ a b, same a b = true ↔ precedes a b = true ∧ precedes b a = true)
    (elements : List α) :
    (sortedDistinct precedes same elements).Pairwise fun a b => same a b = false :=
  pairwise_dropRepeated htrans hsame (List.pairwise_mergeSort htrans htotal elements)

/-! ## Related lists -/

/-- **Sorted lists with related members are related position by position**, if what is related to
the same stands at the same place in the order. -/
theorem forall₂_of_sorted {lt r : α → α → Prop} (hasymm : ∀ a b, lt a b → ¬ lt b a)
    (hcongr : ∀ a b a' b', r a b → r a' b' → (lt a a' ↔ lt b b')) {xs ys : List α}
    (hxs : xs.Pairwise lt) (hys : ys.Pairwise lt) (hleft : ∀ x ∈ xs, ∃ y ∈ ys, r x y)
    (hright : ∀ y ∈ ys, ∃ x ∈ xs, r x y) : List.Forall₂ r xs ys := by
  have hirrefl : ∀ a, ¬ lt a a := fun a ha => hasymm a a ha ha
  induction xs generalizing ys with
  | nil =>
    cases ys with
    | nil => exact .nil
    | cons y ys =>
      obtain ⟨x, hx, -⟩ := hright y List.mem_cons_self
      exact absurd hx List.not_mem_nil
  | cons x xs ih =>
    cases ys with
    | nil =>
      obtain ⟨y, hy, -⟩ := hleft x List.mem_cons_self
      exact absurd hy List.not_mem_nil
    | cons y ys =>
      obtain ⟨hx, hxs⟩ := List.pairwise_cons.1 hxs
      obtain ⟨hy, hys⟩ := List.pairwise_cons.1 hys
      have hfirst : r x y := by
        obtain ⟨y', hy', hxy'⟩ := hleft x List.mem_cons_self
        rcases List.mem_cons.1 hy' with rfl | hy'
        · exact hxy'
        · obtain ⟨x', hx', hx'y⟩ := hright y List.mem_cons_self
          rcases List.mem_cons.1 hx' with rfl | hx'
          · exact hx'y
          -- otherwise both come later than the first of the other list
          · exact absurd ((hcongr x y' x' y hxy' hx'y).1 (hx x' hx')) (hasymm y y' (hy y' hy'))
      refine .cons hfirst (ih hxs hys (fun x' hx' => ?_) fun y' hy' => ?_)
      · obtain ⟨y', hy', hx'y'⟩ := hleft x' (List.mem_cons_of_mem x hx')
        rcases List.mem_cons.1 hy' with rfl | hy'
        · exact absurd ((hcongr x y' x' y' hfirst hx'y').1 (hx x' hx')) (hirrefl y')
        · exact ⟨y', hy', hx'y'⟩
      · obtain ⟨x', hx', hx'y'⟩ := hright y' (List.mem_cons_of_mem y hy')
        rcases List.mem_cons.1 hx' with rfl | hx'
        · exact absurd ((hcongr x' y x' y' hfirst hx'y').2 (hy y' hy')) (hirrefl x')
        · exact ⟨x', hx', hx'y'⟩

/-! ## Texts -/

theorem decide_le_trans (a b c : String) (hab : decide (a ≤ b) = true)
    (hbc : decide (b ≤ c) = true) : decide (a ≤ c) = true :=
  decide_eq_true (String.le_trans (of_decide_eq_true hab) (of_decide_eq_true hbc))

theorem decide_le_total (a b : String) : (decide (a ≤ b) || decide (b ≤ a)) = true := by
  simpa using String.le_total a b

/-- Texts are sorted in ascending order. -/
theorem pairwise_mergeSort_texts (texts : List String) :
    (texts.mergeSort fun a b => decide (a ≤ b)).Pairwise (· ≤ ·) :=
  (List.pairwise_mergeSort decide_le_trans decide_le_total texts).imp of_decide_eq_true

end MultiRelease
