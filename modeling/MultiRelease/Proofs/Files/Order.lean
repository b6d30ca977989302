import MultiRelease.Files.Path

/-!
# The order of paths

Paths are ordered lexicographically by their components, and a component by its kind and then by its
name.  Output folders are sorted by this order before a build is checked, and so are the variants of
a type that have one release, by their class files.  So it decides which of several findings is
reported first.  Sorting asks for a relation that is transitive and total:

* `Path.precedes_trans` and `Path.precedes_total` say that it is;
* `Path.same_iff_precedes` says that paths that precede each other are the same, which is what
  dropping the repetitions in a sorted list asks for.

Being the same is weaker than being equal: `out` and `out/.` have the same components and are
different texts (`Path.same_iff`).  So this is an order of components, and only a preorder of paths.

Each property is proved three times, for components, for lists of them and for paths.  For
components it comes down to the order of numbers and that of texts (`Path.Component.precedes_iff`).
For lists the induction follows the recursion of `Path.componentsPrecede`, which goes on as long as
the components are equal and is decided by the first two that are not.  That the decision cannot
fall both ways is where components that precede each other have to be equal
(`Path.Component.precedes_antisymm`).
-/

set_option autoImplicit false

namespace MultiRelease.Path

namespace Component

/-- The name of a component, among those of one rank. -/
def value : Component → String
  | name value => value
  | _ => ""

/-- The rank of a component decides, and among names of one rank the name. -/
theorem precedes_iff {a b : Component} :
    a.precedes b = true ↔ a.rank < b.rank ∨ (a.rank = b.rank ∧ a.value ≤ b.value) := by
  cases a <;> cases b <;> simp [precedes, rank, value]

theorem precedes_trans (a b c : Component) (hab : a.precedes b = true)
    (hbc : b.precedes c = true) : a.precedes c = true := by
  rw [precedes_iff] at hab hbc ⊢
  rcases hab with hab | ⟨hab, hab'⟩
  · left
    omega
  · rcases hbc with hbc | ⟨hbc, hbc'⟩
    · left
      omega
    · exact .inr ⟨hab.trans hbc, String.le_trans hab' hbc'⟩

theorem precedes_total (a b : Component) : a.precedes b = true ∨ b.precedes a = true := by
  rw [precedes_iff, precedes_iff]
  rcases Nat.lt_trichotomy a.rank b.rank with hlt | heq | hgt
  · exact .inl (.inl hlt)
  · rcases String.le_total a.value b.value with hle | hle
    · exact .inl (.inr ⟨heq, hle⟩)
    · exact .inr (.inr ⟨heq.symm, hle⟩)
  · exact .inr (.inl hgt)

theorem precedes_antisymm {a b : Component} (hab : a.precedes b = true)
    (hba : b.precedes a = true) : a = b := by
  rw [precedes_iff] at hab hba
  have hrank : a.rank = b.rank := by omega
  have hvalue : a.value = b.value := by
    rcases hab with hab | ⟨-, hab⟩
    · omega
    · rcases hba with hba | ⟨-, hba⟩
      · omega
      · exact String.le_antisymm hab hba
  cases a <;> cases b <;> first | rfl | exact congrArg name hvalue | cases hrank

end Component

/-- The first components that differ decide, and what follows them does not matter. -/
theorem componentsPrecede_trans :
    ∀ a b c : List Component, componentsPrecede a b = true → componentsPrecede b c = true →
      componentsPrecede a c = true
  | [], _, _, _, _ => rfl
  | _ :: _, [], _, hab, _ => by cases hab
  | _ :: _, _ :: _, [], _, hbc => by cases hbc
  | a :: as, b :: bs, c :: cs, hab, hbc => by
    rw [componentsPrecede] at hab hbc ⊢
    by_cases hab' : a = b
    · subst hab'
      rw [if_pos rfl] at hab
      by_cases hbc' : a = c
      · subst hbc'
        rw [if_pos rfl] at hbc ⊢
        exact componentsPrecede_trans as bs cs hab hbc
      · rw [if_neg hbc'] at hbc ⊢
        exact hbc
    · rw [if_neg hab'] at hab
      by_cases hbc' : b = c
      · subst hbc'
        rwa [if_neg hab']
      · rw [if_neg hbc'] at hbc
        have hac : a ≠ c := by
          rintro rfl
          exact hab' (Component.precedes_antisymm hab hbc)
        rw [if_neg hac]
        exact Component.precedes_trans a b c hab hbc

theorem componentsPrecede_total :
    ∀ a b : List Component, componentsPrecede a b = true ∨ componentsPrecede b a = true
  | [], _ => .inl rfl
  | _ :: _, [] => .inr rfl
  | a :: as, b :: bs => by
    rw [componentsPrecede, componentsPrecede]
    by_cases hab : a = b
    · rw [if_pos hab, if_pos hab.symm]
      exact componentsPrecede_total as bs
    · rw [if_neg hab, if_neg (Ne.symm hab)]
      exact Component.precedes_total a b

theorem componentsPrecede_refl : ∀ a : List Component, componentsPrecede a a = true
  | [] => rfl
  | a :: as => by
    rw [componentsPrecede, if_pos rfl]
    exact componentsPrecede_refl as

/-- Lists that precede each other do not differ anywhere. -/
theorem componentsPrecede_antisymm :
    ∀ {a b : List Component}, componentsPrecede a b = true → componentsPrecede b a = true → a = b
  | [], [], _, _ => rfl
  | [], _ :: _, _, hba => by cases hba
  | _ :: _, [], hab, _ => by cases hab
  | a :: as, b :: bs, hab, hba => by
    rw [componentsPrecede] at hab hba
    by_cases heq : a = b
    · rw [if_pos heq] at hab
      rw [if_pos heq.symm] at hba
      rw [heq, componentsPrecede_antisymm hab hba]
    · rw [if_neg heq] at hab
      rw [if_neg (Ne.symm heq)] at hba
      exact absurd (Component.precedes_antisymm hab hba) heq

theorem precedes_trans {p q r : Path} (hpq : p.precedes q = true) (hqr : q.precedes r = true) :
    p.precedes r = true :=
  componentsPrecede_trans _ _ _ hpq hqr

/-- Of two paths one precedes the other. -/
theorem precedes_total (p q : Path) : p.precedes q = true ∨ q.precedes p = true :=
  componentsPrecede_total _ _

/-- However they are spelled, paths with the same components are the same. -/
theorem same_iff {p q : Path} : p.same q = true ↔ p.components = q.components := decide_eq_true_iff

/-- Paths are the same if they precede each other. -/
theorem same_iff_precedes (p q : Path) :
    p.same q = true ↔ p.precedes q = true ∧ q.precedes p = true := by
  rw [same_iff, precedes, precedes]
  constructor
  · intro h
    rw [h]
    exact ⟨componentsPrecede_refl _, componentsPrecede_refl _⟩
  · exact fun ⟨hpq, hqp⟩ => componentsPrecede_antisymm hpq hqp

end MultiRelease.Path
