/-!
# Computations that may fail

Opening a location, reading a class file and setting a classpath up are computations in steps, any
of which may fail.  Such a computation succeeds if every step does, each with what the step before
has given (`Except.bind_eq_ok_iff`).  Proofs take it apart by this statement and never unfold it.

What is computed from each member of a list, if that succeeds for all of them, stands in the place
of the member (`Except.exists_of_mapM`): so the locations of a classpath stand in the order in which
they were configured.
-/

set_option autoImplicit false

namespace MultiRelease

/-- Two steps succeed together if the second does with what the first has given. -/
theorem Except.bind_eq_ok_iff {ε α β : Type} {x : Except ε α} {f : α → Except ε β} {b : β} :
    (x >>= f) = .ok b ↔ ∃ a, x = .ok a ∧ f a = .ok b := by
  cases x <;> simp [bind, Except.bind]

/-- What is computed from a member of a list stands in the place of the member. -/
theorem Except.exists_of_mapM {ε α β : Type} {f : α → Except ε β} :
    ∀ {as : List α} {bs : List β}, as.mapM f = .ok bs → ∀ {i : Nat} {a : α}, as[i]? = some a →
      ∃ b, bs[i]? = some b ∧ f a = .ok b
  | [], _, _, _, _, ha => nomatch ha
  | first :: as, bs, h, i, a, ha => by
    rw [List.mapM_cons, Except.bind_eq_ok_iff] at h
    obtain ⟨b, hb, h⟩ := h
    obtain ⟨others, hothers, h⟩ := Except.bind_eq_ok_iff.1 h
    obtain rfl := Except.ok.inj h
    cases i with
    | zero =>
      obtain rfl := Option.some_inj.1 ha
      exact ⟨b, rfl, hb⟩
    | succ i => exact Except.exists_of_mapM hothers ha

end MultiRelease
