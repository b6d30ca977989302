import Mathlib.Data.List.Infix
import MultiRelease.Text.Segments

/-!
# Where texts are cut

File names are cut at their last dot, names of types at their last slash, and arguments at their
last colon.  For the last occurrence of a separator the cut is characterised by having no other
occurrence behind it:

* `eq_of_cutAtLast`: the two parts and the separator make up the text, and the second part is
  without separator;
* `cutAtLast_append`: every text of this form is cut in this way, so there is no other cut;
* `notMem_of_cutAtLast`: a text that is not cut has no separator.

The first segment of a text goes up to the first separator or to the end
(`exists_of_headD_segments`).  A beginning is taken off exactly the texts that have it
(`withoutPrefix?_eq_some_iff`).
-/

set_option autoImplicit false

namespace MultiRelease.Text

/-- A text that cannot be cut has no separator. -/
theorem notMem_of_cutAtLast {separator : Char} :
    ∀ {text : List Char}, cutAtLast separator text = none → separator ∉ text
  | [], _ => List.not_mem_nil
  | c :: text, h => by
    rw [cutAtLast] at h
    split at h
    · cases h
    · rename_i hcut
      split at h
      · cases h
      · rename_i hc
        exact List.not_mem_cons_of_ne_of_not_mem (Ne.symm hc) (notMem_of_cutAtLast hcut)

theorem eq_of_cutAtLast {separator : Char} :
    ∀ {text front back : List Char}, cutAtLast separator text = some (front, back) →
      text = front ++ separator :: back ∧ separator ∉ back
  | [], _, _, h => by cases h
  | c :: text, front, back, h => by
    rw [cutAtLast] at h
    split at h
    · rename_i front' back' hcut
      obtain ⟨rfl, rfl⟩ := Prod.mk.inj (Option.some_inj.1 h)
      obtain ⟨htext, hback⟩ := eq_of_cutAtLast hcut
      exact ⟨by rw [htext, List.cons_append], hback⟩
    · rename_i hcut
      split at h
      · rename_i hc
        obtain ⟨rfl, rfl⟩ := Prod.mk.inj (Option.some_inj.1 h)
        exact ⟨by rw [hc, List.nil_append], notMem_of_cutAtLast hcut⟩
      · cases h

theorem cutAtLast_of_notMem {separator : Char} :
    ∀ {text : List Char}, separator ∉ text → cutAtLast separator text = none
  | [], _ => rfl
  | c :: text, h => by
    rw [List.mem_cons, not_or] at h
    rw [cutAtLast, cutAtLast_of_notMem h.2, if_neg (Ne.symm h.1)]

/-- A text is cut at a separator that has no other one behind it. -/
theorem cutAtLast_append {separator : Char} {back : List Char} (h : separator ∉ back) :
    ∀ front : List Char, cutAtLast separator (front ++ separator :: back) = some (front, back)
  | [] => by rw [List.nil_append, cutAtLast, cutAtLast_of_notMem h, if_pos rfl]
  | c :: front => by rw [List.cons_append, cutAtLast, cutAtLast_append h front]

theorem exists_of_segmentsAt (separator : Char) : ∀ text : List Char, ∃ first others rest,
    segmentsAt separator text = first :: others ∧ text = first ++ rest ∧ separator ∉ first ∧
      (rest = [] ∨ rest.head? = some separator)
  | [] => ⟨[], [], [], rfl, rfl, List.not_mem_nil, .inl rfl⟩
  | c :: text => by
    rw [segmentsAt]
    by_cases hc : c = separator
    · rw [if_pos hc]
      exact ⟨[], _, c :: text, rfl, rfl, List.not_mem_nil, .inr (by rw [hc]; rfl)⟩
    · obtain ⟨first, others, rest, hsegments, htext, hfirst, hrest⟩ :=
        exists_of_segmentsAt separator text
      rw [if_neg hc, hsegments]
      exact ⟨c :: first, others, rest, rfl, by rw [htext, List.cons_append],
        List.not_mem_cons_of_ne_of_not_mem (Ne.symm hc) hfirst, hrest⟩

/-- What the first segment of a text is. -/
theorem exists_of_headD_segments (separator : Char) (text default : String) :
    ∃ first rest, (segments separator text).headD default = String.ofList first ∧
      text.toList = first ++ rest ∧ separator ∉ first ∧
        (rest = [] ∨ rest.head? = some separator) := by
  obtain ⟨first, others, rest, hsegments, htext, hfirst, hrest⟩ :=
    exists_of_segmentsAt separator text.toList
  exact ⟨first, rest, by rw [segments, hsegments]; rfl, htext, hfirst, hrest⟩

/-- What is left of a text without its beginning is what has to be put behind the beginning to get
the text back. -/
theorem withoutPrefix?_eq_some_iff {beginning text rest : String} :
    withoutPrefix? beginning text = some rest ↔ text = beginning ++ rest := by
  rw [withoutPrefix?, Option.map_eq_some_iff]
  constructor
  · rintro ⟨tail, htail, rfl⟩
    rw [← String.toList_inj, String.toList_append, String.toList_ofList]
    exact (List.isPrefixOf?_eq_some_iff_append_eq.1 htail).symm
  · rintro rfl
    exact ⟨rest.toList, List.isPrefixOf?_eq_some_iff_append_eq.2 (String.toList_append ..).symm,
      String.ofList_toList⟩

end MultiRelease.Text
