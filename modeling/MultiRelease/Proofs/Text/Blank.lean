import Mathlib.Data.List.DropRight
import MultiRelease.Text.Blank

/-!
# Texts without blanks around them

A compliance level may have blanks around it, and the value of an option that is made from it is
trimmed once more.  What `trimBlanks` does is said by what it leaves:

* `isTrimmed_trimBlanks`: a text that has no blank at either end (`IsTrimmed`);
* `trimBlanks_of_isTrimmed`: a text of this kind is left as it is, so trimming twice is trimming
  once;
* `trimBlanks_append`: blanks in front of a text are all the same to it.

Trimming drops blanks at one end, reverses the text and drops them at the other.  That the second
pass does not bring blanks back to the front needs a look at the first character only, which the two
passes have in common unless nothing is left (`mem_head?_of_isPrefix`).
-/

set_option autoImplicit false

namespace MultiRelease.Text

variable {text : List Char}

/-- There is no blank at either end. -/
structure IsTrimmed (text : List Char) : Prop where
  head : ∀ c ∈ text.head?, isBlank c = false
  last : ∀ c ∈ text.getLast?, isBlank c = false

theorem head?_dropWhile_isBlank (text : List Char) :
    ∀ c ∈ (text.dropWhile isBlank).head?, isBlank c = false := by
  intro c hc
  have hhead := List.head?_dropWhile_not isBlank text
  rwa [hc] at hhead

/-- A front that is not empty starts as the whole does. -/
theorem mem_head?_of_isPrefix {front : List Char} (h : front <+: text) {c : Char}
    (hc : c ∈ front.head?) : c ∈ text.head? := by
  obtain ⟨rest, rfl⟩ := h
  rw [List.head?_append, hc, Option.some_or]
  rfl

theorem isTrimmed_trimBlanks (text : List Char) : IsTrimmed (trimBlanks text) where
  head c hc := by
    have hprefix : trimBlanks text <+: text.dropWhile isBlank := List.rdropWhile_prefix isBlank _
    exact head?_dropWhile_isBlank text c (mem_head?_of_isPrefix hprefix hc)
  last c hc := by
    rw [trimBlanks, List.getLast?_reverse] at hc
    exact head?_dropWhile_isBlank _ c hc

theorem dropWhile_isBlank_eq_self (h : ∀ c ∈ text.head?, isBlank c = false) :
    text.dropWhile isBlank = text := by
  cases text with
  | nil => rfl
  | cons c text => rw [List.dropWhile_cons_of_neg (by simp [h c rfl])]

/-- **What has no blank at either end is left as it is.** -/
theorem trimBlanks_of_isTrimmed (h : IsTrimmed text) : trimBlanks text = text := by
  have hlast : ∀ c ∈ text.reverse.head?, isBlank c = false := by
    rw [List.head?_reverse]
    exact h.last
  rw [trimBlanks, dropWhile_isBlank_eq_self h.head, dropWhile_isBlank_eq_self hlast,
    List.reverse_reverse]

/-- Blanks in front do not count. -/
theorem trimBlanks_append {blanks : List Char} (h : ∀ c ∈ blanks, isBlank c = true) :
    trimBlanks (blanks ++ text) = trimBlanks text := by
  rw [trimBlanks, trimBlanks, List.dropWhile_append_of_pos h]

/-- No digit is a blank. -/
theorem isBlank_of_isDigit {c : Char} (h : c.isDigit = true) : isBlank c = false := by
  have hdigit : 48 ≤ c.toNat ∧ c.toNat ≤ 57 := by
    simpa [Char.isDigit, UInt32.le_iff_toNat_le] using h
  have hlow : ¬ c.toNat < 0x20 := by omega
  have hhigh : c.toNat < 0x85 := by omega
  simp [isBlank, CodePoints.has, blankRanges, CodePoints.covers]
  omega

end MultiRelease.Text
