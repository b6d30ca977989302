import MultiRelease.Proofs.Except
import MultiRelease.Proofs.Text.Blank
import MultiRelease.Proofs.Text.Cutting
import MultiRelease.Proofs.Text.Number
import MultiRelease.Release.Compliance

/-!
# Which compliance levels are accepted

A level is accepted in two steps, and they do not look at the same texts.  The value of `--release`
is found from what stands behind the old prefix (`minorOf`), where only plain digits are compared
with the oldest supported release (`clamped`).  The value is then read as a number, and the reader
also takes a sign.

`complianceRelease_eq_ok_iff` says what comes out: a run of digits names its number, but no release
below the oldest supported one, and digits behind a sign name their number whatever it is
(`exists_signed_level`).  `WritesLevel` is the shape that a level has to have for this.  It mentions
digits, the sign and the prefix, and not the functions that look for them.

The proof goes along the two steps.

* `releaseOption_eq_ok_iff`: the value of the option is what stands behind the prefix, clamped, and
  there is one if this is not empty and has no dot.
* `number16?_clamped_iff`: what is read as a number after clamping.  Digits are clamped before they
  are read; digits behind a sign are not, since they are no plain digits.
* `complianceRelease_eq_ok_iff_number16?`: the two together.

The last part is about finding the value and then asking for its number as if it were a level, as a
platform library does when it is opened.  The value is trimmed and clamped again, which mostly
changes nothing (`clamped_minorOf_trim`).  The exception is a value that starts with a blank: the
level `1. 8` has the value ` 8`, which is no number as it stands and becomes one when it is trimmed
(`HidesLevel`).  `exists_option_iff` says that this is the only difference between finding the
number at once and finding it by way of the value.
-/

set_option autoImplicit false

namespace MultiRelease

open Text

/-! ## The value of the option -/

/-- The level without the old prefix, if it has it. -/
def minorOf (level : String) : String := (withoutPrefix? "1." level).getD level

/-- The number of a text that consists of digits only. -/
def digitsNumber? (digits : String) : Option UInt16 :=
  if digits ≠ "" ∧ digits.toList.all isDecimalDigit then number16? digits else none

/-- The oldest supported release for digits that write an older one, and otherwise the text. -/
def clamped (minor : String) : String :=
  if (digitsNumber? minor).any (· ≤ 5) then toString oldestSymbolRelease.toNat else minor

theorem minorOf_append (minor : String) : minorOf ("1." ++ minor) = minor := by
  rw [minorOf, withoutPrefix?_eq_some_iff.2 rfl, Option.getD_some]

theorem minorOf_cases (level : String) :
    level = "1." ++ minorOf level ∨ withoutPrefix? "1." level = none ∧ minorOf level = level := by
  cases h : withoutPrefix? "1." level with
  | none => exact .inr ⟨rfl, by rw [minorOf, h, Option.getD_none]⟩
  | some minor =>
    obtain rfl := withoutPrefix?_eq_some_iff.1 h
    exact .inl (by rw [minorOf_append])

/-- A text without dots has no prefix. -/
theorem minorOf_of_notMem {level : String} (h : '.' ∉ level.toList) : minorOf level = level := by
  rcases minorOf_cases level with hlevel | hlevel
  · rw [hlevel] at h
    simp [String.toList_append] at h
  · exact hlevel.2

/-- The text is a run of decimal digits that writes the value. -/
structure WritesDigits (digits : List Char) (value : Nat) : Prop where
  nonempty : digits ≠ []
  isDigit : ∀ c ∈ digits, c.isDigit = true
  ofDigitChars : Nat.ofDigitChars 10 digits 0 = value

theorem digitsNumber?_eq_some_iff {digits : String} {number : UInt16} :
    digitsNumber? digits = some number ↔ WritesDigits digits.toList number.toNat := by
  have hempty : digits ≠ "" ↔ digits.toList ≠ [] := by rw [ne_eq, ne_eq, String.toList_eq_nil_iff]
  rw [digitsNumber?, Option.ite_none_right_eq_some, number16?_eq_some_iff, hempty, List.all_eq_true]
  constructor
  · rintro ⟨⟨hne, hall⟩, sign, rest, htext, rfl | rfl, -, -, hvalue⟩
    · rw [htext] at hall ⊢
      exact ⟨htext ▸ hne, hall, hvalue⟩
    · exact absurd (hall '+' (htext ▸ List.mem_cons_self)) (by decide)
  · rintro ⟨hne, hall, hvalue⟩
    exact ⟨⟨hne, hall⟩, [], digits.toList, rfl, .inl rfl, hne, hall, hvalue⟩

/-- Digits are a text without dots. -/
theorem plain_of_digitsNumber? {minor : String} {number : UInt16}
    (h : digitsNumber? minor = some number) : minor ≠ "" ∧ '.' ∉ minor.toList := by
  obtain ⟨hne, hall, -⟩ := digitsNumber?_eq_some_iff.1 h
  exact ⟨fun hempty => hne (by rw [hempty]; rfl), fun hdot => absurd (hall '.' hdot) (by decide)⟩

theorem clamped_of_le {minor : String} {number : UInt16} (h : digitsNumber? minor = some number)
    (hle : number ≤ 5) : clamped minor = "6" := by
  rw [clamped, h, Option.any_some, if_pos (decide_eq_true hle)]
  rfl

theorem clamped_of_lt {minor : String}
    (h : ∀ number, digitsNumber? minor = some number → 5 < number) : clamped minor = minor := by
  rw [clamped, if_neg]
  rw [Option.any_eq_true]
  rintro ⟨number, hnumber, hle⟩
  exact absurd (of_decide_eq_true hle) (UInt16.not_le.2 (h number hnumber))

/-- **The value of the option is what stands behind the prefix, clamped.** -/
theorem trimmedReleaseOption_eq_ok_iff {level option : String} :
    trimmedReleaseOption level = .ok option ↔
      (minorOf level ≠ "" ∧ '.' ∉ (minorOf level).toList) ∧ clamped (minorOf level) = option := by
  have hnumber : complianceNumber? level = digitsNumber? (minorOf level) := rfl
  rw [trimmedReleaseOption, hnumber, clamped]
  by_cases hempty : level = ""
  · subst hempty
    exact iff_of_false (by simp) fun h => h.1.1 rfl
  rw [if_neg hempty]
  by_cases hclamp : (digitsNumber? (minorOf level)).any (· ≤ 5) = true
  · obtain ⟨number, hdigits, -⟩ := Option.any_eq_true _ _ |>.1 hclamp
    rw [if_pos hclamp, if_pos hclamp, Except.ok.injEq]
    exact ⟨fun h => ⟨plain_of_digitsNumber? hdigits, h⟩, fun h => h.2⟩
  rw [if_neg hclamp, if_neg hclamp]
  rcases minorOf_cases level with hlevel | ⟨hlegacy, hminor⟩
  · rw [withoutPrefix?_eq_some_iff.2 hlevel]
    dsimp only
    split
    · rename_i hrefused
      exact iff_of_false (by simp) fun h => hrefused.elim h.1.1 h.1.2
    · rename_i haccepted
      rw [not_or] at haccepted
      rw [Except.ok.injEq, and_iff_right haccepted]
  · rw [hlegacy, hminor]
    dsimp only
    split
    · rename_i hdot
      exact iff_of_false (by simp) fun h => h.1.2 hdot
    · rename_i hdot
      rw [Except.ok.injEq, and_iff_right ⟨hempty, hdot⟩]

theorem releaseOption_eq_ok_iff {compliance option : String} :
    releaseOption compliance = .ok option ↔
      (minorOf (trim compliance) ≠ "" ∧ '.' ∉ (minorOf (trim compliance)).toList) ∧
        clamped (minorOf (trim compliance)) = option :=
  trimmedReleaseOption_eq_ok_iff

/-! ## The number of the release -/

/-- What is read as a number: digits, with a sign in front or without. -/
theorem number16?_iff {text : String} {number : UInt16} :
    number16? text = some number ↔ WritesDigits text.toList number.toNat ∨
      ∃ digits, text.toList = '+' :: digits ∧ WritesDigits digits number.toNat := by
  rw [number16?_eq_some_iff]
  constructor
  · rintro ⟨sign, digits, htext, rfl | rfl, hne, hall, hvalue⟩
    · exact .inl (htext ▸ ⟨hne, hall, hvalue⟩)
    · exact .inr ⟨digits, htext, hne, hall, hvalue⟩
  · rintro (⟨hne, hall, hvalue⟩ | ⟨digits, htext, hne, hall, hvalue⟩)
    · exact ⟨[], text.toList, rfl, .inl rfl, hne, hall, hvalue⟩
    · exact ⟨['+'], digits, htext, .inr rfl, hne, hall, hvalue⟩

/-- A text with a sign is not clamped. -/
theorem clamped_of_sign {minor : String} {digits : List Char} (h : minor.toList = '+' :: digits) :
    clamped minor = minor := by
  refine clamped_of_lt fun number hnumber => ?_
  have hsign := (digitsNumber?_eq_some_iff.1 hnumber).isDigit '+' (h ▸ List.mem_cons_self)
  exact absurd hsign (by decide)

/-- Digits are clamped before they are read as a number. -/
theorem number16?_clamped_of_digits {minor : String} {value : Nat} {number : UInt16}
    (h : WritesDigits minor.toList value) (hrange : value ≤ 65535)
    (hnumber : number.toNat = max 6 value) : number16? (clamped minor) = some number := by
  have hvalue : value.toUInt16.toNat = value := UInt16.toNat_ofNat_of_lt' (Nat.lt_succ_of_le hrange)
  have hread : digitsNumber? minor = some value.toUInt16 :=
    digitsNumber?_eq_some_iff.2 (hvalue.symm ▸ h)
  by_cases hle : value.toUInt16 ≤ 5
  · have hsmall : value ≤ 5 := hvalue ▸ UInt16.le_iff_toNat_le.1 hle
    have hsix : number.toNat = (6 : UInt16).toNat := hnumber.trans (max_eq_left (by omega))
    rw [clamped_of_le hread hle, UInt16.toNat_inj.1 hsix]
    rfl
  · have hlarge : 5 < value := hvalue ▸ UInt16.lt_iff_toNat_lt.1 (UInt16.not_le.1 hle)
    rw [clamped_of_lt fun other hother => by
      obtain rfl := Option.some_inj.1 (hread.symm.trans hother)
      exact UInt16.not_le.1 hle]
    refine number16?_iff.2 (.inl ?_)
    rw [hnumber, max_eq_right (by omega)]
    exact h

/-- **What is read as a number after clamping**: digits, as what they are clamped to, and digits
behind a sign, as what they are. -/
theorem number16?_clamped_iff {minor : String} {number : UInt16} :
    number16? (clamped minor) = some number ↔ ∃ digits value, WritesDigits digits value ∧
      value ≤ 65535 ∧ (minor.toList = digits ∧ number.toNat = max 6 value ∨
        minor.toList = '+' :: digits ∧ number.toNat = value) := by
  constructor
  · intro h
    by_cases hclamp : ∃ value, digitsNumber? minor = some value ∧ value ≤ 5
    · obtain ⟨value, hvalue, hle⟩ := hclamp
      rw [clamped_of_le hvalue hle] at h
      obtain rfl : 6 = number := Option.some_inj.1 h
      have hle : value.toNat ≤ 5 := UInt16.le_iff_toNat_le.1 hle
      exact ⟨minor.toList, value.toNat, digitsNumber?_eq_some_iff.1 hvalue, by omega,
        .inl ⟨rfl, by rw [max_eq_left (by omega)]; rfl⟩⟩
    · rw [clamped_of_lt fun value hvalue =>
        UInt16.not_le.1 fun hle => hclamp ⟨value, hvalue, hle⟩] at h
      have hrange := number.toNat_lt
      rcases number16?_iff.1 h with hdigits | ⟨digits, htext, hdigits⟩
      · have hlarge : 5 < number := UInt16.not_le.1 fun hle =>
          hclamp ⟨number, digitsNumber?_eq_some_iff.2 hdigits, hle⟩
        have hlarge : 5 < number.toNat := UInt16.lt_iff_toNat_lt.1 hlarge
        exact ⟨minor.toList, number.toNat, hdigits, by omega,
          .inl ⟨rfl, (max_eq_right (by omega)).symm⟩⟩
      · exact ⟨digits, number.toNat, hdigits, by omega, .inr ⟨htext, rfl⟩⟩
  · rintro ⟨digits, value, hdigits, hrange, ⟨rfl, hnumber⟩ | ⟨htext, rfl⟩⟩
    · exact number16?_clamped_of_digits hdigits hrange hnumber
    · rw [clamped_of_sign htext]
      exact number16?_iff.2 (.inr ⟨digits, htext, hdigits⟩)

/-- What is read as a number has no dot. -/
theorem plain_of_number16?_clamped {minor : String} {number : UInt16}
    (h : number16? (clamped minor) = some number) : minor ≠ "" ∧ '.' ∉ minor.toList := by
  obtain ⟨digits, value, hdigits, -, htext⟩ := number16?_clamped_iff.1 h
  have hdot : '.' ∉ digits := fun hmem => absurd (hdigits.isDigit '.' hmem) (by decide)
  rcases htext with ⟨rfl, -⟩ | ⟨htext, -⟩
  · exact ⟨fun hempty => hdigits.nonempty (by rw [hempty]; rfl), hdot⟩
  · rw [htext]
    exact ⟨fun hempty => by simp [hempty] at htext, by simpa using hdot⟩

/-- **The number of a level is read from the clamped value.** -/
theorem complianceRelease_eq_ok_iff_number16? {compliance : String} {number : UInt16} :
    complianceRelease compliance = .ok number ↔
      number16? (clamped (minorOf (trim compliance))) = some number := by
  rw [complianceRelease, Except.bind_eq_ok_iff]
  constructor
  · rintro ⟨option, hoption, hnumber⟩
    obtain ⟨-, rfl⟩ := releaseOption_eq_ok_iff.1 hoption
    split at hnumber
    · rename_i hread
      rw [hread, Except.ok.inj hnumber]
    · cases hnumber
  · intro hnumber
    refine ⟨_, releaseOption_eq_ok_iff.2 ⟨plain_of_number16?_clamped hnumber, rfl⟩, ?_⟩
    rw [hnumber]

/-- The level is a run of digits that writes the value, behind a sign or none and, in front of both,
the old prefix or none. -/
def WritesLevel (sign level : List Char) (value : Nat) : Prop :=
  ∃ legacy digits, level = legacy ++ sign ++ digits ∧ (legacy = [] ∨ legacy = ['1', '.']) ∧
    WritesDigits digits value

theorem writesLevel_iff {sign : List Char} (hsign : '.' ∉ sign) {level : String} {value : Nat} :
    WritesLevel sign level.toList value ↔
      ∃ digits, (minorOf level).toList = sign ++ digits ∧ WritesDigits digits value := by
  constructor
  · rintro ⟨legacy, digits, hlevel, rfl | rfl, hdigits⟩
    · rw [List.nil_append] at hlevel
      have hdot : '.' ∉ level.toList := by
        rw [hlevel, List.mem_append, not_or]
        exact ⟨hsign, fun hmem => absurd (hdigits.isDigit '.' hmem) (by decide)⟩
      exact ⟨digits, by rw [minorOf_of_notMem hdot, hlevel], hdigits⟩
    · have htext : level = "1." ++ String.ofList (sign ++ digits) := by
        rw [← String.toList_inj, hlevel, String.toList_append, List.append_assoc,
          String.toList_ofList, String.toList_ofList]
      exact ⟨digits, by rw [htext, minorOf_append, String.toList_ofList], hdigits⟩
  · rintro ⟨digits, hminor, hdigits⟩
    rcases minorOf_cases level with hlevel | ⟨-, hlevel⟩
    · refine ⟨['1', '.'], digits, ?_, .inr rfl, hdigits⟩
      rw [List.append_assoc, ← hminor, hlevel, String.toList_append, minorOf_append]
      rfl
    · exact ⟨[], digits, by rw [List.nil_append, ← hminor, hlevel], .inl rfl, hdigits⟩

/-- **Which levels are accepted, and as which release.**  Digits, possibly behind the old prefix,
name the release that they write, but never one below the oldest supported release; digits behind a
sign are accepted as well, and they name the release that they write in any case. -/
theorem complianceRelease_eq_ok_iff {compliance : String} {number : UInt16} :
    complianceRelease compliance = .ok number ↔ ∃ value ≤ 65535,
      WritesLevel [] (trim compliance).toList value ∧
          number.toNat = max oldestSymbolRelease.toNat value ∨
        WritesLevel ['+'] (trim compliance).toList value ∧ number.toNat = value := by
  have hplus : '.' ∉ ['+'] := by decide
  rw [complianceRelease_eq_ok_iff_number16?, number16?_clamped_iff]
  simp only [writesLevel_iff List.not_mem_nil, writesLevel_iff hplus]
  constructor
  · rintro ⟨digits, value, hdigits, hrange, ⟨htext, hnumber⟩ | ⟨htext, hnumber⟩⟩
    · exact ⟨value, hrange, .inl ⟨⟨digits, htext, hdigits⟩, hnumber⟩⟩
    · exact ⟨value, hrange, .inr ⟨⟨digits, htext, hdigits⟩, hnumber⟩⟩
  · rintro ⟨value, hrange,
      ⟨⟨digits, htext, hdigits⟩, hnumber⟩ | ⟨⟨digits, htext, hdigits⟩, hnumber⟩⟩
    · exact ⟨digits, value, hdigits, hrange, .inl ⟨htext, hnumber⟩⟩
    · exact ⟨digits, value, hdigits, hrange, .inr ⟨htext, hnumber⟩⟩

example : complianceRelease " 1.8" = .ok 8 := by decide

/-- **A level with a sign is no run of digits, and it is accepted as a release that is too old.** -/
theorem exists_signed_level : ∃ compliance number, complianceRelease compliance = .ok number ∧
    (∀ value, ¬ WritesLevel [] (trim compliance).toList value) ∧ number < oldestSymbolRelease := by
  refine ⟨"+5", 5, by decide, ?_, by decide⟩
  rintro value ⟨legacy, digits, hlevel, hlegacy, hdigits⟩
  have htext : ['+', '5'] = legacy ++ [] ++ digits := hlevel
  rcases hlegacy with rfl | rfl
  · obtain rfl : ['+', '5'] = digits := htext
    exact absurd (hdigits.isDigit '+' List.mem_cons_self) (by decide)
  · exact absurd (List.cons.inj htext).1 (by decide)

/-! ## Finding the value again -/

theorem toList_trim (text : String) : (trim text).toList = trimBlanks text.toList :=
  String.toList_ofList

theorem trim_eq_self {text : String} (h : IsTrimmed text.toList) : trim text = text := by
  rw [trim, trimBlanks_of_isTrimmed h, String.ofList_toList]

/-- What stands behind the prefix ends as the level does. -/
theorem isBlank_getLast_minorOf (compliance : String) :
    ∀ c ∈ (minorOf (trim compliance)).toList.getLast?, isBlank c = false := by
  intro c hc
  have hlast := (isTrimmed_trimBlanks compliance.toList).last c
  rw [← toList_trim] at hlast
  rcases minorOf_cases (trim compliance) with hlevel | ⟨-, hlevel⟩
  · refine hlast ?_
    rw [hlevel, String.toList_append, List.getLast?_append, hc]
    rfl
  · rw [hlevel] at hc
    exact hlast hc

theorem clamped_cases (minor : String) : clamped minor = "6" ∨ clamped minor = minor := by
  rw [clamped]
  split
  · exact .inl rfl
  · exact .inr rfl

theorem clamped_clamped (minor : String) : clamped (clamped minor) = clamped minor := by
  rcases clamped_cases minor with h | h
  · rw [h]
    rfl
  · rw [h, h]

/-- **The value of the option is its own value** unless it starts with a blank. -/
theorem clamped_minorOf_trim {minor : String} (hplain : '.' ∉ minor.toList)
    (htrimmed : IsTrimmed minor.toList) :
    clamped (minorOf (trim (clamped minor))) = clamped minor := by
  have hsix : IsTrimmed "6".toList := by
    constructor
    · rintro _ ⟨⟩
      decide
    · rintro _ ⟨⟩
      decide
  have hclamped : IsTrimmed (clamped minor).toList ∧ '.' ∉ (clamped minor).toList := by
    rcases clamped_cases minor with h | h
    · rw [h]
      exact ⟨hsix, by decide⟩
    · rw [h]
      exact ⟨htrimmed, hplain⟩
  rw [trim_eq_self hclamped.1, minorOf_of_notMem hclamped.2, clamped_clamped]

/-- Behind the old prefix there are blanks, and behind them a level without the prefix that is
accepted as the release. -/
def HidesLevel (compliance : String) (number : UInt16) : Prop :=
  ∃ blanks level : String, trim compliance = "1." ++ blanks ++ level ∧ blanks ≠ "" ∧
    (∀ c ∈ blanks.toList, isBlank c = true) ∧ '.' ∉ level.toList ∧
    complianceRelease level = .ok number

/-- What is read as a number starts with no blank. -/
theorem isBlank_head_of_number16?_clamped {minor : String} {number : UInt16}
    (h : number16? (clamped minor) = some number) :
    ∀ c ∈ minor.toList.head?, isBlank c = false := by
  obtain ⟨digits, value, hdigits, -, ⟨rfl, -⟩ | ⟨htext, -⟩⟩ := number16?_clamped_iff.1 h
  · exact fun c hc => isBlank_of_isDigit (hdigits.isDigit c (List.mem_of_mem_head? hc))
  · rw [htext]
    rintro _ ⟨⟩
    decide

theorem trim_append {blanks : String} (h : ∀ c ∈ blanks.toList, isBlank c = true)
    (level : String) : trim (blanks ++ level) = trim level := by
  rw [trim, trim, String.toList_append, trimBlanks_append h]

/-- A text that starts with a blank is neither clamped nor read as a number. -/
theorem number16?_of_isBlank {minor : String} {c : Char} (hc : c ∈ minor.toList.head?)
    (hblank : isBlank c = true) : clamped minor = minor ∧ number16? minor = none := by
  have hread : number16? (clamped minor) = none := by
    rw [Option.eq_none_iff_forall_ne_some]
    intro number hnumber
    have hhead := isBlank_head_of_number16?_clamped hnumber c hc
    rw [hblank] at hhead
    cases hhead
  rcases clamped_cases minor with hclamped | hclamped
  · rw [hclamped] at hread
    cases hread
  · exact ⟨hclamped, hclamped ▸ hread⟩

/-- A text that starts with a blank is cut behind its blanks. -/
theorem exists_blanks {text : String} {c : Char} (hc : c ∈ text.toList.head?)
    (hblank : isBlank c = true) : ∃ blanks level, text = blanks ++ level ∧ blanks ≠ "" ∧
      ∀ c ∈ blanks.toList, isBlank c = true := by
  refine ⟨String.ofList (text.toList.takeWhile isBlank),
    String.ofList (text.toList.dropWhile isBlank), ?_, ?_, ?_⟩
  · rw [← String.ofList_append, List.takeWhile_append_dropWhile, String.ofList_toList]
  · obtain ⟨rest, htext⟩ := List.head?_eq_some_iff.1 hc
    rw [htext, List.takeWhile_cons_of_pos hblank]
    simp
  · rw [String.toList_ofList]
    exact fun c hc => List.mem_takeWhile_imp hc

theorem complianceRelease_append {blanks : String} (h : ∀ c ∈ blanks.toList, isBlank c = true)
    {level : String} {number : UInt16} :
    complianceRelease (blanks ++ level) = .ok number ↔ complianceRelease level = .ok number := by
  rw [complianceRelease_eq_ok_iff_number16?, complianceRelease_eq_ok_iff_number16?, trim_append h]

/-- A value that starts with a blank is no number as it stands, and it hides a level if its own
value is one. -/
theorem hidesLevel_of_isBlank {compliance : String} {number : UInt16}
    (hplain : minorOf (trim compliance) ≠ "" ∧ '.' ∉ (minorOf (trim compliance)).toList) {c : Char}
    (hc : c ∈ (minorOf (trim compliance)).toList.head?) (hblank : isBlank c = true)
    (hnumber : complianceRelease (minorOf (trim compliance)) = .ok number) :
    complianceRelease compliance = .error (.invalid compliance) ∧
      HidesLevel compliance number := by
  obtain ⟨hclamped, hread⟩ := number16?_of_isBlank hc hblank
  have hoption := releaseOption_eq_ok_iff.2 ⟨hplain, hclamped⟩
  refine ⟨by rw [complianceRelease, hoption]; simp only [bind, Except.bind, hread], ?_⟩
  rcases minorOf_cases (trim compliance) with hlevel | ⟨-, hlevel⟩
  · obtain ⟨blanks, level, htext, hne, hblanks⟩ := exists_blanks hc hblank
    rw [htext, ← String.append_assoc] at hlevel
    rw [htext, complianceRelease_append hblanks] at hnumber
    rw [htext, String.toList_append, List.mem_append, not_or] at hplain
    exact ⟨blanks, level, hlevel, hne, hblanks, hplain.2.2, hnumber⟩
  · -- a level without the prefix has been trimmed
    rw [hlevel, toList_trim] at hc
    rw [(isTrimmed_trimBlanks _).head c hc] at hblank
    cases hblank

/-- A level that hides behind blanks is found in the end. -/
theorem exists_option_of_hidesLevel {compliance : String} {number : UInt16}
    (h : HidesLevel compliance number) :
    ∃ option, releaseOption compliance = .ok option ∧ complianceRelease option = .ok number := by
  obtain ⟨blanks, level, htrim, hne, hblanks, hdot, hlevel⟩ := h
  have hminor : minorOf (trim compliance) = blanks ++ level := by
    rw [htrim, String.append_assoc, minorOf_append]
  obtain ⟨c, rest, hc⟩ := List.exists_cons_of_ne_nil (mt String.toList_eq_nil_iff.1 hne)
  have hhead : c ∈ (blanks ++ level).toList.head? := by rw [String.toList_append, hc]; rfl
  have hclamped := (number16?_of_isBlank hhead (hblanks c (hc ▸ List.mem_cons_self))).1
  have hplain : '.' ∉ (blanks ++ level).toList := by
    rw [String.toList_append, List.mem_append, not_or]
    exact ⟨fun hmem => absurd (hblanks '.' hmem) (by decide), hdot⟩
  refine ⟨blanks ++ level, releaseOption_eq_ok_iff.2 ?_,
    (complianceRelease_append hblanks).2 hlevel⟩
  have hnonempty : blanks ++ level ≠ "" := by
    intro hempty
    rw [hempty] at hhead
    cases hhead
  rw [hminor]
  exact ⟨⟨hnonempty, hplain⟩, hclamped⟩

/-- **Who finds the value and then its number accepts what is accepted as it stands**, as the same
release, and also a level that hides behind blanks. -/
theorem exists_option_iff {compliance : String} {number : UInt16} :
    (∃ option, releaseOption compliance = .ok option ∧ complianceRelease option = .ok number) ↔
      complianceRelease compliance = .ok number ∨
        complianceRelease compliance = .error (.invalid compliance) ∧
          HidesLevel compliance number := by
  have hlast := isBlank_getLast_minorOf compliance
  constructor
  · rintro ⟨option, hoption, hnumber⟩
    obtain ⟨hplain, rfl⟩ := releaseOption_eq_ok_iff.1 hoption
    by_cases hhead : ∃ c ∈ (minorOf (trim compliance)).toList.head?, isBlank c = true
    · obtain ⟨c, hc, hblank⟩ := hhead
      rw [(number16?_of_isBlank hc hblank).1] at hnumber
      exact .inr (hidesLevel_of_isBlank hplain hc hblank hnumber)
    · have hhead : ∀ c ∈ (minorOf (trim compliance)).toList.head?, isBlank c = false := by
        simpa using hhead
      rw [complianceRelease_eq_ok_iff_number16?,
        clamped_minorOf_trim hplain.2 ⟨hhead, hlast⟩] at hnumber
      exact .inl (complianceRelease_eq_ok_iff_number16?.2 hnumber)
  · rintro (h | ⟨-, h⟩)
    · have hread := complianceRelease_eq_ok_iff_number16?.1 h
      have hplain := plain_of_number16?_clamped hread
      refine ⟨_, releaseOption_eq_ok_iff.2 ⟨hplain, rfl⟩, ?_⟩
      rw [complianceRelease_eq_ok_iff_number16?, clamped_minorOf_trim hplain.2
        ⟨isBlank_head_of_number16?_clamped hread, hlast⟩, hread]
    · exact exists_option_of_hidesLevel h

end MultiRelease
