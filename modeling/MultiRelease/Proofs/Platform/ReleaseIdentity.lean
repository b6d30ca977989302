import MultiRelease.Platform.ReleaseLibrary
import MultiRelease.Proofs.Files.Order
import MultiRelease.Proofs.Platform.Standing
import MultiRelease.Proofs.Release.Compliance

/-!
# Platform libraries of a release, opened and compared

The library of a release is opened with the value of `--release` for a compliance level, and with
the number of this value (`ReleaseLibrary.openArchive_eq_ok_iff`).  The check of a configuration
asks for the number of the level itself.  `ReleaseLibrary.opened_with_number_iff` says where the two
part: the value is trimmed once more, so that blanks behind the old prefix count only for the check.

Libraries are compared by archive and value, and not by number.  So the same value means the same
number, and values of digits that write the same number are the same up to leading zeros
(`ReleaseLibrary.same_iff_of_openArchive`).
-/

set_option autoImplicit false

namespace MultiRelease

open Text

variable {files files' : Files} {path path' : Path} {rules rules' : Option AccessRules}
  {annotationPath annotationPath' : Option Path} {compliance compliance' : String}

/-- A platform library is opened from every file that has a place for the home of its JDK. -/
theorem PlatformLibrary.exists_openArchive_iff :
    (∃ library, openArchive files path rules annotationPath = .ok library) ↔
      files.isFile path = true ∧ (path.parent?.bind Path.parent?).isSome = true := by
  rw [openArchive]
  cases files.isFile path with
  | false => simp
  | true => cases path.parent?.bind Path.parent? <;> simp

theorem PlatformLibrary.archivePath_of_openArchive {library : PlatformLibrary}
    (h : openArchive files path rules annotationPath = .ok library) :
    library.archivePath = path := by
  unfold openArchive at h
  split at h
  · split at h
    · cases h
    · cases h
      rfl
  · cases h

namespace ReleaseLibrary

theorem openArchive_eq_ok_iff {entry : ReleaseLibrary} :
    openArchive files path rules annotationPath compliance = .ok entry ↔
      ∃ option number library, releaseOption compliance = .ok option ∧
        complianceRelease option = .ok number ∧
        PlatformLibrary.openArchive files path rules annotationPath = .ok library ∧
        entry = { library, option, number } := by
  rw [openArchive]
  cases hoption : releaseOption compliance with
  | error error => simp
  | ok option =>
    cases hnumber : complianceRelease option with
    | error error => simp [hnumber]
    | ok number =>
      cases hlibrary : PlatformLibrary.openArchive files path rules annotationPath with
      | error error => simp [hnumber]
      | ok library => simp [hnumber, eq_comm]

/-- **What is opened, and as which release.**  The file has to be one from which a platform library
is opened.  The level is one that the check of a configuration accepts, and the release is what the
check finds; or else the check refuses the level, and it hides another one behind blanks. -/
theorem opened_with_number_iff {number : UInt16} :
    (∃ entry, openArchive files path rules annotationPath compliance = .ok entry ∧
        entry.number = number) ↔
      (files.isFile path = true ∧ (path.parent?.bind Path.parent?).isSome = true) ∧
        (complianceRelease compliance = .ok number ∨
          complianceRelease compliance = .error (.invalid compliance) ∧
            HidesLevel compliance number) := by
  rw [← @PlatformLibrary.exists_openArchive_iff files path rules annotationPath,
    ← exists_option_iff]
  constructor
  · rintro ⟨entry, hentry, rfl⟩
    obtain ⟨option, number, library, hoption, hnumber, hlibrary, rfl⟩ :=
      openArchive_eq_ok_iff.1 hentry
    exact ⟨⟨library, hlibrary⟩, option, hoption, hnumber⟩
  · rintro ⟨⟨library, hlibrary⟩, option, hoption, hnumber⟩
    exact ⟨{ library, option, number },
      openArchive_eq_ok_iff.2 ⟨option, number, library, hoption, hnumber, hlibrary, rfl⟩, rfl⟩

/-- **A level with a blank behind the old prefix is opened, and the check refuses it.** -/
theorem exists_opened_and_refused :
    (∃ entry, openArchive sampleJdk ⟨"jdk/lib/jrt-fs.jar"⟩ none none "1. 8" = .ok entry ∧
      entry.number = 8) ∧ complianceRelease "1. 8" = .error (.invalid "1. 8") := by
  have hoption : releaseOption "1. 8" = .ok " 8" := by decide
  have hnumber : complianceRelease " 8" = .ok 8 := by decide
  refine ⟨⟨_, openArchive_eq_ok_iff.2 ⟨_, _, _, hoption, hnumber, openArchive_sampleJdk, rfl⟩, rfl⟩,
    ?_⟩
  decide

/-! ## Which libraries are the same -/

theorem same_eq_true_iff {a b : ReleaseLibrary} : a.same b = true ↔
    a.option = b.option ∧ a.library.archivePath.same b.library.archivePath = true := by
  rw [same, Bool.and_eq_true, decide_eq_true_iff]

/-- Libraries are filed under the same place exactly if they are the same. -/
theorem same_iff_identity {a b : ReleaseLibrary} : a.same b = true ↔ a.identity = b.identity := by
  rw [same_eq_true_iff, Path.same_iff, identity, identity, Prod.mk.injEq, and_comm]

/-- A value of digits writes its number, which is not zero. -/
theorem writesDigits_of_digits {option : String} {number : UInt16}
    (hoption : releaseOption compliance = .ok option)
    (hnumber : complianceRelease option = .ok number) (hdigits : ∀ c ∈ option.toList, c.isDigit = true) :
    WritesDigits option.toList number.toNat ∧ 0 < number.toNat := by
  obtain ⟨-, hclamped⟩ := releaseOption_eq_ok_iff.1 hoption
  have hdot : '.' ∉ option.toList := fun hmem => absurd (hdigits '.' hmem) (by decide)
  have htrimmed : IsTrimmed option.toList :=
    ⟨fun c hc => isBlank_of_isDigit (hdigits c (List.mem_of_mem_head? hc)),
      fun c hc => isBlank_of_isDigit (hdigits c (List.mem_of_mem_getLast? hc))⟩
  have hself : clamped option = option := by rw [← hclamped, clamped_clamped]
  have hsign : ∀ digits, option.toList ≠ '+' :: digits := fun digits htext =>
    absurd (hdigits '+' (htext ▸ List.mem_cons_self)) (by decide)
  have hfixed := clamped_minorOf_trim hdot htrimmed
  rw [hself] at hfixed
  rw [complianceRelease_eq_ok_iff_number16?, hfixed] at hnumber
  constructor
  · exact (number16?_iff.1 hnumber).resolve_right fun ⟨digits, htext, _⟩ => hsign digits htext
  · rw [← hself] at hnumber
    obtain ⟨digits, value, -, -, ⟨-, hvalue⟩ | ⟨htext, -⟩⟩ := number16?_clamped_iff.1 hnumber
    · rw [hvalue]
      exact Nat.lt_of_lt_of_le (by decide) (Nat.le_max_left 6 value)
    · exact absurd htext (hsign digits)

/-- The zeros at the front of a text. -/
def leadingZeros (text : String) : List Char := text.toList.takeWhile (· = '0')

/-- **Libraries of one archive are the same exactly if their values are**, and then they are filed
under the same place and their numbers are the same.  Where the values are digits, they are the same
exactly if the numbers are and if as many zeros stand in front. -/
theorem same_iff_of_openArchive {a b : ReleaseLibrary}
    (ha : openArchive files path rules annotationPath compliance = .ok a)
    (hb : openArchive files' path' rules' annotationPath' compliance' = .ok b)
    (hpath : path.same path' = true) :
    (a.same b = true ↔ a.option = b.option) ∧ (a.same b = true ↔ a.identity = b.identity) ∧
      (a.same b = true → a.number = b.number) ∧
      ((∀ c ∈ a.option.toList, c.isDigit = true) → (∀ c ∈ b.option.toList, c.isDigit = true) →
        (a.same b = true ↔
          a.number = b.number ∧ leadingZeros a.option = leadingZeros b.option)) := by
  obtain ⟨option, number, library, hoption, hnumber, hlibrary, rfl⟩ := openArchive_eq_ok_iff.1 ha
  obtain ⟨option', number', library', hoption', hnumber', hlibrary', rfl⟩ :=
    openArchive_eq_ok_iff.1 hb
  obtain rfl := PlatformLibrary.archivePath_of_openArchive hlibrary
  obtain rfl := PlatformLibrary.archivePath_of_openArchive hlibrary'
  rw [← same_iff_identity, same_eq_true_iff, and_iff_left hpath]
  refine ⟨.rfl, .rfl, ?_, fun hdigits hdigits' => ?_⟩
  · rintro rfl
    exact Except.ok.inj (hnumber.symm.trans hnumber')
  · obtain ⟨hwrites, hpositive⟩ := writesDigits_of_digits hoption hnumber hdigits
    obtain ⟨hwrites', -⟩ := writesDigits_of_digits hoption' hnumber' hdigits'
    have hvalue := hwrites.ofDigitChars
    rw [← String.toList_inj, digits_eq_iff hdigits hdigits' (hvalue ▸ hpositive), hvalue,
      hwrites'.ofDigitChars, UInt16.toNat_inj]
    rfl

/-- The library of a JDK for release 8, with the value as it is written. -/
def writtenEight (option : String) : ReleaseLibrary where
  library := sampleLibrary
  option
  number := 8

theorem openArchive_writtenEight (compliance option : String)
    (hoption : releaseOption compliance = .ok option)
    (hnumber : complianceRelease option = .ok 8) :
    openArchive sampleJdk ⟨"jdk/lib/jrt-fs.jar"⟩ none none compliance
      = .ok (writtenEight option) :=
  openArchive_eq_ok_iff.2 ⟨option, 8, sampleLibrary, hoption, hnumber, openArchive_sampleJdk, rfl⟩

theorem same_iff_of_openArchive_sample :
    openArchive sampleJdk ⟨"jdk/lib/jrt-fs.jar"⟩ none none "1.08" = .ok (writtenEight "08") ∧
      openArchive sampleJdk ⟨"jdk/lib/jrt-fs.jar"⟩ none none " 08" = .ok (writtenEight "08") ∧
      Path.same ⟨"jdk/lib/jrt-fs.jar"⟩ ⟨"jdk/lib/jrt-fs.jar"⟩ = true ∧
      (∀ c ∈ (writtenEight "08").option.toList, c.isDigit = true) ∧
      (writtenEight "08").same (writtenEight "08") = true := by
  have ha := openArchive_writtenEight "1.08" "08" (by decide) (by decide)
  have hb := openArchive_writtenEight " 08" "08" (by decide) (by decide)
  have hpath : Path.same ⟨"jdk/lib/jrt-fs.jar"⟩ ⟨"jdk/lib/jrt-fs.jar"⟩ = true := by
    decide
  have hdigits : ∀ c ∈ (writtenEight "08").option.toList, c.isDigit = true :=
    List.all_eq_true.1 (by decide)
  obtain ⟨-, -, -, hsame⟩ := same_iff_of_openArchive ha hb hpath
  exact ⟨ha, hb, hpath, hdigits, (hsame hdigits hdigits).2 ⟨rfl, rfl⟩⟩

/-- **Two libraries of one archive have the same number, and they are not the same**, since one
value is written with a zero in front. -/
theorem exists_same_number_not_same :
    openArchive sampleJdk ⟨"jdk/lib/jrt-fs.jar"⟩ none none "8" = .ok (writtenEight "8") ∧
      openArchive sampleJdk ⟨"jdk/lib/jrt-fs.jar"⟩ none none "08" = .ok (writtenEight "08") ∧
      (writtenEight "8").number = (writtenEight "08").number ∧
      (writtenEight "8").same (writtenEight "08") = false ∧
      (writtenEight "8").identity ≠ (writtenEight "08").identity := by
  refine ⟨openArchive_writtenEight "8" "8" (by decide) (by decide),
    openArchive_writtenEight "08" "08" (by decide) (by decide), rfl,
    by decide, ?_⟩
  decide

end ReleaseLibrary

end MultiRelease
