import MultiRelease.Proofs.ClassFile.StubRoundTrip
import MultiRelease.Proofs.Module.Derivation
import MultiRelease.Proofs.Module.Rendering

/-!
# Source and compiled form of a module agree

A module declaration is known from its source text or from its compiled class, and it does not
matter which: compiling what was read from a text, and reading the class, gives the same descriptor
(`parseModuleInfo_encode_of_parse`).

A class file spells packages and types with slashes, and reading it back puts dots in place of all
slashes, so a name with a slash of its own would not survive.  No text declares such a name: the
tokens of a text are lexemes, so every name that is read is made of identifiers
(`isWritable_of_parse`), and no identifier holds a slash (`IsName.slash_notMem`).
-/

set_option autoImplicit false

namespace MultiRelease.Declaration

open ClassFile

/-! ## What is read from a text -/

/-- **Whatever is read from a text can be written.** -/
theorem isWritable_of_parse {source : String} {options : ParserOptions} {m : ModuleDescriptor}
    (h : parseDeclaration source options = .ok m) : IsWritable m := by
  rw [parseDeclaration] at h
  split at h
  · cases htokens : tokenize source with
    | error e => rw [htokens] at h; cases h
    | ok tokens =>
      rw [htokens] at h
      have hlexed := isLexeme_of_tokenize htokens
      obtain ⟨unit, -, hwords, rfl⟩ := exists_of_compilationUnit hlexed h
      refine CompilationUnit.isWritable_descriptor ?_
      rw [← hwords, List.all_map]
      exact List.all_eq_true.2 hlexed
  · cases h

/-! ## Names without slashes -/

theorem map_eq_self {α : Type} {f : α → α} {xs : List α} (h : ∀ x ∈ xs, f x = x) : xs.map f = xs :=
  (List.map_congr_left h).trans (List.map_id' xs)

theorem slash_notMem_of_isIdentifier {segment : String} (h : isIdentifier segment = true) :
    '/' ∉ segment.toList := by
  have hpart : isIdentifierPart '/' = false := by decide
  obtain ⟨c, more, htext, hc, hmore⟩ := exists_of_isIdentifier h
  rw [htext, List.mem_cons]
  rintro (rfl | hslash)
  · rw [isIdentifierPart_of_isIdentifierStart hc] at hpart
    cases hpart
  · rw [hmore _ hslash] at hpart
    cases hpart

theorem slash_notMem_intercalate {segments : List String}
    (h : ∀ segment ∈ segments, '/' ∉ segment.toList) : '/' ∉ (".".intercalate segments).toList := by
  match segments with
  | [] => simp
  | [segment] => simpa using h
  | first :: second :: others =>
    obtain ⟨hfirst, hothers⟩ := List.forall_mem_cons.1 h
    have hrest := slash_notMem_intercalate hothers
    rw [String.intercalate_cons_cons, String.toList_append, String.toList_append]
    simp only [List.mem_append, not_or]
    exact ⟨⟨hfirst, by decide⟩, hrest⟩

/-- No name holds a slash. -/
theorem IsName.slash_notMem {text : String} (h : IsName text) : '/' ∉ text.toList := by
  obtain ⟨name, rfl, hsegments⟩ := h
  exact slash_notMem_intercalate fun segment hsegment =>
    slash_notMem_of_isIdentifier (hsegments segment hsegment)

/-- Putting dots in place of slashes leaves a name as it is. -/
theorem IsName.dotted_eq {text : String} (h : IsName text) : dotted text = text := by
  have hsame : ∀ c ∈ text.toList, (if c = '/' then '.' else c) = c := fun c hc =>
    if_neg (ne_of_mem_of_not_mem hc h.slash_notMem)
  rw [dotted, Text.replaceChar, map_eq_self hsame, String.ofList_toList]

/-! ## Compiling and reading back -/

/-- What can be written has dots between the segments of all names already. -/
theorem IsWritable.withDots_eq {m : ModuleDescriptor} (h : IsWritable m) : m.withDots = m := by
  have hdirectives := h.directives
  simp only [directivesOf, List.forall_mem_append, List.forall_mem_map] at hdirectives
  obtain ⟨⟨⟨⟨-, hexports⟩, hopens⟩, huses⟩, hprovides⟩ := hdirectives
  have hexport : ∀ e : PackageExport, IsName e.package → e.withDots = e := fun e he => by
    rw [PackageExport.withDots, he.dotted_eq]
  have hprovision : ∀ p ∈ m.provides, p.withDots = p := fun p hp => by
    obtain ⟨hservice, -, himplementations⟩ := hprovides p hp
    rw [Provision.withDots, hservice.dotted_eq,
      map_eq_self fun i hi => (himplementations i hi).dotted_eq]
  rw [ModuleDescriptor.withDots, map_eq_self fun e he => hexport e (hexports e he).1,
    map_eq_self fun e he => hexport e (hopens e he).1,
    map_eq_self fun service hservice => IsName.dotted_eq (huses service hservice),
    map_eq_self hprovision]

/-- **What is read from a source text is read from its compiled form as well.**  The class is the
one that is written for the module, and the limits are those of its format. -/
theorem parseModuleInfo_encode_of_parse {source : String} {options : ParserOptions}
    {m : ModuleDescriptor} (h : parseDeclaration source options = .ok m)
    (hfits : (Stub.ofModule m).FitsFormat) :
    parseModuleInfo (Stub.ofModule m).encode = .ok m := by
  have htype : parseBinaryType (Stub.ofModule m).encode = .ok (Stub.ofModule m).type :=
    (Stub.reads_encode hfits).run_all
  have hmodule : (Stub.ofModule m).type.module = some m :=
    congrArg some (isWritable_of_parse h).withDots_eq
  exact Except.bind_eq_ok_iff.2 ⟨_, htype, by rw [hmodule]⟩

theorem parseModuleInfo_encode_of_parse_sample :
    parseDeclaration sampleSource (.ofLevel 9) = .ok sampleModule ∧
      (Stub.ofModule sampleModule).FitsFormat ∧
        parseModuleInfo (Stub.ofModule sampleModule).encode = .ok sampleModule := by
  have hparse : parseDeclaration sampleSource (.ofLevel 9) = .ok sampleModule := by
    obtain ⟨tokens, htokens, hwords⟩ :=
      sampleLayout.exists_tokenize (by decide) toList_sampleSource
    have hunit : compilationUnit tokens = .ok sampleUnit.descriptor :=
      compilationUnit_of_words (by decide) (hwords.trans (by decide))
    rw [parseDeclaration, if_pos (by decide), htokens]
    exact hunit
  have hmodule : ∀ m ∈ (Stub.ofModule sampleModule).module, m.FitsFormat := by
    rintro m ⟨⟩
    exact ⟨by decide, by decide, by decide, by decide, by decide, by decide, by decide, by decide⟩
  have hfits : (Stub.ofModule sampleModule).FitsFormat :=
    ⟨by decide, by decide, by decide, hmodule, by decide⟩
  exact ⟨hparse, hfits, parseModuleInfo_encode_of_parse hparse hfits⟩

end MultiRelease.Declaration
