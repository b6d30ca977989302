import MultiRelease.Proofs.Files.Tree
import MultiRelease.Proofs.Platform.AcceptedModules
import MultiRelease.Proofs.Platform.NotedModules

/-!
# What a runtime image holds

A runtime image holds modules with classes in them (`ImageContents`), in whatever form it is stored.
It *represents* the contents (`RuntimeImage.Represents`) if it lists the modules in order and reads
every class as the contents have it, whether the module is there or not.

A question to an image is for a class, in a given module or in any that is accepted, or for the
declarations of all modules (`ImageQuestion`).

* `RuntimeImage.Represents.ask`: a question to an image that represents some contents is answered by
  the contents alone, and the image still represents them afterwards.
* `RuntimeImage.Represents.answers`: so all answers that it ever gives are known, by induction on
  the questions.

An image may open archives to answer a question, and it keeps them open.  That this changes nothing
is said by what the image shows (`RuntimeImage.shown`), which determines what it represents
(`RuntimeImage.Represents.of_shown`).  The two searches, for a class and for declarations, go
through the modules one by one, and so do the lemmas about them.
-/

set_option autoImplicit false

namespace MultiRelease

/-- The names that lead to a class in a module. -/
def IsClassPath (path : List String) : Prop := path ≠ [] ∧ ∀ segment ∈ path, ProperName segment

instance (path : List String) : Decidable (IsClassPath path) :=
  inferInstanceAs (Decidable (path ≠ [] ∧ ∀ segment ∈ path, ProperName segment))

/-- Modules with their classes. -/
structure ImageContents where
  modules : List String
  bytes? : String → List String → Option (List UInt8)
  proper : ∀ module ∈ modules, ProperName module
  placed : ∀ module path bytes, bytes? module path = some bytes →
    module ∈ modules ∧ IsClassPath path

/-- A question to a runtime image: for a class, in a given module or in any that is accepted, or for
the declarations of all modules. -/
inductive ImageQuestion where
  | find (path : List String) (module : Option String) (accepts : String → Bool)
  | infos

/-- The class and the module of a question have names that they can have. -/
def ImageQuestion.Proper : ImageQuestion → Prop
  | find path module _ => IsClassPath path ∧ ∀ name ∈ module, ProperName name
  | infos => True

/-- The answer to a question. -/
inductive ImageAnswer where
  | found (result : Except PlatformError (Option ImageClass))
  | infos (result : Except PlatformError (List (String × List UInt8)))

namespace ImageContents

/-- The names of the modules in order. -/
def names (contents : ImageContents) : List String := sortedTexts contents.modules

/-- The class in the first of some modules that has it. -/
def find? (contents : ImageContents) (path : List String) (modules : List String) :
    Option ImageClass :=
  modules.findSome? fun module => (contents.bytes? module path).map fun bytes => ⟨module, bytes⟩

/-- The declarations of some modules. -/
def infos (contents : ImageContents) (modules : List String) : List (String × List UInt8) :=
  modules.filterMap fun module =>
    (contents.bytes? module [moduleInfoName ++ ".class"]).map fun bytes => (module, bytes)

theorem infos_cons (contents : ImageContents) (module : String) (modules : List String) :
    contents.infos (module :: modules)
      = ((contents.bytes? module [moduleInfoName ++ ".class"]).map fun bytes =>
          (module, bytes)).toList ++ contents.infos modules := by
  rw [infos, List.filterMap_cons]
  cases contents.bytes? module [moduleInfoName ++ ".class"] <;> rfl

/-- The answer that the contents give. -/
def answer (contents : ImageContents) : ImageQuestion → ImageAnswer
  | .find path (some module) _ => .found (.ok (contents.find? path [module]))
  | .find path none accepts => .found (.ok (contents.find? path (contents.names.filter accepts)))
  | .infos => .infos (.ok (contents.infos contents.names))

theorem proper_of_mem_names {contents : ImageContents} {module : String}
    (h : module ∈ contents.names) : ProperName module :=
  contents.proper module (mem_sortedTexts.1 h)

end ImageContents

namespace RuntimeImage

variable {files : Files} {image used : RuntimeImage} {contents : ImageContents}

/-- The answer of an image, which may have opened archives to give it. -/
def ask (files : Files) (image : RuntimeImage) : ImageQuestion → ImageAnswer × RuntimeImage
  | .find path module accepts =>
    let (found, used) := image.findClass files ("/".intercalate path) module accepts
    (.found found, used)
  | .infos =>
    let (infos, used) := image.moduleInfos files
    (.infos infos, used)

/-- The answers to questions that are asked one after the other. -/
def answers (files : Files) : RuntimeImage → List ImageQuestion → List ImageAnswer
  | _, [] => []
  | image, question :: questions =>
    let (answer, used) := image.ask files question
    answer :: answers files used questions

/-- The image has these contents. -/
structure Represents (files : Files) (image : RuntimeImage) (contents : ImageContents) : Prop where
  modules : image.modules = contents.names
  classes : ∀ module path, ProperName module → IsClassPath path →
    (readClass files image module ("/".intercalate path)).1 = .ok (contents.bytes? module path)

/-- What an image represents can be told from what it shows. -/
theorem Represents.of_shown (h : image.Represents files contents)
    (hshown : used.shown files = image.shown files) : used.Represents files contents where
  modules := (Prod.mk.inj hshown).1.trans h.modules
  classes module path hmodule hpath :=
    (readClass_congr hshown module _).trans (h.classes module path hmodule hpath)

/-! ## Searching -/

/-- The first of some modules that has the class is where an image finds it. -/
theorem Represents.firstClass_fst (h : image.Represents files contents) {path : List String}
    (hpath : IsClassPath path) {modules : List String}
    (hproper : ∀ module ∈ modules, ProperName module) :
    (firstClass files image ("/".intercalate path) modules).1
      = .ok (contents.find? path modules) := by
  induction modules with
  | nil => rfl
  | cons module modules ih =>
    obtain ⟨hmodule, hmodules⟩ := List.forall_mem_cons.1 hproper
    rw [firstClass_cons_fst, h.classes module path hmodule hpath, ImageContents.find?,
      List.findSome?_cons]
    cases contents.bytes? module path with
    | none => exact ih hmodules
    | some bytes => rfl

/-- The declarations of one module after the other.  That an image was used makes no difference. -/
theorem moduleInfosOf_cons_fst (image : RuntimeImage) (module : String) (modules : List String) :
    (moduleInfosOf files image (module :: modules)).1
      = (readClass files image module (moduleInfoName ++ ".class")).1.bind fun found =>
          (moduleInfosOf files image modules).1.map fun infos =>
            (found.map fun bytes => (module, bytes)).toList ++ infos := by
  have hused := moduleInfosOf_congr modules
    (shown_readClass files image module (moduleInfoName ++ ".class"))
  rw [moduleInfosOf]
  cases hread : readClass files image module (moduleInfoName ++ ".class") with
  | mk found used =>
    rw [hread] at hused
    cases found with
    | error error => rfl
    | ok found =>
      rw [← hused]
      dsimp only
      cases moduleInfosOf files used modules with
      | mk infos used => cases infos <;> rfl

/-- The declarations of some modules are those that the contents have. -/
theorem Represents.moduleInfosOf_fst (h : image.Represents files contents) {modules : List String}
    (hproper : ∀ module ∈ modules, ProperName module) :
    (moduleInfosOf files image modules).1 = .ok (contents.infos modules) := by
  have hpath : IsClassPath [moduleInfoName ++ ".class"] := by decide
  induction modules with
  | nil => rfl
  | cons module modules ih =>
    obtain ⟨hmodule, hmodules⟩ := List.forall_mem_cons.1 hproper
    have hread := h.classes module _ hmodule hpath
    rw [String.intercalate_singleton] at hread
    rw [moduleInfosOf_cons_fst, hread, ih hmodules, ImageContents.infos_cons]
    rfl

/-! ## Questions -/

/-- A question changes nothing of what an image shows. -/
theorem shown_ask (files : Files) (image : RuntimeImage) (question : ImageQuestion) :
    (image.ask files question).2.shown files = image.shown files := by
  cases question with
  | find path module accepts => exact (findClass_congr rfl _ module accepts).2
  | infos => exact shown_moduleInfosOf files image.modules image

/-- **One question** is answered by the contents, and the image has the same contents afterwards. -/
theorem Represents.ask (h : image.Represents files contents) {question : ImageQuestion}
    (hproper : question.Proper) :
    (image.ask files question).1 = contents.answer question ∧
      (image.ask files question).2.Represents files contents := by
  refine ⟨?_, h.of_shown (shown_ask files image question)⟩
  cases question with
  | find path module accepts =>
    obtain ⟨hpath, hmodule⟩ := hproper
    cases module with
    | some module =>
      exact congrArg ImageAnswer.found
        (h.firstClass_fst hpath (List.forall_mem_singleton.2 (hmodule module rfl)))
    | none =>
      refine congrArg ImageAnswer.found ((h.firstClass_fst hpath fun module hmem => ?_).trans ?_)
      · rw [h.modules] at hmem
        exact ImageContents.proper_of_mem_names (List.mem_of_mem_filter hmem)
      · rw [h.modules]
  | infos =>
    refine congrArg ImageAnswer.infos ((h.moduleInfosOf_fst fun module hmem => ?_).trans ?_)
    · rw [h.modules] at hmem
      exact ImageContents.proper_of_mem_names hmem
    · rw [h.modules]

/-- **All questions**, one after the other, are answered by the contents. -/
theorem Represents.answers {questions : List ImageQuestion}
    (hproper : ∀ question ∈ questions, question.Proper) :
    ∀ {image : RuntimeImage}, image.Represents files contents →
      image.answers files questions = questions.map contents.answer := by
  induction questions with
  | nil => exact fun _ => rfl
  | cons question questions ih =>
    intro image h
    obtain ⟨hquestion, hquestions⟩ := List.forall_mem_cons.1 hproper
    obtain ⟨hanswer, hused⟩ := h.ask hquestion
    rw [RuntimeImage.answers, List.map_cons, ← hanswer, ← ih hquestions hused]

end RuntimeImage

end MultiRelease
