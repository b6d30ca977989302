import MultiRelease.Proofs.Except
import MultiRelease.Proofs.Module.Lexemes

/-!
# The states of a declaration

What may follow the words that have been read of a compilation unit is told by a `State`, and
`State.next?` tells which state the next word leads to, if it may follow at all.  The states look at
one word at a time and keep no stack; only the parentheses among the arguments of an annotation are
counted.

No state is a dead end: from each of them words lead to the end of a unit (`State.isAlive`).  So
words can be completed to a unit exactly if they lead to a state.  The words that complete them are
chosen one state after the other, in the order in which a unit is written but from its end: the
brace that closes the body first, then a semicolon, then a name, for whatever purpose it is read
(`State.isAlive_segment`, `State.isAlive_name`), and last what stands in front of the declaration.

The words that complete a unit are lexemes, so that they can be written into a text.  That the
parser goes through these states is the matter of `Following`.
-/

set_option autoImplicit false

namespace MultiRelease.Declaration

/-! ## States -/

/-- What a name is for. -/
inductive NameRole where
  | annotationType
  | module
  | required
  | package
  | target
  | used
  | service
  | implementation
deriving Repr, DecidableEq

/-- What some words of a compilation unit leave to follow. -/
inductive State where
  /-- After the imports. -/
  | imports
  /-- In an import. -/
  | imported
  /-- In the arguments of an annotation, with so many parentheses open inside them. -/
  | arguments (depth : Nat)
  /-- After the arguments of an annotation. -/
  | annotated
  /-- After the word `open`. -/
  | opened
  /-- Before a segment of a name. -/
  | name (role : NameRole)
  /-- After a segment of a name. -/
  | segment (role : NameRole)
  /-- After the word `requires`. -/
  | requires
  /-- After a word that is a modifier or the start of a name. -/
  | modifier
  /-- Before a directive. -/
  | body
  /-- After the module body. -/
  | done
deriving Repr, DecidableEq

namespace State

/-- The state after a word of the given kind, where no other may follow. -/
def only (kind : TokenKind) (state : State) (word : Word) : Option State :=
  if word.kind = kind then some state else none

/-- The state after the word `module`. -/
def declared? (word : Word) : Option State :=
  if word = .identifier "module" then some (name .module) else none

/-- The state after a word that starts the declaration. -/
def started? (word : Word) : Option State :=
  if word = .identifier "open" then some opened else declared? word

/-- The state after a word that starts an annotation or the declaration. -/
def marked? (word : Word) : Option State :=
  if word.kind = .at then some (name .annotationType) else started? word

/-- The state after a word that starts a directive. -/
def directed? (word : Word) : Option State :=
  if word.text = "requires" then some requires
  else if word.text = "exports" ∨ word.text = "opens" then some (name .package)
  else if word.text = "uses" then some (name .used)
  else if word.text = "provides" then some (name .service)
  else none

/-- The state after a word that starts the name of a requirement or is a modifier in front of it. -/
def required? (word : Word) : Option State :=
  if word = Modifier.transitive.word ∨ word = Modifier.static.word then some modifier
  else only .identifier (segment .required) word

/-- The state after a word that follows a name. -/
def afterName? : NameRole → Word → Option State
  | .annotationType, word => if word.kind = .leftParen then some (arguments 0) else marked? word
  | .module, word => only .leftBrace body word
  | .required, word => only .semicolon body word
  | .package, word =>
    if word = .identifier "to" then some (name .target) else only .semicolon body word
  | .target, word => if word.kind = .comma then some (name .target) else only .semicolon body word
  | .used, word => only .semicolon body word
  | .service, word => if word = .identifier "with" then some (name .implementation) else none
  | .implementation, word =>
    if word.kind = .comma then some (name .implementation) else only .semicolon body word

/-- The state after a word that follows a segment of a name. -/
def afterSegment? (role : NameRole) (word : Word) : Option State :=
  if word.kind = .dot then some (name role) else afterName? role word

/-- The state after one more word. -/
def next? : State → Word → Option State
  | imports, word => if word = .identifier "import" then some imported else marked? word
  | imported, word => if word.kind = .semicolon then some imports else some imported
  | arguments depth, word =>
    if word.kind = .leftParen then some (arguments (depth + 1))
    else if word.kind = .rightParen then
      if depth = 0 then some annotated else some (arguments (depth - 1))
    else some (arguments depth)
  | annotated, word => marked? word
  | opened, word => declared? word
  | name role, word => only .identifier (segment role) word
  | segment role, word => afterSegment? role word
  | requires, word => required? word
  | modifier, word =>
    if word.kind = .identifier then required? word else afterSegment? .required word
  | body, word => if word.kind = .rightBrace then some done else directed? word
  | done, _ => none

/-- The state after some more words. -/
def run (state : State) (words : List Word) : Option State := words.foldlM next? state

/-- Words may be read in two parts. -/
theorem run_append (state : State) (front back : List Word) :
    state.run (front ++ back) = (state.run front).bind fun between => between.run back :=
  List.foldlM_append

theorem run_cons {state next : State} {word : Word} (h : state.next? word = some next)
    (words : List Word) : state.run (word :: words) = next.run words := by
  rw [run, List.foldlM_cons, h]
  rfl

/-! ## Every state is alive -/

/-- Words that can be written lead from the state to the end of a unit. -/
def IsAlive (state : State) : Prop :=
  ∃ words : List Word, words.all (·.isLexeme) = true ∧ state.run words = some done

/-- A state from which a word leads to a state that is alive is alive. -/
theorem IsAlive.of_next {state next : State} (word : Word) (hnext : next.IsAlive)
    (h : state.next? word = some next := by rfl)
    (hword : word.isLexeme = true := by decide) : state.IsAlive := by
  obtain ⟨words, hwords, hrun⟩ := hnext
  exact ⟨word :: words, by rw [List.all_cons, hword, hwords, Bool.true_and],
    (run_cons h words).trans hrun⟩

theorem isAlive_done : done.IsAlive := ⟨[], rfl, rfl⟩

/-- A body may be closed. -/
theorem isAlive_body : body.IsAlive := isAlive_done.of_next .rightBrace

/-- After every name there are words that may follow, and after the name of a service another name
is one of them. -/
theorem isAlive_segment (role : NameRole) : (segment role).IsAlive := by
  have hmodule : (segment .module).IsAlive := isAlive_body.of_next .leftBrace
  have himplementation : (segment .implementation).IsAlive := isAlive_body.of_next .semicolon
  cases role with
  | annotationType =>
    have hname : (name .module).IsAlive := hmodule.of_next (.identifier "m")
    exact hname.of_next (.identifier "module")
  | module => exact hmodule
  | required => exact isAlive_body.of_next .semicolon
  | package => exact isAlive_body.of_next .semicolon
  | target => exact isAlive_body.of_next .semicolon
  | used => exact isAlive_body.of_next .semicolon
  | service =>
    have hname : (name .implementation).IsAlive := himplementation.of_next (.identifier "a")
    exact hname.of_next (.identifier "with")
  | implementation => exact himplementation

theorem isAlive_name (role : NameRole) : (name role).IsAlive :=
  (isAlive_segment role).of_next (.identifier "a")

/-- Parentheses may be closed one by one, by induction on how many are open. -/
theorem isAlive_arguments (depth : Nat) : (arguments depth).IsAlive := by
  have hannotated : annotated.IsAlive := (isAlive_name .module).of_next (.identifier "module")
  induction depth with
  | zero => exact hannotated.of_next .rightParen
  | succ depth ih => exact ih.of_next .rightParen

/-- **From every state words lead to the end of a unit.** -/
theorem isAlive (state : State) : state.IsAlive := by
  have himports : imports.IsAlive := (isAlive_name .module).of_next (.identifier "module")
  cases state with
  | imports => exact himports
  | imported => exact himports.of_next .semicolon
  | arguments depth => exact isAlive_arguments depth
  | annotated => exact (isAlive_name .module).of_next (.identifier "module")
  | opened => exact (isAlive_name .module).of_next (.identifier "module")
  | name role => exact isAlive_name role
  | segment role => exact isAlive_segment role
  | requires => exact (isAlive_segment .required).of_next (.identifier "a")
  | modifier => exact isAlive_body.of_next .semicolon
  | body => exact isAlive_body
  | done => exact isAlive_done

end State

end MultiRelease.Declaration
