import MultiRelease.Proofs.Module.Derivation
import MultiRelease.Proofs.Module.States

/-!
# The parser follows the states

Each function of the parser, given tokens in some state, either takes tokens that lead to another
state, or meets the end of the input in a state that is not the last one, or stops at a token for
which no state comes next (`Follows`).  This holds of every list of tokens, for the functions one by
one (`follows_qualifiedName`, `follows_nameList`, `follows_directive`, `follows_pastAnnotations` and
so on) and in the end for the whole unit (`follows_compilationUnit`).

* `Follows` has one constructor for each outcome, so that results and errors are carried through the
  parser by the same lemmas.  `Leads.follows` lets a function go on from where tokens have led, and
  `Follows.bind` puts two functions together at the state between them.
* The parser looks ahead and the states do not.  After a name, for instance, the parser has seen
  that no dot follows, and after `requires transitive` it has seen whether an identifier does.  What
  has been seen is kept as the steps that are left to the state (`ActsLike`): after a name the steps
  of `afterName?`, whatever the state is, since the step for a dot is ruled out.
* Where the parser repeats something, the induction is on how it goes on, and each round ends in the
  state in which it began: `body` for directives, `imports` for imports, and for modifiers one of
  two states that act alike there (`AtRequired`).

The lookahead also shows in errors.  The token that is reported is the one at which the parser
stops, and `Follows` says of exactly this token that no state comes next for it.
-/

set_option autoImplicit false

namespace MultiRelease.Declaration

open State

variable {α β : Type} {s s' between : State} {tokens rest after : List Token} {t : Token}
  {what : String}

/-! ## Tokens that lead from state to state -/

/-- The tokens in front of the others lead from one state to another. -/
def Leads (s : State) (tokens : List Token) (s' : State) (after : List Token) : Prop :=
  ∃ words, Takes words tokens after ∧ s.run words = some s'

theorem Leads.refl (s : State) (tokens : List Token) : Leads s tokens s tokens :=
  ⟨[], .nil tokens, rfl⟩

/-- Tokens may be read in two parts. -/
theorem Leads.trans (h : Leads s tokens between rest) (hrest : Leads between rest s' after) :
    Leads s tokens s' after := by
  obtain ⟨words, hwords, hrun⟩ := h
  obtain ⟨others, hothers, hrun'⟩ := hrest
  exact ⟨words ++ others, hwords.append hothers, by rw [run_append, hrun]; exact hrun'⟩

theorem Leads.of_next (h : s.next? (wordOf t) = some s') : Leads s (t :: rest) s' rest :=
  ⟨[wordOf t], .cons rfl (.nil rest), run_cons h []⟩

/-! ## Functions that follow the states -/

/-- **What is made of the tokens, told by the states.**  The tokens that are taken lead to a state
that meets the condition, together with what is returned; or the input has ended, and the unit is
not done; or no state comes next for the token that is not expected.  What remains after a result is
told by `left`. -/
inductive Follows (left : α → List Token) (post : State → α → Prop) (s : State)
    (tokens : List Token) : Except SourceError α → Prop where
  | ok {s' : State} {a : α} (h : Leads s tokens s' (left a)) (hpost : post s' a) :
      Follows left post s tokens (.ok a)
  | ending {s' : State} (what : String) (h : Leads s tokens s' []) (hopen : s' ≠ .done) :
      Follows left post s tokens (.error (.unexpectedEnd what))
  | missing {s' : State} (h : Leads s tokens s' []) (hopen : s' ≠ .done) :
      Follows left post s tokens (.error .missingDeclaration)
  | token {s' : State} {t : Token} {rest : List Token} (what : String)
      (h : Leads s tokens s' (t :: rest)) (hstuck : s'.next? (wordOf t) = none) :
      Follows left post s tokens (.error (.unexpectedToken what t.lexeme t.place))

/-- The state that is reached, whatever is returned. -/
def Reaches (state s : State) (_ : α) : Prop := s = state

variable {left : α → List Token} {left' : β → List Token} {post : State → α → Prop}
  {post' : State → β → Prop} {x : Except SourceError α}

theorem Follows.exists_leads {a : α} (h : Follows left post s tokens x) (hx : x = .ok a) :
    ∃ s', Leads s tokens s' (left a) ∧ post s' a := by
  subst hx
  cases h with
  | ok h hpost => exact ⟨_, h, hpost⟩

/-- An error remains what it is, whatever was going to be returned. -/
theorem Follows.error {e : SourceError} (h : Follows left post s tokens x) (hx : x = .error e) :
    Follows left' post' s tokens (.error e) := by
  subst hx
  cases h with
  | ending what h hopen => exact .ending what h hopen
  | missing h hopen => exact .missing h hopen
  | token what h hstuck => exact .token what h hstuck

/-- Reading goes on from the state that was reached. -/
theorem Leads.follows (h : Leads s tokens between rest) (hrest : Follows left post between rest x) :
    Follows left post s tokens x := by
  cases hrest with
  | ok hrest hpost => exact .ok (h.trans hrest) hpost
  | ending what hrest hopen => exact .ending what (h.trans hrest) hopen
  | missing hrest hopen => exact .missing (h.trans hrest) hopen
  | token what hrest hstuck => exact .token what (h.trans hrest) hstuck

/-- **Two functions follow the states one after the other**, if the second one does so from every
state that the first may reach. -/
theorem Follows.bind {f : α → Except SourceError β} (h : Follows left post s tokens x)
    (hf : ∀ s' a, post s' a → Follows left' post' s' (left a) (f a)) :
    Follows left' post' s tokens (x >>= f) := by
  cases x with
  | error e => exact h.error rfl
  | ok a =>
    obtain ⟨s', hleads, hpost⟩ := h.exists_leads rfl
    exact hleads.follows (hf s' a hpost)

/-- What is returned may be changed. -/
theorem Follows.map {f : α → β} (h : Follows left post s tokens x)
    (hf : ∀ s' a, post s' a → left' (f a) = left a ∧ post' s' (f a)) :
    Follows left' post' s tokens (x.map f) := by
  cases x with
  | error e => exact h.error rfl
  | ok a =>
    obtain ⟨s', hleads, hpost⟩ := h.exists_leads rfl
    obtain ⟨hleft, hpost'⟩ := hf s' a hpost
    exact .ok (hleft ▸ hleads) hpost'

/-! ## The first token -/

variable {next next' : Word → Option State}

/-- With these tokens to come, the steps of the state are those that `next` tells. -/
structure ActsLike (next : Word → Option State) (s : State) (tokens : List Token) : Prop where
  unfinished : s ≠ .done
  first : ∀ t ∈ tokens.head?, s.next? (wordOf t) = next (wordOf t)

theorem ActsLike.of_eq (hopen : s ≠ .done) (h : s.next? = next) : ActsLike next s tokens :=
  ⟨hopen, fun _ _ => h ▸ rfl⟩

theorem ActsLike.nil (hopen : s ≠ .done) : ActsLike next s [] := ⟨hopen, nofun⟩

theorem ActsLike.of_nil (h : ActsLike next s tokens) : ActsLike next' s [] := .nil h.unfinished

/-- The first token tells that other steps are left. -/
theorem ActsLike.of_cons (h : ActsLike next s (t :: rest))
    (hnext : next (wordOf t) = next' (wordOf t)) : ActsLike next' s (t :: rest) := by
  refine ⟨h.unfinished, ?_⟩
  rintro _ ⟨⟩
  exact (h.first t rfl).trans hnext

theorem ActsLike.step (h : ActsLike next s (t :: rest)) (hnext : next (wordOf t) = some s') :
    Leads s (t :: rest) s' rest :=
  .of_next ((h.first t rfl).trans hnext)

/-- A token for which no step is left is the one that is not expected. -/
theorem ActsLike.stuck (h : ActsLike next s (t :: rest)) (hnext : next (wordOf t) = none) :
    Follows left post s (t :: rest) (.error (unexpected what (t :: rest))) :=
  .token what (.refl s _) ((h.first t rfl).trans hnext)

theorem ActsLike.ending (h : ActsLike next s []) :
    Follows left post s [] (.error (unexpected what [])) :=
  .ending what (.refl s []) h.unfinished

/-- One token of a given kind is all that may come next. -/
theorem follows_expect {kind : TokenKind} (h : ActsLike (only kind s') s tokens) :
    Follows id (Reaches s') s tokens (expect kind what tokens) := by
  cases tokens with
  | nil => exact h.ending
  | cons t rest =>
    rw [expect]
    split
    · rename_i hkind
      exact .ok (h.step (if_pos hkind)) rfl
    · rename_i hkind
      exact h.stuck (if_neg hkind)

theorem isWord_iff {text : String} : isWord text t = true ↔ wordOf t = .identifier text := by
  simp [isWord, wordOf, Word.identifier]

/-! ## Names -/

/-- In front of a name the state takes an identifier and nothing else, and then it acts like any
other after a segment. -/
structure AtName (role : NameRole) (s : State) (tokens : List Token) : Prop where
  unfinished : s ≠ .done
  stuck : ∀ t ∈ tokens.head?, t.kind ≠ .identifier → s.next? (wordOf t) = none
  first : ∀ t rest, tokens = t :: rest → t.kind = .identifier →
    ∃ s', s.next? (wordOf t) = some s' ∧ ActsLike (afterSegment? role) s' rest

theorem atName (role : NameRole) (tokens : List Token) : AtName role (name role) tokens where
  unfinished := nofun
  stuck _ _ h := if_neg h
  first _ _ _ h := ⟨segment role, if_pos h, .of_eq nofun rfl⟩

/-- The steps that are left to the state after what was read. -/
def Leaves (next : Word → Option State) (s : State) (found : α × List Token) : Prop :=
  ActsLike next s found.2

/-- A name ends where no dot follows. -/
theorem follows_nameSegments {role : NameRole} (h : AtName role s tokens) :
    Follows Prod.snd (Leaves (afterName? role)) s tokens (nameSegments tokens) := by
  fun_induction nameSegments tokens generalizing s with
  | case1 => exact .ending _ (.refl s []) h.unfinished
  | case2 t ht =>
    obtain ⟨s', hnext, hrest⟩ := h.first t [] rfl ht
    exact .ok (.of_next hnext) hrest.of_nil
  | case3 t ht => exact .token _ (.refl s _) (h.stuck t rfl ht)
  | case4 t d rest ht hd segments after hrest ih =>
    obtain ⟨s', hnext, hdot⟩ := h.first t (d :: rest) rfl ht
    obtain ⟨s'', hleads, hafter⟩ := (ih (atName role rest)).exists_leads hrest
    exact .ok ((Leads.of_next hnext).trans ((hdot.step (if_pos hd)).trans hleads)) hafter
  | case5 t d rest ht hd e hrest ih =>
    obtain ⟨s', hnext, hdot⟩ := h.first t (d :: rest) rfl ht
    have hleads := (Leads.of_next hnext).trans (hdot.step (if_pos hd))
    exact hleads.follows ((ih (atName role rest)).error hrest)
  | case6 t d rest ht hd =>
    obtain ⟨s', hnext, hafter⟩ := h.first t (d :: rest) rfl ht
    exact .ok (.of_next hnext) (hafter.of_cons (if_neg hd))
  | case7 t d rest ht => exact .token _ (.refl s _) (h.stuck t rfl ht)

theorem qualifiedName_eq_map (tokens : List Token) : qualifiedName tokens =
    (nameSegments tokens).map fun (segments, after) => (".".intercalate segments, after) := by
  rw [qualifiedName]
  cases nameSegments tokens <;> rfl

theorem follows_qualifiedName {role : NameRole} (h : AtName role s tokens) :
    Follows Prod.snd (Leaves (afterName? role)) s tokens (qualifiedName tokens) := by
  rw [qualifiedName_eq_map]
  exact (follows_nameSegments h).map fun _ _ hafter => ⟨rfl, hafter⟩

/-- A list of names goes on after a comma, and otherwise a semicolon has to follow. -/
theorem follows_nameList {role : NameRole}
    (hrole : ∀ word, afterName? role word
      = if word.kind = .comma then some (name role) else only .semicolon body word)
    (tokens : List Token) :
    Follows Prod.snd (Leaves (only .semicolon body)) (name role) tokens (nameList tokens) := by
  have hname : ∀ tokens, Follows Prod.snd (Leaves (afterName? role)) (name role) tokens
      (qualifiedName tokens) := fun tokens => follows_qualifiedName (atName role tokens)
  fun_induction nameList tokens with
  | case1 tokens e hread => exact (hname tokens).error hread
  | case2 tokens text hread =>
    obtain ⟨s', hleads, hafter⟩ := (hname tokens).exists_leads hread
    exact .ok hleads hafter.of_nil
  | case3 tokens text t rest hread ht texts after hrest ih =>
    obtain ⟨s', hleads, hafter⟩ := (hname tokens).exists_leads hread
    obtain ⟨s'', hothers, hend⟩ := ih.exists_leads hrest
    have hcomma := hafter.step ((hrole _).trans (if_pos ht))
    exact .ok ((hleads.trans hcomma).trans hothers) hend
  | case4 tokens text t rest hread ht e hrest ih =>
    obtain ⟨s', hleads, hafter⟩ := (hname tokens).exists_leads hread
    have hcomma := hafter.step ((hrole _).trans (if_pos ht))
    exact (hleads.trans hcomma).follows (ih.error hrest)
  | case5 tokens text t rest hread ht =>
    obtain ⟨s', hleads, hafter⟩ := (hname tokens).exists_leads hread
    exact .ok hleads (hafter.of_cons ((hrole _).trans (if_neg ht)))

/-! ## Directives -/

/-- A directive ends with its semicolon. -/
theorem follows_semicolon (h : ActsLike (only .semicolon body) s tokens) (a : α) :
    Follows Prod.snd (Reaches body) s tokens
      (do let rest ← expect .semicolon "';'" tokens; .ok (a, rest)) :=
  (follows_expect h).bind fun s' rest hbody => .ok (.refl s' rest) hbody

theorem follows_usedService (tokens : List Token) :
    Follows Prod.snd (Reaches body) (name .used) tokens (usedService tokens) :=
  (follows_qualifiedName (atName .used tokens)).bind fun _ _ hend => follows_semicolon hend _

theorem follows_packageExport (tokens : List Token) :
    Follows Prod.snd (Reaches body) (name .package) tokens (packageExport tokens) := by
  refine (follows_qualifiedName (atName .package tokens)).bind fun s' ⟨package, rest⟩ hafter => ?_
  cases rest with
  | nil => exact follows_semicolon hafter.of_nil ⟨package, []⟩
  | cons t rest =>
    dsimp only
    split
    · rename_i ht
      refine (hafter.step (if_pos (isWord_iff.1 ht))).follows ?_
      exact (follows_nameList (fun _ => rfl) rest).bind fun _ _ hend => follows_semicolon hend _
    · rename_i ht
      exact follows_semicolon (hafter.of_cons (if_neg (mt isWord_iff.2 ht))) _

theorem follows_provision (tokens : List Token) :
    Follows Prod.snd (Reaches body) (name .service) tokens (provision tokens) := by
  refine (follows_qualifiedName (atName .service tokens)).bind fun s' ⟨service, rest⟩ hafter => ?_
  cases rest with
  | nil => exact hafter.ending
  | cons t rest =>
    dsimp only
    split
    · rename_i ht
      refine (hafter.step (if_pos (isWord_iff.1 ht))).follows ?_
      exact (follows_nameList (fun _ => rfl) rest).bind fun _ _ hend => follows_semicolon hend _
    · rename_i ht
      exact hafter.stuck (if_neg (mt isWord_iff.2 ht))

/-- In front of a modifier or of the name of a requirement.  After a modifier, an identifier has
been seen. -/
def AtRequired (s : State) (tokens : List Token) : Prop :=
  s = requires ∨ s = modifier ∧ ∀ t ∈ tokens.head?, t.kind = .identifier

theorem AtRequired.actsLike (h : AtRequired s tokens) : ActsLike required? s tokens := by
  rcases h with rfl | ⟨rfl, hidentifier⟩
  · exact .of_eq (by decide) rfl
  · exact ⟨by decide, fun t ht => if_pos (hidentifier t ht)⟩

theorem AtRequired.of_modifier (h : t.kind = .identifier) : AtRequired modifier (t :: rest) := by
  refine .inr ⟨rfl, ?_⟩
  rintro _ ⟨⟩
  exact h

/-- What could be a modifier starts the name if no identifier follows. -/
theorem AtRequired.atName (h : AtRequired s tokens)
    (hlast : ∀ t d rest, tokens = t :: d :: rest → d.kind = .identifier →
      ¬ (wordOf t = Modifier.transitive.word ∨ wordOf t = Modifier.static.word)) :
    AtName .required s tokens where
  unfinished := h.actsLike.unfinished
  stuck t ht hkind := by
    have hword : ¬ (wordOf t = Modifier.transitive.word ∨ wordOf t = Modifier.static.word) := by
      rintro (hword | hword)
      · exact hkind (congrArg Word.kind hword)
      · exact hkind (congrArg Word.kind hword)
    rw [h.actsLike.first t ht, required?, if_neg hword]
    exact if_neg hkind
  first t rest htokens hkind := by
    subst htokens
    rw [h.actsLike.first t rfl, required?]
    split
    · rename_i hword
      -- the states part only for an identifier, and none follows
      refine ⟨modifier, rfl, by decide, fun d hd => if_neg fun hidentifier => ?_⟩
      obtain ⟨others, rfl⟩ := List.head?_eq_some_iff.1 hd
      exact hlast t d others rfl hidentifier hword
    · exact ⟨segment .required, if_pos hkind, .of_eq nofun rfl⟩

/-- The modifiers and the name after them.  By induction on how the modifiers are read: each of them
leads to the same state again, until no identifier follows. -/
theorem follows_modifiers {transitive isStatic : Bool} (h : AtRequired s tokens) :
    Follows Prod.snd (Leaves (afterName? .required)) s tokens
      (qualifiedName (modifiers transitive isStatic tokens).2) := by
  fun_induction modifiers transitive isStatic tokens generalizing s with
  | case1 transitive isStatic t next rest ht ih =>
    rw [Bool.and_eq_true, decide_eq_true_eq, isWord_iff] at ht
    exact (h.actsLike.step (if_pos (.inl ht.2))).follows (ih (.of_modifier ht.1))
  | case2 transitive isStatic t next rest _ ht ih =>
    rw [Bool.and_eq_true, decide_eq_true_eq, isWord_iff] at ht
    exact (h.actsLike.step (if_pos (.inr ht.2))).follows (ih (.of_modifier ht.1))
  | case3 transitive isStatic t next rest htransitive hstatic =>
    rw [Bool.and_eq_true, decide_eq_true_eq, isWord_iff] at htransitive hstatic
    refine follows_qualifiedName (h.atName ?_)
    rintro _ _ _ ⟨⟩ hkind (hword | hword)
    · exact htransitive ⟨hkind, hword⟩
    · exact hstatic ⟨hkind, hword⟩
  | case4 transitive isStatic tokens hshort =>
    exact follows_qualifiedName (h.atName fun t d rest htokens => absurd htokens (hshort t d rest))

theorem follows_requirement (tokens : List Token) :
    Follows Prod.snd (Reaches body) requires tokens (requirement tokens) :=
  (follows_modifiers (.inl rfl)).bind fun _ _ hend => follows_semicolon hend _

theorem follows_keyword {f : α → Directive} {x : Except SourceError (α × List Token)}
    (ht : t.kind ≠ .rightBrace) (hnext : directed? (wordOf t) = some s)
    (h : Follows Prod.snd (Reaches body) s rest x) :
    Follows Prod.snd (Reaches body) body (t :: rest) (x.map fun (a, after) => (f a, after)) := by
  have hleads : Leads body (t :: rest) s rest := .of_next ((if_neg ht).trans hnext)
  exact hleads.follows (h.map fun _ _ hbody => ⟨rfl, hbody⟩)

/-- The keyword tells which directive follows. -/
theorem follows_directive (ht : t.kind ≠ .rightBrace) (rest : List Token) :
    Follows Prod.snd (Reaches body) body (t :: rest) (directive t rest) := by
  have hdirected : ∀ {text : String}, t.lexeme = text →
      directed? (wordOf t) = directed? ⟨t.kind, text⟩ := by
    rintro _ rfl
    rfl
  rw [directive]
  split
  · rename_i hword
    exact follows_keyword ht (hdirected hword) (follows_requirement rest)
  split
  · rename_i hword
    exact follows_keyword ht (hdirected hword) (follows_packageExport rest)
  split
  · rename_i hword
    exact follows_keyword ht (hdirected hword) (follows_packageExport rest)
  split
  · rename_i hword
    exact follows_keyword ht (hdirected hword) (follows_usedService rest)
  split
  · rename_i hword
    exact follows_keyword ht (hdirected hword) (follows_provision rest)
  · rename_i hrequires hexports hopens huses hprovides
    have hnone : directed? (wordOf t) = none := by
      simp [directed?, wordOf, hrequires, hexports, hopens, huses, hprovides]
    exact .token _ (.refl body _) ((if_neg ht).trans hnone)

/-- Directives follow until the brace that closes the body, by induction on how they are read. -/
theorem follows_directives (tokens : List Token) :
    Follows Prod.snd (Reaches done) body tokens (directives tokens) := by
  fun_induction directives tokens with
  | case1 => exact .ending _ (.refl body []) (by decide)
  | case2 t rest ht => exact .ok (.of_next (if_pos ht)) rfl
  | case3 t rest ht e hd => exact (follows_directive ht rest).error hd
  | case4 t rest ht d after hd ds after' hrest ih =>
    obtain ⟨s', hleads, rfl⟩ := (follows_directive ht rest).exists_leads hd
    obtain ⟨s', hothers, rfl⟩ := ih.exists_leads hrest
    exact .ok (hleads.trans hothers) rfl
  | case5 t rest ht d after hd e hrest ih =>
    obtain ⟨s', hleads, rfl⟩ := (follows_directive ht rest).exists_leads hd
    exact hleads.follows (ih.error hrest)

/-! ## Imports and annotations -/

/-- What is found, or else the input has ended. -/
def orEnd (what : String) : Option α → Except SourceError α
  | some a => .ok a
  | none => .error (.unexpectedEnd what)

/-- An import goes up to its first semicolon. -/
theorem follows_pastSemicolon? (what : String) (tokens : List Token) :
    Follows id (Reaches imports) imported tokens (orEnd what (pastSemicolon? tokens)) := by
  fun_induction pastSemicolon? tokens with
  | case1 => exact .ending what (.refl imported []) (by decide)
  | case2 t rest ht => exact .ok (.of_next (if_pos ht)) rfl
  | case3 t rest ht ih =>
    have hleads : Leads imported (t :: rest) imported rest := .of_next (if_neg ht)
    exact hleads.follows ih

/-- Arguments go up to the parenthesis that closes them. -/
theorem follows_pastParens? (what : String) (depth : Nat) (tokens : List Token) :
    Follows id (Reaches annotated) (arguments depth) tokens
      (orEnd what (pastParens? (depth + 1) tokens)) := by
  induction tokens generalizing depth with
  | nil => exact .ending what (.refl (arguments depth) []) nofun
  | cons t rest ih =>
    rw [pastParens?]
    split
    · rename_i hleft
      have hleads : Leads (arguments depth) (t :: rest) (arguments (depth + 1)) rest :=
        .of_next (if_pos hleft)
      exact hleads.follows (ih (depth + 1))
    rename_i hleft
    split
    · rename_i hright
      have hnext : (arguments depth).next? (wordOf t)
          = if depth = 0 then some annotated else some (arguments (depth - 1)) :=
        (if_neg hleft).trans (if_pos hright)
      cases depth with
      | zero => exact .ok (.of_next hnext) rfl
      | succ depth => exact (Leads.of_next hnext).follows (ih depth)
    · rename_i hright
      have hleads : Leads (arguments depth) (t :: rest) (arguments depth) rest :=
        .of_next ((if_neg hleft).trans (if_neg hright))
      exact hleads.follows (ih depth)

theorem follows_pastImports (tokens : List Token) :
    Follows id (ActsLike marked?) imports tokens (pastImports tokens) := by
  fun_induction pastImports tokens with
  | case1 => exact .ok (.refl imports []) (.nil (by decide))
  | case2 t rest ht after hpast ih =>
    have himport : Leads imports (t :: rest) imported rest := .of_next (if_pos (isWord_iff.1 ht))
    obtain ⟨s', hleads, rfl⟩ :=
      (follows_pastSemicolon? "';'" rest).exists_leads (congrArg (orEnd _) hpast)
    exact (himport.trans hleads).follows ih
  | case3 t rest ht hpast =>
    have himport : Leads imports (t :: rest) imported rest := .of_next (if_pos (isWord_iff.1 ht))
    exact himport.follows ((follows_pastSemicolon? "';'" rest).error (congrArg (orEnd _) hpast))
  | case4 t rest ht =>
    have himports : ActsLike imports.next? imports (t :: rest) := .of_eq (by decide) rfl
    exact .ok (.refl imports _) (himports.of_cons (if_neg (mt isWord_iff.2 ht)))

theorem follows_annotationEnd (tokens : List Token) :
    Follows id (ActsLike marked?) (name .annotationType) tokens (annotationEnd tokens) := by
  have hname := follows_qualifiedName (atName .annotationType tokens)
  rw [annotationEnd]
  split
  · rename_i hread
    exact hname.error hread
  · rename_i hread
    obtain ⟨s', hleads, hafter⟩ := hname.exists_leads hread
    exact .ok hleads hafter.of_nil
  · rename_i text t rest hread
    obtain ⟨s', hleads, hafter⟩ := hname.exists_leads hread
    split
    · rename_i ht
      refine (hleads.trans (hafter.step (if_pos ht))).follows ?_
      have harguments := follows_pastParens? "')'" 0 rest
      split
      · rename_i after hpast
        obtain ⟨s', hleads, rfl⟩ := harguments.exists_leads (congrArg (orEnd _) hpast)
        exact .ok hleads (.of_eq (by decide) rfl)
      · rename_i hpast
        exact harguments.error (congrArg (orEnd _) hpast)
    · rename_i ht
      exact .ok hleads (hafter.of_cons (if_neg ht))

/-- Annotations follow until a word starts the declaration. -/
theorem follows_pastAnnotations (h : ActsLike marked? s tokens) :
    Follows id (ActsLike started?) s tokens (pastAnnotations tokens) := by
  fun_induction pastAnnotations tokens generalizing s with
  | case1 => exact .ok (.refl s []) h.of_nil
  | case2 t rest ht after hend ih =>
    obtain ⟨s', hleads, hmarked⟩ := (follows_annotationEnd rest).exists_leads hend
    exact ((h.step (if_pos ht)).trans hleads).follows (ih hmarked)
  | case3 t rest ht e hend =>
    exact (h.step (if_pos ht)).follows ((follows_annotationEnd rest).error hend)
  | case4 t rest ht => exact .ok (.refl s _) (h.of_cons (if_neg ht))

/-! ## The compilation unit -/

/-- A module declaration after the word `open` or without it. -/
theorem follows_declared (isOpen : Bool) (h : ActsLike declared? s tokens) :
    Follows (fun _ => []) (Reaches done) s tokens (do
      let tokens ←
        match tokens with
        | t :: rest =>
          if isWord "module" t then .ok rest else .error (unexpected "'module'" (t :: rest))
        | [] => .error (unexpected "'module'" [])
      let (text, tokens) ← qualifiedName tokens
      let tokens ← expect .leftBrace "'\x7b'" tokens
      let (ds, tokens) ← directives tokens
      match tokens with
      | [] => .ok (ofDirectives text isOpen ds)
      | t :: rest => .error (unexpected "end of input" (t :: rest))) := by
  cases tokens with
  | nil => exact h.ending
  | cons t rest =>
    dsimp only
    split
    · rename_i hmodule
      refine (h.step (if_pos (isWord_iff.1 hmodule))).follows ?_
      refine (follows_qualifiedName (atName .module rest)).bind fun s' ⟨text, rest⟩ hafter => ?_
      refine (follows_expect hafter).bind fun s' rest hbody => ?_
      cases hbody
      refine (follows_directives rest).bind fun s' ⟨ds, rest⟩ hdone => ?_
      cases hdone
      cases rest with
      | nil => exact .ok (.refl done []) rfl
      | cons t rest => exact .token _ (.refl done _) rfl
    · rename_i hmodule
      exact h.stuck (if_neg (mt isWord_iff.2 hmodule))

theorem follows_moduleDeclaration (h : ActsLike started? s tokens) :
    Follows (fun _ => []) (Reaches done) s tokens (moduleDeclaration tokens) := by
  unfold moduleDeclaration
  cases tokens with
  | nil => exact h.ending
  | cons t rest =>
    dsimp only
    by_cases hopen : isWord "open" t = true
    · rw [if_pos hopen]
      have hleads := h.step (if_pos (isWord_iff.1 hopen))
      exact hleads.follows (follows_declared true (.of_eq (by decide) rfl))
    · rw [if_neg hopen]
      exact follows_declared false (h.of_cons (if_neg (mt isWord_iff.2 hopen)))

/-- **The parser follows the states from the start of a unit to its end.** -/
theorem follows_compilationUnit (tokens : List Token) :
    Follows (fun _ => []) (Reaches done) imports tokens (compilationUnit tokens) := by
  refine (follows_pastImports tokens).bind fun s' rest hmarked => ?_
  refine (follows_pastAnnotations hmarked).bind fun s' rest hstarted => ?_
  cases rest with
  | nil => exact .missing (.refl s' []) hstarted.unfinished
  | cons t rest => exact follows_moduleDeclaration hstarted

end MultiRelease.Declaration
