import SyntaxExplorer.Proofs.Grammar.Takes

namespace SyntaxExplorer.Grammar.Rule

variable {α β : Type} {lexemes rest : List Lexeme} {value : α} {fault : Fault}

/-- The rule fails with a fault and leaves the lexemes `rest`. -/
def Fails (rule : Rule α) (lexemes : List Lexeme) (fault : Fault) (rest : List Lexeme) : Prop :=
  ∃ events, rule lexemes = ⟨events, rest, .error fault⟩

theorem takes_or_fails (rule : Rule α) (lexemes : List Lexeme) :
    (∃ value rest, Takes rule lexemes value rest) ∨ ∃ fault rest, Fails rule lexemes fault rest := by
  rcases reply : rule lexemes with ⟨events, rest, outcome⟩
  cases outcome with
  | ok value => exact .inl ⟨value, rest, events, reply⟩
  | error fault => exact .inr ⟨fault, rest, events, reply⟩

@[simp] theorem not_fails_succeed {given : α} : ¬ Fails (succeed given) lexemes fault rest := by
  rintro ⟨events, reply⟩
  simp [succeed] at reply

@[simp] theorem fails_failAt {left : Nat} {cause : Cause} :
    Fails (failAt left cause : Rule α) lexemes fault rest ↔ fault = ⟨cause, left⟩ ∧ rest = lexemes := by
  constructor
  · rintro ⟨events, reply⟩
    simp only [failAt, Reply.mk.injEq, Except.error.injEq] at reply
    exact ⟨reply.2.2.symm, reply.2.1.symm⟩
  · rintro ⟨rfl, rfl⟩
    exact ⟨[], rfl⟩

@[simp] theorem fails_fail {cause : Option Lexeme → Cause} :
    Fails (fail cause : Rule α) lexemes fault rest ↔
      fault = ⟨cause lexemes.head?, lexemes.length⟩ ∧ rest = lexemes :=
  fails_failAt

@[simp] theorem not_fails_note {event : Event} : ¬ Fails (note event) lexemes fault rest := by
  rintro ⟨events, reply⟩
  simp [note] at reply

@[simp] theorem not_fails_left : ¬ Fails left lexemes fault rest :=
  not_fails_succeed

@[simp] theorem not_fails_skipComments : ¬ Fails skipComments lexemes fault rest := by
  rintro ⟨events, reply⟩
  simp [skipComments] at reply

/-- The first rule fails, or the second where the first one stopped. -/
theorem fails_bind {first : Rule α} {second : α → Rule β} :
    Fails (first >>= second) lexemes fault rest ↔
      Fails first lexemes fault rest ∨
        ∃ value middle, Takes first lexemes value middle ∧ Fails (second value) middle fault rest := by
  constructor
  · rintro ⟨events, reply⟩
    rw [bind_apply, andThen] at reply
    rcases one : first lexemes with ⟨before, middle, outcome⟩
    rw [one] at reply
    cases outcome with
    | error fault' =>
      simp only [Reply.mk.injEq, Except.error.injEq] at reply
      obtain ⟨-, rfl, rfl⟩ := reply
      exact .inl ⟨before, one⟩
    | ok value =>
      rcases two : second value middle with ⟨after, last, outcome⟩
      simp only [two, Reply.mk.injEq] at reply
      obtain ⟨-, rfl, rfl⟩ := reply
      exact .inr ⟨value, middle, ⟨before, one⟩, after, two⟩
  · rintro (⟨before, one⟩ | ⟨value, middle, ⟨before, one⟩, after, two⟩)
    · exact ⟨before, by rw [bind_apply, andThen, one]⟩
    · exact ⟨before ++ after, by rw [bind_apply, andThen, one]; simp only [two]⟩

/-- Behind a rule that succeeds, it is the second one that fails. -/
theorem fails_bind_of_takes {first : Rule α} {second : α → Rule β} {middle : List Lexeme}
    (takes : Takes first lexemes value middle) :
    Fails (first >>= second) lexemes fault rest ↔ Fails (second value) middle fault rest := by
  rw [fails_bind]
  obtain ⟨events, reply⟩ := takes
  constructor
  · rintro (⟨others, failed⟩ | ⟨again, last, ⟨others, same⟩, fails⟩)
    · rw [reply] at failed
      simp at failed
    · rw [reply] at same
      simp only [Reply.mk.injEq, Except.ok.injEq] at same
      obtain ⟨-, rfl, rfl⟩ := same
      exact fails
  · exact fun fails => .inr ⟨value, middle, ⟨events, reply⟩, fails⟩

theorem fails_take_of_holds {holds : Lexeme → Bool} {taken : Lexeme → Rule α} {otherwise : Rule α}
    {lexeme : Lexeme} (yes : holds lexeme = true) :
    Fails (take holds taken otherwise) (lexeme :: lexemes) fault rest ↔
      Fails (taken lexeme) lexemes fault rest := by
  simp [Fails, take, yes]

theorem fails_take_of_not {holds : Lexeme → Bool} {taken : Lexeme → Rule α} {otherwise : Rule α}
    (no : ∀ lexeme ∈ lexemes.head?, holds lexeme = false) :
    Fails (take holds taken otherwise) lexemes fault rest ↔ Fails otherwise lexemes fault rest := by
  cases lexemes with
  | nil => rfl
  | cons lexeme later => simp [Fails, take, no lexeme rfl]

/-- The next lexeme decides which way a rule fails. -/
theorem fails_take {holds : Lexeme → Bool} {taken : Lexeme → Rule α} {otherwise : Rule α} :
    Fails (take holds taken otherwise) lexemes fault rest ↔
      (∃ lexeme later, lexemes = lexeme :: later ∧ holds lexeme = true ∧
        Fails (taken lexeme) later fault rest) ∨
      ((∀ lexeme ∈ lexemes.head?, holds lexeme = false) ∧ Fails otherwise lexemes fault rest) := by
  cases lexemes with
  | nil => simp [Fails, take]
  | cons lexeme later =>
    by_cases yes : holds lexeme = true
    · rw [fails_take_of_holds yes]
      constructor
      · intro fails
        exact .inl ⟨lexeme, later, rfl, yes, fails⟩
      · rintro (⟨_, _, same, _, fails⟩ | ⟨no, _⟩)
        · obtain ⟨rfl, rfl⟩ := List.cons.inj same
          exact fails
        · simp [yes] at no
    · simp [Fails, take, yes]

theorem fails_ahead {holds : Option Lexeme → Bool} {yes no : Rule α} :
    Fails (ahead holds yes no) lexemes fault rest ↔
      if holds lexemes.head? then Fails yes lexemes fault rest else Fails no lexemes fault rest := by
  by_cases decision : holds lexemes.head? = true <;> simp [Fails, ahead, decision]

theorem TakesFront.suffix_of_fails {rule : Rule α} (front : TakesFront rule)
    (fails : Fails rule lexemes fault rest) : rest <:+ lexemes := by
  obtain ⟨events, reply⟩ := fails
  have suffix := front lexemes
  rwa [reply] at suffix

end SyntaxExplorer.Grammar.Rule
