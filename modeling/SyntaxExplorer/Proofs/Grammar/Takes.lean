import SyntaxExplorer.Proofs.Grammar.Nesting

namespace SyntaxExplorer.Grammar.Rule

variable {α β : Type} {lexemes rest : List Lexeme} {value : α}

/-- The rule succeeds with a value and leaves the lexemes `rest`. -/
def Takes (rule : Rule α) (lexemes : List Lexeme) (value : α) (rest : List Lexeme) : Prop :=
  ∃ events, rule lexemes = ⟨events, rest, .ok value⟩

@[simp] theorem takes_succeed {given : α} :
    Takes (succeed given) lexemes value rest ↔ value = given ∧ rest = lexemes := by
  constructor
  · rintro ⟨events, reply⟩
    simp only [succeed, Reply.mk.injEq, Except.ok.injEq] at reply
    exact ⟨reply.2.2.symm, reply.2.1.symm⟩
  · rintro ⟨rfl, rfl⟩
    exact ⟨[], rfl⟩

@[simp] theorem takes_pure {given : α} :
    Takes (pure given) lexemes value rest ↔ value = given ∧ rest = lexemes :=
  takes_succeed

@[simp] theorem not_takes_failAt {left : Nat} {cause : Cause} :
    ¬ Takes (failAt left cause) lexemes value rest := by
  rintro ⟨events, reply⟩
  simp [failAt] at reply

@[simp] theorem not_takes_fail {cause : Option Lexeme → Cause} :
    ¬ Takes (fail cause) lexemes value rest :=
  not_takes_failAt

@[simp] theorem takes_note {event : Event} {done : Unit} :
    Takes (note event) lexemes done rest ↔ rest = lexemes := by
  constructor
  · rintro ⟨events, reply⟩
    simp only [note, Reply.mk.injEq] at reply
    exact reply.2.1.symm
  · rintro rfl
    exact ⟨[event], rfl⟩

@[simp] theorem takes_left {count : Nat} :
    Takes left lexemes count rest ↔ count = lexemes.length ∧ rest = lexemes :=
  takes_succeed

@[simp] theorem takes_skipComments {done : Unit} :
    Takes skipComments lexemes done rest ↔ rest = lexemes.dropWhile (·.kind = .comment) := by
  constructor
  · rintro ⟨events, reply⟩
    simp only [skipComments, Reply.mk.injEq] at reply
    exact reply.2.1.symm
  · rintro rfl
    exact ⟨[], rfl⟩

/-- The second rule goes on where the first one stopped. -/
theorem takes_bind {first : Rule α} {second : α → Rule β} {result : β} :
    Takes (first >>= second) lexemes result rest ↔
      ∃ value middle, Takes first lexemes value middle ∧ Takes (second value) middle result rest := by
  constructor
  · rintro ⟨events, reply⟩
    rw [bind_apply, andThen] at reply
    rcases one : first lexemes with ⟨before, middle, outcome⟩
    rw [one] at reply
    cases outcome with
    | error fault => simp at reply
    | ok value =>
      rcases two : second value middle with ⟨after, last, result'⟩
      simp only [two, Reply.mk.injEq] at reply
      obtain ⟨-, rfl, rfl⟩ := reply
      exact ⟨value, middle, ⟨before, one⟩, after, two⟩
  · rintro ⟨value, middle, ⟨before, one⟩, after, two⟩
    exact ⟨before ++ after, by rw [bind_apply, andThen, one]; simp only [two]⟩

/-- The next lexeme decides which way a rule goes. -/
theorem takes_take {holds : Lexeme → Bool} {taken : Lexeme → Rule α} {otherwise : Rule α} :
    Takes (take holds taken otherwise) lexemes value rest ↔
      (∃ lexeme later, lexemes = lexeme :: later ∧ holds lexeme = true ∧
        Takes (taken lexeme) later value rest) ∨
      ((∀ lexeme ∈ lexemes.head?, holds lexeme = false) ∧ Takes otherwise lexemes value rest) := by
  cases lexemes with
  | nil => simp [Takes, take]
  | cons lexeme later =>
    by_cases yes : holds lexeme = true
    · constructor
      · intro takes
        exact Or.inl ⟨lexeme, later, rfl, yes, by simpa [Takes, take, yes] using takes⟩
      · rintro (⟨_, _, same, _, takes⟩ | ⟨no, _⟩)
        · obtain ⟨rfl, rfl⟩ := List.cons.inj same
          simpa [Takes, take, yes] using takes
        · simp [yes] at no
    · simp [Takes, take, yes]

theorem takes_take_of_holds {holds : Lexeme → Bool} {taken : Lexeme → Rule α} {otherwise : Rule α}
    {lexeme : Lexeme} (yes : holds lexeme = true) :
    Takes (take holds taken otherwise) (lexeme :: lexemes) value rest ↔
      Takes (taken lexeme) lexemes value rest := by
  simp [Takes, take, yes]

theorem takes_take_of_not {holds : Lexeme → Bool} {taken : Lexeme → Rule α} {otherwise : Rule α}
    (no : ∀ lexeme ∈ lexemes.head?, holds lexeme = false) :
    Takes (take holds taken otherwise) lexemes value rest ↔ Takes otherwise lexemes value rest := by
  cases lexemes with
  | nil => rfl
  | cons lexeme later => simp [Takes, take, no lexeme rfl]

/-- Whether the next lexeme is a certain one decides which way a rule goes. -/
theorem takes_take_eq {wanted : Lexeme} {taken : Lexeme → Rule α} {otherwise : Rule α} :
    Takes (take (· = wanted) taken otherwise) lexemes value rest ↔
      (∃ later, lexemes = wanted :: later ∧ Takes (taken wanted) later value rest) ∨
      (lexemes.head? ≠ some wanted ∧ Takes otherwise lexemes value rest) := by
  rw [takes_take]
  constructor
  · rintro (⟨lexeme, later, rfl, same, takes⟩ | ⟨no, takes⟩)
    · obtain rfl := of_decide_eq_true same
      exact Or.inl ⟨later, rfl, takes⟩
    · exact Or.inr ⟨fun same => by simpa using no wanted same, takes⟩
  · rintro (⟨later, rfl, takes⟩ | ⟨no, takes⟩)
    · exact Or.inl ⟨wanted, later, rfl, decide_eq_true rfl, takes⟩
    · refine Or.inr ⟨fun lexeme next => decide_eq_false fun same => no ?_, takes⟩
      rw [← same, ← Option.mem_def]
      exact next

theorem takes_ahead {holds : Option Lexeme → Bool} {yes no : Rule α} :
    Takes (ahead holds yes no) lexemes value rest ↔
      if holds lexemes.head? then Takes yes lexemes value rest else Takes no lexemes value rest := by
  by_cases decision : holds lexemes.head? = true <;> simp [Takes, ahead, decision]

@[simp] theorem takes_expectMark {text : String} {place : Place} {done : Unit} :
    Takes (expectMark text place) lexemes done rest ↔ lexemes = mark text :: rest := by
  simp [expectMark, takes_take_eq]

@[simp] theorem takes_expectIdentifier {place : Place} {name : String} :
    Takes (expectIdentifier place) lexemes name rest ↔ lexemes = ⟨.identifier, name⟩ :: rest := by
  simp only [expectIdentifier, takes_take, takes_succeed, not_takes_fail, and_false, or_false,
    decide_eq_true_eq]
  constructor
  · rintro ⟨⟨kind, text⟩, later, rfl, rfl, rfl, rfl⟩
    rfl
  · rintro rfl
    exact ⟨_, rest, rfl, rfl, rfl, rfl⟩

theorem TakesFront.suffix {rule : Rule α} (front : TakesFront rule)
    (takes : Takes rule lexemes value rest) : rest <:+ lexemes := by
  obtain ⟨events, reply⟩ := takes
  have suffix := front lexemes
  rwa [reply] at suffix

end SyntaxExplorer.Grammar.Rule
