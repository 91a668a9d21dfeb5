import SyntaxExplorer.Proofs.Grammar.Takes

namespace SyntaxExplorer.Grammar

namespace Rule

variable {α β : Type} {lexemes rest : List Lexeme} {events : List Event} {value : α}

/-- The rule succeeds with a value, leaves the lexemes `rest` and has noted the events. -/
def Notes (rule : Rule α) (lexemes : List Lexeme) (events : List Event) (value : α)
    (rest : List Lexeme) : Prop :=
  rule lexemes = ⟨events, rest, .ok value⟩

theorem Notes.takes {rule : Rule α} (notes : Notes rule lexemes events value rest) :
    Takes rule lexemes value rest :=
  ⟨events, notes⟩

theorem notes_note {event : Event} {done : Unit}
    (notes : Notes (note event) lexemes events done rest) : events = [event] ∧ rest = lexemes := by
  simp only [Notes, note, Reply.mk.injEq] at notes
  exact ⟨notes.1.symm, notes.2.1.symm⟩

/-- The second rule notes after the first. -/
theorem notes_bind {first : Rule α} {second : α → Rule β} {result : β}
    (notes : Notes (first >>= second) lexemes events result rest) :
    ∃ before after value middle, events = before ++ after ∧ Notes first lexemes before value middle ∧
      Notes (second value) middle after result rest := by
  rw [Notes, bind_apply, andThen] at notes
  rcases one : first lexemes with ⟨before, middle, outcome⟩
  rw [one] at notes
  cases outcome with
  | error fault => simp at notes
  | ok value =>
    rcases two : second value middle with ⟨after, last, result'⟩
    simp only [two, Reply.mk.injEq] at notes
    obtain ⟨rfl, rfl, rfl⟩ := notes
    exact ⟨before, after, value, middle, rfl, one, two⟩

theorem notes_take {holds : Lexeme → Bool} {taken : Lexeme → Rule α} {otherwise : Rule α}
    (notes : Notes (take holds taken otherwise) lexemes events value rest) :
    (∃ lexeme later, lexemes = lexeme :: later ∧ holds lexeme = true ∧
      Notes (taken lexeme) later events value rest) ∨
    Notes otherwise lexemes events value rest := by
  cases lexemes with
  | nil => exact .inr notes
  | cons lexeme later =>
    rw [Notes, take] at notes
    split at notes
    · rename_i holds
      exact .inl ⟨lexeme, later, rfl, holds, notes⟩
    · exact .inr notes

theorem notes_ahead {holds : Option Lexeme → Bool} {yes no : Rule α}
    (notes : Notes (ahead holds yes no) lexemes events value rest) :
    Notes yes lexemes events value rest ∨ Notes no lexemes events value rest := by
  rw [Notes, ahead] at notes
  split at notes
  · exact .inl notes
  · exact .inr notes

/-- The rule notes nothing, whether it succeeds or not. -/
def Silent (rule : Rule α) : Prop :=
  ∀ lexemes, (rule lexemes).events = []

namespace Silent

theorem succeed (value : α) : Silent (Rule.succeed value) :=
  fun _ => rfl

theorem pure (value : α) : Silent (Pure.pure value : Rule α) :=
  fun _ => rfl

theorem failAt (left : Nat) (cause : Cause) : Silent (Rule.failAt left cause : Rule α) :=
  fun _ => rfl

theorem fail (cause : Option Lexeme → Cause) : Silent (Rule.fail cause : Rule α) :=
  fun _ => rfl

theorem left : Silent Rule.left :=
  fun _ => rfl

theorem skipComments : Silent Rule.skipComments :=
  fun _ => rfl

theorem bind {first : Rule α} {second : α → Rule β} (one : Silent first)
    (two : ∀ value, Silent (second value)) : Silent (first >>= second) := by
  intro lexemes
  rw [bind_apply, andThen]
  split
  · exact one lexemes
  · rename_i value _
    exact List.append_eq_nil_iff.mpr ⟨one lexemes, two value _⟩

theorem take {holds : Lexeme → Bool} {taken : Lexeme → Rule α} {otherwise : Rule α}
    (one : ∀ lexeme, Silent (taken lexeme)) (two : Silent otherwise) :
    Silent (Rule.take holds taken otherwise) := by
  intro lexemes
  cases lexemes with
  | nil => exact two []
  | cons lexeme later =>
    rw [Rule.take]
    split
    · exact one lexeme later
    · exact two _

theorem ahead {holds : Option Lexeme → Bool} {yes no : Rule α} (one : Silent yes)
    (two : Silent no) : Silent (Rule.ahead holds yes no) := by
  intro lexemes
  rw [Rule.ahead]
  split
  · exact one lexemes
  · exact two lexemes

theorem repeating {rule : Nat → Rule α} (each : ∀ rounds, Silent (rule rounds)) :
    Silent (Rule.repeating rule) :=
  fun lexemes => each lexemes.length lexemes

theorem expectMark (text : String) (place : Place) : Silent (Rule.expectMark text place) :=
  take (fun _ => succeed ()) (fail _)

theorem expectIdentifier (place : Place) : Silent (Rule.expectIdentifier place) :=
  take (fun _ => succeed _) (fail _)

theorem notes {rule : Rule α} (silent : Silent rule)
    (notes : Notes rule lexemes events value rest) : events = [] := by
  have nothing := silent lexemes
  rwa [notes] at nothing

/-- Behind a silent rule all is noted by the second. -/
theorem notes_bind {first : Rule α} {second : α → Rule β} {result : β} (silent : Silent first)
    (notes : Notes (first >>= second) lexemes events result rest) :
    ∃ value middle, Takes first lexemes value middle ∧
      Notes (second value) middle events result rest := by
  obtain ⟨before, after, value, middle, rfl, one, two⟩ := Rule.notes_bind notes
  rw [silent.notes one]
  exact ⟨value, middle, one.takes, two⟩

/-- Before a silent rule all is noted by the first. -/
theorem bind_notes {first : Rule α} {second : α → Rule β} {result : β}
    (silent : ∀ value, Silent (second value))
    (notes : Notes (first >>= second) lexemes events result rest) :
    ∃ value middle, Notes first lexemes events value middle ∧
      Takes (second value) middle result rest := by
  obtain ⟨before, after, value, middle, rfl, one, two⟩ := Rule.notes_bind notes
  rw [(silent value).notes two, List.append_nil]
  exact ⟨value, middle, one, two.takes⟩

end Silent

end Rule

open Rule

variable {inner : Rule SyntaxTree}

theorem primary_silent (silent : Silent inner) : Silent (primary inner) :=
  .take (fun _ => .succeed _) <| .take (fun _ => .succeed _) <|
    .take (fun _ => .bind silent fun _ => .bind (.expectMark _ _) fun _ => .pure _) (.fail _)

theorem unary_silent (silent : Silent inner) (rounds : Nat) : Silent (unary inner rounds) := by
  induction rounds with
  | zero => exact silent
  | succ rounds ih => exact .take (fun _ => .bind ih fun _ => .pure _) silent

theorem binaryRest_silent (operators : List String) (silent : Silent inner) (rounds : Nat)
    (before : SyntaxTree) : Silent (binaryRest operators inner rounds before) := by
  induction rounds generalizing before with
  | zero => exact .succeed _
  | succ rounds ih => exact .take (fun _ => .bind silent fun _ => ih _) (.succeed _)

theorem operation_silent (silent : Silent inner) : Silent (operation inner) := by
  unfold operation
  induction binaryOperators with
  | nil => exact .repeating (unary_silent (primary_silent silent))
  | cons operators levels ih =>
    exact .bind ih fun _ => .repeating fun _ => binaryRest_silent operators ih _ _

theorem assignment_silent (silent : Silent inner) : Silent (assignment inner) := by
  refine .bind (operation_silent silent) fun target => .bind .left fun left =>
    .take (fun _ => .bind silent fun value => ?_) (.succeed _)
  split
  · exact .pure _
  · exact .failAt _ _

theorem expression_silent : Silent expression := by
  have within (levels : Nat) : Silent (expressionWithin levels) := by
    induction levels with
    | zero => exact .fail _
    | succ levels ih => exact assignment_silent ih
  exact .repeating within

theorem expressionUnless_silent (closing : String) : Silent (expressionUnless closing) :=
  .ahead (.succeed _) (.bind expression_silent fun _ => .pure _)

theorem parametersRest_silent (rounds opened : Nat) : Silent (parametersRest rounds opened) := by
  induction rounds generalizing opened with
  | zero => exact .fail _
  | succ rounds ih =>
    refine .take (fun _ => ih _) <| .take (fun _ => ?_) <| .take (fun _ => ih _) (.fail _)
    split
    · exact .succeed _
    · exact ih _

theorem condition_silent (opening closing : Place) : Silent (condition opening closing) :=
  .bind (.expectMark _ _) fun _ => .bind expression_silent fun _ =>
    .bind (.expectMark _ _) fun _ => .pure _

theorem returnRest_silent : Silent returnRest :=
  .bind (expressionUnless_silent _) fun _ => .bind (.expectMark _ _) fun _ => .pure _

end SyntaxExplorer.Grammar
