import SyntaxExplorer.Proofs.Grammar.Derivation
import SyntaxExplorer.Proofs.Grammar.Rounds

namespace SyntaxExplorer.Grammar

open Rule

theorem isOperatorIn_eq_true {operators : List String} {lexeme : Lexeme} :
    isOperatorIn operators lexeme = true ↔ ∃ sign ∈ operators, lexeme = operator sign := by
  obtain ⟨kind, text⟩ := lexeme
  simp only [isOperatorIn, operator, Bool.and_eq_true, decide_eq_true_eq, Lexeme.mk.injEq]
  constructor
  · rintro ⟨rfl, known⟩
    exact ⟨text, known, rfl, rfl⟩
  · rintro ⟨sign, known, rfl, rfl⟩
    exact ⟨rfl, known⟩

theorem isKeywordIn_eq_true {words : List String} {lexeme : Lexeme} :
    isKeywordIn words lexeme = true ↔ ∃ word ∈ words, lexeme = keyword word := by
  obtain ⟨kind, text⟩ := lexeme
  simp only [isKeywordIn, keyword, Bool.and_eq_true, decide_eq_true_eq, Lexeme.mk.injEq]
  constructor
  · rintro ⟨rfl, known⟩
    exact ⟨text, known, rfl, rfl⟩
  · rintro ⟨word, known, rfl, rfl⟩
    exact ⟨rfl, known⟩

/-- All that the rule takes is an expression of the binding. -/
def ReadsExpression (rule : Rule SyntaxTree) (binding : Binding) : Prop :=
  ∀ lexemes tree rest, Takes rule lexemes tree rest →
    ∃ word, lexemes = word ++ rest ∧ IsExpression binding word tree

variable {inner operand declaration statement : Rule SyntaxTree} {levels : List (List String)}
  {lexemes rest : List Lexeme} {tree : SyntaxTree} {trees : List SyntaxTree}

theorem primary_readsExpression (sound : ReadsExpression inner .any) :
    ReadsExpression (primary inner) .closed := by
  intro lexemes tree rest takes
  rcases takes_take.mp takes with ⟨⟨kind, text⟩, later, rfl, number, takes⟩ | ⟨-, takes⟩
  · obtain rfl := of_decide_eq_true number
    obtain ⟨rfl, rfl⟩ := takes_succeed.mp takes
    exact ⟨_, rfl, .number⟩
  rcases takes_take.mp takes with ⟨⟨kind, text⟩, later, rfl, name, takes⟩ | ⟨-, takes⟩
  · obtain rfl := of_decide_eq_true name
    obtain ⟨rfl, rfl⟩ := takes_succeed.mp takes
    exact ⟨_, rfl, .name⟩
  rcases takes_take.mp takes with ⟨lexeme, later, rfl, opening, takes⟩ | ⟨-, takes⟩
  · obtain rfl := of_decide_eq_true opening
    obtain ⟨within, middle, read, takes⟩ := takes_bind.mp takes
    obtain ⟨_, last, closing, takes⟩ := takes_bind.mp takes
    obtain ⟨rfl, rfl⟩ := takes_pure.mp takes
    obtain rfl := takes_expectMark.mp closing
    obtain ⟨word, rfl, derived⟩ := sound _ _ _ read
    exact ⟨mark "(" :: word ++ [mark ")"], by simp, .grouping derived⟩
  · exact absurd takes not_takes_fail

theorem unary_readsExpression (sound : ReadsExpression operand .closed) (rounds : Nat) :
    ReadsExpression (unary operand rounds) (.levels []) := by
  induction rounds with
  | zero =>
    intro lexemes tree rest takes
    obtain ⟨word, same, derived⟩ := sound _ _ _ takes
    exact ⟨word, same, .operand derived⟩
  | succ rounds ih =>
    intro lexemes tree rest takes
    rcases takes_take.mp takes with ⟨lexeme, later, rfl, signed, takes⟩ | ⟨-, takes⟩
    · obtain ⟨sign, known, rfl⟩ := isOperatorIn_eq_true.mp signed
      obtain ⟨within, middle, read, takes⟩ := takes_bind.mp takes
      obtain ⟨rfl, rfl⟩ := takes_pure.mp takes
      obtain ⟨word, rfl, derived⟩ := ih _ _ _ read
      exact ⟨operator sign :: word, rfl, .unary known derived⟩
    · obtain ⟨word, same, derived⟩ := sound _ _ _ takes
      exact ⟨word, same, .operand derived⟩

theorem binaryRest_readsExpression {operators : List String}
    (sound : ReadsExpression operand (.levels levels)) (rounds : Nat) {word : List Lexeme}
    {before : SyntaxTree} (derived : IsExpression (.levels (operators :: levels)) word before)
    (takes : Takes (binaryRest operators operand rounds before) lexemes tree rest) :
    ∃ more, lexemes = more ++ rest ∧
      IsExpression (.levels (operators :: levels)) (word ++ more) tree := by
  induction rounds generalizing word before lexemes with
  | zero =>
    obtain ⟨rfl, rfl⟩ := takes_succeed.mp takes
    exact ⟨[], rfl, by rwa [List.append_nil]⟩
  | succ rounds ih =>
    rcases takes_take.mp takes with ⟨lexeme, later, rfl, signed, takes⟩ | ⟨-, takes⟩
    · obtain ⟨sign, known, rfl⟩ := isOperatorIn_eq_true.mp signed
      obtain ⟨right, middle, read, again⟩ := takes_bind.mp takes
      obtain ⟨after, rfl, second⟩ := sound _ _ _ read
      obtain ⟨more, rfl, whole⟩ := ih (.binary known derived second) again
      exact ⟨operator sign :: after ++ more, by simp, by simpa using whole⟩
    · obtain ⟨rfl, rfl⟩ := takes_succeed.mp takes
      exact ⟨[], rfl, by rwa [List.append_nil]⟩

theorem binary_readsExpression (operators : List String)
    (sound : ReadsExpression operand (.levels levels)) :
    ReadsExpression (binary operators operand) (.levels (operators :: levels)) := by
  intro lexemes tree rest takes
  obtain ⟨first, middle, read, others⟩ := takes_bind.mp takes
  obtain ⟨word, rfl, derived⟩ := sound _ _ _ read
  obtain ⟨more, rfl, whole⟩ := binaryRest_readsExpression sound _ (.tighter derived) others
  exact ⟨word ++ more, by simp, whole⟩

theorem operation_readsExpression (sound : ReadsExpression inner .any) :
    ReadsExpression (operation inner) (.levels binaryOperators) := by
  unfold operation
  induction binaryOperators with
  | nil =>
    intro lexemes tree rest takes
    exact unary_readsExpression (primary_readsExpression sound) _ _ _ _ takes
  | cons operators levels ih => exact binary_readsExpression operators ih

/-- Only a name by itself makes a tree that can be assigned to. -/
theorem IsExpression.eq_name {binding : Binding} {word : List Lexeme}
    (derived : IsExpression binding word tree) (target : tree.kind = .identifier) :
    ∃ name, word = [⟨.identifier, name⟩] ∧ tree = .leaf .identifier name := by
  induction derived with
  | name => exact ⟨_, rfl, rfl⟩
  | operand _ ih => exact ih target
  | tighter _ ih => exact ih target
  | operation _ ih => exact ih target
  | number => cases target
  | grouping => cases target
  | unary => cases target
  | binary => cases target
  | assignment => cases target

theorem assignment_readsExpression (sound : ReadsExpression inner .any) :
    ReadsExpression (assignment inner) .any := by
  intro lexemes tree rest takes
  obtain ⟨target, middle, read, choice⟩ := takes_bind.mp takes
  obtain ⟨word, rfl, derived⟩ := operation_readsExpression sound _ _ _ read
  obtain ⟨count, again, here, chosen⟩ := takes_bind.mp choice
  obtain ⟨-, rfl⟩ := takes_left.mp here
  rcases takes_take.mp chosen with ⟨lexeme, later, rfl, signed, assigned⟩ | ⟨-, ended⟩
  · obtain ⟨sign, known, rfl⟩ := isOperatorIn_eq_true.mp signed
    obtain rfl := List.mem_singleton.mp known
    obtain ⟨value, last, source, built⟩ := takes_bind.mp assigned
    split at built
    · rename_i named
      obtain ⟨rfl, rfl⟩ := takes_pure.mp built
      obtain ⟨name, rfl, rfl⟩ := derived.eq_name named
      obtain ⟨words, rfl, evaluated⟩ := sound _ _ _ source
      exact ⟨⟨.identifier, name⟩ :: operator "=" :: words, rfl, .assignment evaluated⟩
    · exact absurd built not_takes_failAt
  · obtain ⟨rfl, rfl⟩ := takes_succeed.mp ended
    exact ⟨word, rfl, .operation derived⟩

theorem expression_readsExpression : ReadsExpression expression .any := by
  have within (levels : Nat) : ReadsExpression (expressionWithin levels) .any := by
    induction levels with
    | zero => exact fun _ _ _ takes => absurd takes not_takes_fail
    | succ levels ih => exact assignment_readsExpression ih
  exact fun lexemes => within lexemes.length lexemes

end SyntaxExplorer.Grammar
