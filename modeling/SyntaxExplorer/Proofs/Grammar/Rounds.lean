import SyntaxExplorer.Proofs.Grammar.Takes

namespace SyntaxExplorer.Grammar

open Rule

variable {α β σ : Type}

namespace Rule

/-- Rounds that carry a state from one to the next. It is enough that each round agrees with itself
on one lexeme more than the rounds after it. -/
theorem repeating_eq_step (rule : Nat → σ → Rule α) (step : (σ → Rule α) → σ → Rule α)
    (front : ∀ rounds state, TakesFront (rule rounds state))
    (succ : ∀ rounds state, rule (rounds + 1) state = step (rule rounds) state)
    (last : ∀ state, rule 0 state [] = step (rule 0) state [])
    (agree : ∀ bound later later', (∀ state, TakesFront (later state)) →
      (∀ state, AgreeBelow bound (later state) (later' state)) →
      ∀ state, AgreeBelow (bound + 1) (step later state) (step later' state)) (state : σ) :
    repeating (rule · state) = step (fun state => repeating (rule · state)) state := by
  have empty (one : Nat) (state : σ) : rule one state [] = rule 0 state [] := by
    cases one with
    | zero => rfl
    | succ one =>
      rw [last, succ]
      exact agree 0 _ _ (front one) (fun _ _ less => absurd less (Nat.not_lt_zero _)) state []
        Nat.one_pos
  have enough : ∀ (one two : Nat) (lexemes : List Lexeme), lexemes.length ≤ one →
      lexemes.length ≤ two → ∀ state, rule one state lexemes = rule two state lexemes := by
    intro one
    induction one with
    | zero =>
      intro two lexemes le_one _ state
      obtain rfl := List.length_eq_zero_iff.mp (Nat.le_zero.mp le_one)
      exact (empty two state).symm
    | succ one ih =>
      intro two lexemes le_one le_two state
      cases two with
      | zero =>
        obtain rfl := List.length_eq_zero_iff.mp (Nat.le_zero.mp le_two)
        exact empty _ state
      | succ two =>
        have fewer : ∀ state, AgreeBelow lexemes.length (rule one state) (rule two state) :=
          fun state shorter less => ih two shorter (by omega) (by omega) state
        rw [succ, succ]
        exact agree _ _ _ (front one) fewer state lexemes (Nat.lt_succ_self _)
  funext lexemes
  have within : ∀ state, AgreeBelow lexemes.length (rule (lexemes.length - 1) state)
      (repeating (rule · state)) :=
    fun state shorter less => enough _ _ shorter (by omega) (Nat.le_refl _) state
  calc repeating (rule · state) lexemes
      = rule (lexemes.length - 1 + 1) state lexemes :=
        enough _ _ lexemes (Nat.le_refl _) (by omega) state
    _ = step (fun state => repeating (rule · state)) state lexemes := by
        rw [succ]
        exact agree _ _ _ (front _) within state lexemes (Nat.lt_succ_self _)

/-- The rule never succeeds without taking a lexeme. -/
def TakesSome (rule : Rule α) : Prop :=
  ∀ lexemes value rest, Takes rule lexemes value rest → rest.length < lexemes.length

namespace TakesSome

theorem fail (cause : Option Lexeme → Cause) : TakesSome (Rule.fail cause : Rule α) :=
  fun _ _ _ takes => absurd takes not_takes_fail

theorem expectMark (text : String) (place : Place) : TakesSome (Rule.expectMark text place) := by
  intro lexemes done rest takes
  rw [takes_expectMark] at takes
  simp [takes]

theorem bind_left {first : Rule α} {second : α → Rule β} (some : TakesSome first)
    (front : ∀ value, TakesFront (second value)) : TakesSome (first >>= second) := by
  intro lexemes result rest takes
  obtain ⟨value, middle, one, two⟩ := takes_bind.mp takes
  exact Nat.lt_of_le_of_lt ((front value).suffix two).length_le (some _ _ _ one)

theorem bind_right {first : Rule α} {second : α → Rule β} (front : TakesFront first)
    (some : ∀ value, TakesSome (second value)) : TakesSome (first >>= second) := by
  intro lexemes result rest takes
  obtain ⟨value, middle, one, two⟩ := takes_bind.mp takes
  exact Nat.lt_of_lt_of_le (some value _ _ _ two) (front.suffix one).length_le

/-- A lexeme that is taken is enough, so only the other way has to take one itself. -/
theorem take {holds : Lexeme → Bool} {taken : Lexeme → Rule α} {otherwise : Rule α}
    (front : ∀ lexeme, TakesFront (taken lexeme)) (some : TakesSome otherwise) :
    TakesSome (Rule.take holds taken otherwise) := by
  intro lexemes value rest takes
  rcases takes_take.mp takes with ⟨lexeme, later, rfl, -, takes⟩ | ⟨-, takes⟩
  · exact Nat.lt_succ_of_le ((front lexeme).suffix takes).length_le
  · exact some _ _ _ takes

theorem ahead {holds : Option Lexeme → Bool} {yes no : Rule α} (one : TakesSome yes)
    (two : TakesSome no) : TakesSome (Rule.ahead holds yes no) := by
  intro lexemes value rest takes
  rw [takes_ahead] at takes
  split at takes
  · exact one _ _ _ takes
  · exact two _ _ _ takes

end TakesSome

/-- Behind a rule that takes a lexeme, agreement on one lexeme fewer is enough. -/
theorem AgreeBelow.bind_some {bound : Nat} {first : Rule α} {second second' : α → Rule β}
    (some : TakesSome first) (two : ∀ value, AgreeBelow bound (second value) (second' value)) :
    AgreeBelow (bound + 1) (first >>= second) (first >>= second') := by
  intro lexemes fewer
  rw [bind_apply, bind_apply, andThen, andThen]
  rcases one : first lexemes with ⟨events, middle, outcome⟩
  cases outcome with
  | error fault => rfl
  | ok value =>
    have less := some lexemes value middle ⟨events, one⟩
    simp only [two value middle (by omega)]

end Rule

variable {operand inner statement : Rule SyntaxTree}

/-- An operand may have an operator before it, and then an operand again. -/
theorem unary_eq (front : TakesFront operand) :
    repeating (unary operand) =
      take (isOperatorIn unaryOperators)
        (fun sign => do
          let inner ← repeating (unary operand)
          return ⟨.unary, some sign.text, [inner]⟩)
        operand :=
  repeating_eq_step (fun rounds (_ : Unit) => unary operand rounds)
    (fun later state => take (isOperatorIn unaryOperators)
      (fun sign => do
        let inner ← later state
        return ⟨.unary, some sign.text, [inner]⟩)
      operand)
    (fun rounds _ => unary_takesFront front rounds) (fun _ _ => rfl) (fun _ => rfl)
    (fun _ _ _ fronts agree state => .take (fun _ => .bind_left (fronts state) (agree state))
      (.refl _)) ()

/-- What was read is the left operand of the next operator of the level, if there is one. -/
theorem binaryRest_eq {operators : List String} (front : TakesFront operand)
    (before : SyntaxTree) :
    repeating (binaryRest operators operand · before) =
      take (isOperatorIn operators)
        (fun sign => do
          let right ← operand
          repeating (binaryRest operators operand · ⟨.binary, some sign.text, [before, right]⟩))
        (succeed before) :=
  repeating_eq_step (binaryRest operators operand)
    (fun later before => take (isOperatorIn operators)
      (fun sign => do
        let right ← operand
        later ⟨.binary, some sign.text, [before, right]⟩)
      (succeed before))
    (fun rounds before => binaryRest_takesFront operators front rounds before)
    (fun _ _ => rfl) (fun _ => rfl)
    (fun _ _ _ _ agree _ => .take (fun _ => .bind_right front fun _ => agree _) (.refl _)) before

/-- Parentheses inside a parameter list are counted until each is closed. -/
theorem parametersRest_eq (opened : Nat) :
    repeating (parametersRest · opened) =
      take (· = mark "(") (fun _ => repeating (parametersRest · (opened + 1))) (
      take (· = mark ")")
        (fun _ => match opened with
          | 0 => succeed ()
          | opened + 1 => repeating (parametersRest · opened)) (
      take (fun _ => true) (fun _ => repeating (parametersRest · opened))
        (fail fun _ => .unexpectedEnd .parameters))) := by
  refine repeating_eq_step parametersRest
    (fun later opened =>
      take (· = mark "(") (fun _ => later (opened + 1)) <|
      take (· = mark ")") (fun _ => match opened with
        | 0 => succeed ()
        | opened + 1 => later opened) <|
      take (fun _ => true) (fun _ => later opened) <|
      fail fun _ => .unexpectedEnd .parameters)
    parametersRest_takesFront (fun _ _ => rfl) (fun _ => rfl) ?_ opened
  intro bound later later' _ agree opened
  refine .take (fun _ => agree _) <| .take (fun _ => ?_) <| .take (fun _ => agree _) (.refl _)
  cases opened with
  | zero => exact .refl _
  | succ opened => exact agree opened

theorem expressionStatement_takesSome : TakesSome expressionStatement :=
  .bind_right expression_takesFront fun _ => .bind_left (.expectMark _ _) fun _ => .pure _

theorem statementHere_takesSome (front : TakesFront inner) (frontStatement : TakesFront statement) :
    TakesSome (statementHere inner statement) :=
  .bind_right .left fun _ => .bind_right (.note _) fun _ =>
    .take (fun _ => ifRest_takesFront frontStatement) <|
    .take (fun _ => whileRest_takesFront frontStatement) <|
    .take (fun _ => forRest_takesFront frontStatement) <|
    .take (fun _ => returnRest_takesFront) <|
    .take (fun _ => blockRest_takesFront front) expressionStatement_takesSome

theorem anyStatement_takesSome (front : TakesFront inner) (frontStatement : TakesFront statement) :
    TakesSome (anyStatement inner statement) :=
  .bind_right .skipComments fun _ =>
    .ahead (.fail _) (statementHere_takesSome front frontStatement)

theorem anyDeclaration_takesSome (front : TakesFront inner)
    (frontStatement : TakesFront statement) : TakesSome (anyDeclaration inner statement) :=
  .bind_right .skipComments fun _ =>
    .take (fun _ => .bind (.expectIdentifier _) fun _ =>
      .take (fun _ => functionRest_takesFront front _ _)
        (.bind (variableRest_takesFront _ _) fun _ => .bind (.expectMark _ _) fun _ => .pure _))
      (anyStatement_takesSome front frontStatement)

theorem declarationWithin_takesSome (levels : Nat) : TakesSome (declarationWithin levels) := by
  cases levels with
  | zero => exact .fail _
  | succ levels =>
    have fronts := within_takesFront levels
    exact anyDeclaration_takesSome fronts.1 fronts.2

theorem declaration_takesSome : TakesSome declaration :=
  fun lexemes => declarationWithin_takesSome lexemes.length lexemes

/-- A sequence of declarations ends at what closes it, or it is a declaration and a sequence. -/
theorem declarations_eq {closes : Option Lexeme → Bool} (atEnd : closes none = true)
    (some : TakesSome inner) (front : TakesFront inner) :
    repeating (declarations closes inner) = (do
      skipComments
      ahead closes (succeed []) do
        let first ← inner
        let others ← repeating (declarations closes inner)
        return first :: others) := by
  refine repeating_eq_step (fun rounds (_ : Unit) => declarations closes inner rounds)
    (fun later state => do
      skipComments
      ahead closes (succeed []) do
        let first ← inner
        let others ← later state
        return first :: others)
    (fun rounds _ => declarations_takesFront closes front rounds) (fun _ _ => rfl) (fun _ => ?_)
    (fun _ _ _ fronts agree state => .bind_right .skipComments fun _ =>
      .ahead (.refl _) (.bind_some some fun _ => .bind_left (fronts state) (agree state))) ()
  simp [declarations, bind_apply, andThen, Rule.skipComments, Rule.ahead, atEnd, Rule.succeed]

end SyntaxExplorer.Grammar
