import SyntaxExplorer.Proofs.Grammar.Parsing
import SyntaxExplorer.Proofs.Grammar.Fails

namespace SyntaxExplorer

namespace Grammar

namespace Rule

variable {α β : Type} {bound : Nat}

/-- Given no more lexemes than the bound, the rule blames none of those before. -/
def BlamesWithin (bound : Nat) (rule : Rule α) : Prop :=
  ∀ lexemes fault rest, lexemes.length ≤ bound → Fails rule lexemes fault rest → fault.left ≤ bound

namespace BlamesWithin

theorem succeed (value : α) : BlamesWithin bound (Rule.succeed value) :=
  fun _ _ _ _ fails => absurd fails not_fails_succeed

theorem pure (value : α) : BlamesWithin bound (Pure.pure value : Rule α) :=
  succeed value

theorem note (event : Event) : BlamesWithin bound (Rule.note event) :=
  fun _ _ _ _ fails => absurd fails not_fails_note

theorem skipComments : BlamesWithin bound Rule.skipComments :=
  fun _ _ _ _ fails => absurd fails not_fails_skipComments

theorem failAt {left : Nat} (within : left ≤ bound) (cause : Cause) :
    BlamesWithin bound (Rule.failAt left cause : Rule α) := by
  intro lexemes fault rest _ fails
  obtain ⟨rfl, -⟩ := fails_failAt.mp fails
  exact within

theorem fail (cause : Option Lexeme → Cause) : BlamesWithin bound (Rule.fail cause : Rule α) := by
  intro lexemes fault rest within fails
  obtain ⟨rfl, -⟩ := fails_fail.mp fails
  exact within

/-- The second rule is given what the first one leaves. -/
theorem bind {first : Rule α} {second : α → Rule β} (front : TakesFront first)
    (one : BlamesWithin bound first) (two : ∀ value, BlamesWithin bound (second value)) :
    BlamesWithin bound (first >>= second) := by
  intro lexemes fault rest within fails
  rcases fails_bind.mp fails with fails | ⟨value, middle, takes, fails⟩
  · exact one _ _ _ within fails
  · have shorter := (front.suffix takes).length_le
    exact two value _ _ _ (Nat.le_trans shorter within) fails

/-- The place that was counted may be blamed later. -/
theorem counted {second : Nat → Rule β} (two : ∀ left ≤ bound, BlamesWithin bound (second left)) :
    BlamesWithin bound (Rule.left >>= second) := by
  intro lexemes fault rest within fails
  rcases fails_bind.mp fails with fails | ⟨left, middle, takes, fails⟩
  · exact absurd fails not_fails_left
  · obtain ⟨rfl, rfl⟩ := takes_left.mp takes
    exact two _ within _ _ _ within fails

theorem take {holds : Lexeme → Bool} {taken : Lexeme → Rule α} {otherwise : Rule α}
    (one : ∀ lexeme, BlamesWithin bound (taken lexeme)) (two : BlamesWithin bound otherwise) :
    BlamesWithin bound (Rule.take holds taken otherwise) := by
  intro lexemes fault rest within fails
  rcases fails_take.mp fails with ⟨lexeme, later, rfl, -, fails⟩ | ⟨-, fails⟩
  · have shorter : later.length ≤ bound := Nat.le_of_succ_le within
    exact one lexeme _ _ _ shorter fails
  · exact two _ _ _ within fails

theorem ahead {holds : Option Lexeme → Bool} {yes no : Rule α} (one : BlamesWithin bound yes)
    (two : BlamesWithin bound no) : BlamesWithin bound (Rule.ahead holds yes no) := by
  intro lexemes fault rest within fails
  rw [fails_ahead] at fails
  split at fails
  · exact one _ _ _ within fails
  · exact two _ _ _ within fails

theorem repeating {rule : Nat → Rule α} (each : ∀ rounds, BlamesWithin bound (rule rounds)) :
    BlamesWithin bound (Rule.repeating rule) :=
  fun lexemes => each lexemes.length lexemes

theorem expectMark (text : String) (place : Place) :
    BlamesWithin bound (Rule.expectMark text place) :=
  take (fun _ => succeed ()) (fail _)

theorem expectIdentifier (place : Place) : BlamesWithin bound (Rule.expectIdentifier place) :=
  take (fun _ => succeed _) (fail _)

theorem noted {rule : Rule α} {event : Event} (behind : BlamesWithin bound rule) :
    BlamesWithin bound (Rule.note event >>= fun _ => rule) :=
  bind (.note event) (note event) fun _ => behind

theorem skipped {rule : Rule α} (behind : BlamesWithin bound rule) :
    BlamesWithin bound (Rule.skipComments >>= fun _ => rule) :=
  bind .skipComments skipComments fun _ => behind

theorem marked {rule : Rule α} {text : String} {place : Place} (behind : BlamesWithin bound rule) :
    BlamesWithin bound (Rule.expectMark text place >>= fun _ => rule) :=
  bind (.expectMark text place) (expectMark text place) fun _ => behind

theorem named {later : String → Rule α} {place : Place}
    (behind : ∀ name, BlamesWithin bound (later name)) :
    BlamesWithin bound (Rule.expectIdentifier place >>= later) :=
  bind (.expectIdentifier place) (expectIdentifier place) behind

end BlamesWithin

end Rule

open Rule

variable {bound : Nat} {inner statement : Rule SyntaxTree}

section Expressions

theorem primary_blamesWithin (front : TakesFront inner) (blames : BlamesWithin bound inner) :
    BlamesWithin bound (primary inner) :=
  .take (fun _ => .succeed _) <| .take (fun _ => .succeed _) <|
    .take (fun _ => .bind front blames fun _ => .marked (.pure _)) (.fail _)

theorem unary_blamesWithin (front : TakesFront inner) (blames : BlamesWithin bound inner)
    (rounds : Nat) : BlamesWithin bound (unary inner rounds) := by
  induction rounds with
  | zero => exact blames
  | succ rounds ih =>
    exact .take (fun _ => .bind (unary_takesFront front rounds) ih fun _ => .pure _) blames

theorem binaryRest_blamesWithin (operators : List String) (front : TakesFront inner)
    (blames : BlamesWithin bound inner) (rounds : Nat) (before : SyntaxTree) :
    BlamesWithin bound (binaryRest operators inner rounds before) := by
  induction rounds generalizing before with
  | zero => exact .succeed _
  | succ rounds ih => exact .take (fun _ => .bind front blames fun _ => ih _) (.succeed _)

theorem operation_blamesWithin (front : TakesFront inner) (blames : BlamesWithin bound inner) :
    BlamesWithin bound (operation inner) := by
  have operands := primary_blamesWithin front blames
  have within (levels : List (List String)) :
      TakesFront (levels.foldr binary (repeating (unary (primary inner)))) ∧
        BlamesWithin bound (levels.foldr binary (repeating (unary (primary inner)))) := by
    induction levels with
    | nil =>
      have first := primary_takesFront front
      exact ⟨.repeating (unary_takesFront first), .repeating (unary_blamesWithin first operands)⟩
    | cons operators levels ih =>
      obtain ⟨first, tighter⟩ := ih
      have rest (before : SyntaxTree) :=
        BlamesWithin.repeating (binaryRest_blamesWithin operators first tighter · before)
      exact ⟨binary_takesFront operators first, .bind first tighter rest⟩
  exact (within binaryOperators).2

/-- The equals sign is blamed from behind the expression that follows it. -/
theorem assignment_blamesWithin (front : TakesFront inner) (blames : BlamesWithin bound inner) :
    BlamesWithin bound (assignment inner) := by
  refine .bind (operation_takesFront front) (operation_blamesWithin front blames) fun target => ?_
  refine .counted fun left within => .take (fun _ => .bind front blames fun value => ?_) (.succeed _)
  split
  · exact .pure _
  · exact .failAt within _

theorem expression_blamesWithin : BlamesWithin bound expression := by
  have within (levels : Nat) : BlamesWithin bound (expressionWithin levels) := by
    induction levels with
    | zero => exact .fail _
    | succ levels ih => exact assignment_blamesWithin (expressionWithin_takesFront levels) ih
  exact .repeating within

theorem Rule.BlamesWithin.evaluated {α : Type} {later : SyntaxTree → Rule α}
    (behind : ∀ value, BlamesWithin bound (later value)) :
    BlamesWithin bound (expression >>= later) :=
  .bind expression_takesFront expression_blamesWithin behind

end Expressions

section Clauses

theorem expressionUnless_blamesWithin (closing : String) :
    BlamesWithin bound (expressionUnless closing) :=
  .ahead (.succeed _) (.evaluated fun _ => .pure _)

theorem variableRest_blamesWithin (type : Lexeme) (name : String) :
    BlamesWithin bound (variableRest type name) :=
  .noted <| .take (fun _ => .evaluated fun _ => .pure _) (.succeed _)

theorem parametersRest_blamesWithin (rounds opened : Nat) :
    BlamesWithin bound (parametersRest rounds opened) := by
  induction rounds generalizing opened with
  | zero => exact .fail _
  | succ rounds ih =>
    refine .take (fun _ => ih _) <| .take (fun _ => ?_) <| .take (fun _ => ih _) (.fail _)
    split
    · exact .succeed _
    · exact ih _

theorem condition_blamesWithin (opening closing : Place) :
    BlamesWithin bound (condition opening closing) :=
  .marked <| .evaluated fun _ => .marked (.pure _)

theorem forInit_blamesWithin : BlamesWithin bound forInit :=
  .take (fun _ => .succeed _) <|
    .take (fun _ => .named fun _ =>
      .bind (variableRest_takesFront _ _) (variableRest_blamesWithin _ _) fun _ => .marked (.pure _)) <|
    .evaluated fun _ => .marked (.pure _)

theorem returnRest_blamesWithin : BlamesWithin bound returnRest :=
  .bind (expressionUnless_takesFront _) (expressionUnless_blamesWithin _) fun _ => .marked (.pure _)

theorem expressionStatement_blamesWithin : BlamesWithin bound expressionStatement :=
  .evaluated fun _ => .marked (.pure _)

end Clauses

section Phrases

theorem declarations_blamesWithin (closes : Option Lexeme → Bool) (front : TakesFront inner)
    (blames : BlamesWithin bound inner) (rounds : Nat) :
    BlamesWithin bound (declarations closes inner rounds) := by
  induction rounds with
  | zero => exact .succeed _
  | succ rounds ih =>
    exact .skipped <| .ahead (.succeed _) <| .bind front blames fun _ =>
      .bind (declarations_takesFront closes front rounds) ih fun _ => .pure _

theorem blockRest_blamesWithin (front : TakesFront inner) (blames : BlamesWithin bound inner) :
    BlamesWithin bound (blockRest inner) :=
  .bind (.repeating (declarations_takesFront _ front))
    (.repeating (declarations_blamesWithin _ front blames)) fun _ => .marked (.pure _)

theorem functionRest_blamesWithin (front : TakesFront inner) (blames : BlamesWithin bound inner)
    (type : Lexeme) (name : String) : BlamesWithin bound (functionRest inner type name) :=
  have body : BlamesWithin bound (blockRest inner) := blockRest_blamesWithin front blames
  .noted <| .bind (.repeating (parametersRest_takesFront · 0))
    (.repeating (parametersRest_blamesWithin · 0)) fun _ =>
    .take (fun _ => .bind (blockRest_takesFront front) body fun _ => .pure _) (.succeed _)

theorem ifRest_blamesWithin (front : TakesFront statement)
    (blames : BlamesWithin bound statement) : BlamesWithin bound (ifRest statement) :=
  .bind (condition_takesFront _ _) (condition_blamesWithin _ _) fun _ =>
    .bind front blames fun _ => .take (fun _ => .bind front blames fun _ => .pure _) (.succeed _)

theorem whileRest_blamesWithin (front : TakesFront statement)
    (blames : BlamesWithin bound statement) : BlamesWithin bound (whileRest statement) :=
  .bind (condition_takesFront _ _) (condition_blamesWithin _ _) fun _ =>
    .bind front blames fun _ => .pure _

theorem forRest_blamesWithin (front : TakesFront statement)
    (blames : BlamesWithin bound statement) : BlamesWithin bound (forRest statement) :=
  .marked <| .bind forInit_takesFront forInit_blamesWithin fun _ =>
    .bind (expressionUnless_takesFront _) (expressionUnless_blamesWithin _) fun _ => .marked <|
    .bind (expressionUnless_takesFront _) (expressionUnless_blamesWithin _) fun _ => .marked <|
    .bind front blames fun _ => .pure _

theorem statementHere_blamesWithin (front : TakesFront inner) (blames : BlamesWithin bound inner)
    (frontStatement : TakesFront statement) (blamesStatement : BlamesWithin bound statement) :
    BlamesWithin bound (statementHere inner statement) :=
  .counted fun _ _ => .noted <|
    .take (fun _ => ifRest_blamesWithin frontStatement blamesStatement) <|
    .take (fun _ => whileRest_blamesWithin frontStatement blamesStatement) <|
    .take (fun _ => forRest_blamesWithin frontStatement blamesStatement) <|
    .take (fun _ => returnRest_blamesWithin) <|
    .take (fun _ => blockRest_blamesWithin front blames) expressionStatement_blamesWithin

theorem anyStatement_blamesWithin (front : TakesFront inner) (blames : BlamesWithin bound inner)
    (frontStatement : TakesFront statement) (blamesStatement : BlamesWithin bound statement) :
    BlamesWithin bound (anyStatement inner statement) :=
  .skipped <| .ahead (.fail _) <|
    statementHere_blamesWithin front blames frontStatement blamesStatement

theorem anyDeclaration_blamesWithin (front : TakesFront inner) (blames : BlamesWithin bound inner)
    (frontStatement : TakesFront statement) (blamesStatement : BlamesWithin bound statement) :
    BlamesWithin bound (anyDeclaration inner statement) :=
  .skipped <| .take
    (fun _ => .named fun _ => .take (fun _ => functionRest_blamesWithin front blames _ _) <|
      .bind (variableRest_takesFront _ _) (variableRest_blamesWithin _ _) fun _ => .marked (.pure _))
    (anyStatement_blamesWithin front blames frontStatement blamesStatement)

theorem within_blamesWithin (levels : Nat) :
    BlamesWithin bound (declarationWithin levels) ∧ BlamesWithin bound (statementWithin levels) := by
  induction levels with
  | zero => exact ⟨.fail _, .fail _⟩
  | succ levels ih =>
    obtain ⟨front, frontStatement⟩ := within_takesFront levels
    exact ⟨anyDeclaration_blamesWithin front ih.1 frontStatement ih.2,
      anyStatement_blamesWithin front ih.1 frontStatement ih.2⟩

/-- A program that fails is at fault at one of its own lexemes, or at its end. -/
theorem program_blames {lexemes rest : List Lexeme} {fault : Fault}
    (fails : Fails program lexemes fault rest) : fault.left ≤ lexemes.length := by
  have inner : BlamesWithin lexemes.length declaration :=
    .repeating fun levels => (within_blamesWithin levels).1
  have sequence := BlamesWithin.repeating
    (declarations_blamesWithin (· = none) declaration_takesFront inner)
  have front : TakesFront (repeating (declarations (· = none) declaration)) :=
    .repeating (declarations_takesFront _ declaration_takesFront)
  have whole : BlamesWithin lexemes.length program := .bind front sequence fun _ => .pure _
  exact whole lexemes fault rest (Nat.le_refl _) fails

end Phrases

end Grammar

namespace Parsing

open Grammar Rule

variable {left : List Token} {fault : Fault}

/-- A token is found among the last ones wherever they stand. -/
theorem locate_append_left (some : left ≠ []) (within : fault.left ≤ left.length)
    (taken : List Token) : locate (taken ++ left) fault = locate left fault := by
  have positive := List.length_pos_iff.mpr some
  have index : (taken ++ left).length - max 1 fault.left =
      taken.length + (left.length - max 1 fault.left) := by
    rw [List.length_append]
    omega
  have here : tokenAt (taken ++ left) fault.left = tokenAt left fault.left := by
    rw [tokenAt, tokenAt, index, List.drop_length_add_append]
  rw [locate, locate, locationAt, locationAt, here]

/-- A program is at fault at the same place whatever stands before it. -/
theorem locate_behind {rest : List Lexeme}
    (fails : Fails program (left.map Token.toLexeme) fault rest) (taken : List Token) :
    locate (taken ++ left) fault = locate left fault := by
  have within := program_blames fails
  rw [List.length_map] at within
  -- The empty program is no program that fails.
  have some : left ≠ [] := by
    rintro rfl
    obtain ⟨events, reply⟩ := fails
    cases reply
  exact locate_append_left some within taken

/-- Tokens before those that are parsed make no difference to what comes of it. -/
theorem ofReply_behind (taken left : List Token) :
    (ofReply (taken ++ left) (program (left.map Token.toLexeme))).outcome = parse left := by
  rw [parse_eq]
  rcases reply : program (left.map Token.toLexeme) with ⟨events, rest, outcome⟩
  cases outcome with
  | ok tree => rfl
  | error fault => exact congrArg Except.error (locate_behind ⟨events, reply⟩ taken)

end Parsing

end SyntaxExplorer
