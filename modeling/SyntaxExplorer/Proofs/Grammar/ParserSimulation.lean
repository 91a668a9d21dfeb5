import SyntaxExplorer.Proofs.Grammar.Simulation

namespace SyntaxExplorer

open Grammar

namespace Parser

open SyntaxExplorer.Action Parsing

variable {tokens : List Token} {inner statement : Action SyntaxTree}
  {inner' statement' : Rule SyntaxTree}

theorem parseGrouping_simulates (same : Simulates tokens inner inner') :
    Simulates tokens (parseGrouping inner)
      (Rule.take (· = Rule.mark "(")
        (fun _ => do
          let tree ← inner'
          Rule.expectMark ")" .afterExpression
          return ⟨.grouping, none, [tree]⟩)
        (Rule.fail .expectedExpression)) :=
  .matchToken (.bind same fun _ => .bind (.expectMark _ _) fun _ => .succeed _) (.stop _)

theorem parsePrimary_simulates (same : Simulates tokens inner inner') :
    Simulates tokens (parsePrimary inner) (primary inner') := by
  refine ⟨primary_takesFront same.front, ?_⟩
  rintro before left rfl
  have grouping := (parseGrouping_simulates same).run before left rfl
  rw [parsePrimary, bind_of_ok rfl, peek_between, primary]
  cases left with
  | nil => exact grouping
  | cons token left =>
    have next (value : SyntaxTree) :
        (do let _ ← advance; return value : Action SyntaxTree) (between before (token :: left)) =
          told (before ++ token :: left) (Rule.succeed value (left.map Token.toLexeme)) := by
      rw [bind_of_ok advance_between]
      exact (Simulates.succeed value).behind
    cases kind : token.kind
    case number =>
      rw [List.map_cons, Rule.take_of_pos (by simpa using kind)]
      simp only [List.head?_cons, kind]
      exact next _
    case identifier =>
      rw [List.map_cons, Rule.take_of_neg (by simp [kind]), Rule.take_of_pos (by simpa using kind)]
      simp only [List.head?_cons, kind]
      exact next _
    all_goals
      rw [List.map_cons, Rule.take_of_neg (by simp [kind]), Rule.take_of_neg (by simp [kind])]
      simp only [List.head?_cons, kind]
      exact grouping

theorem parseUnary_simulates (same : Simulates tokens inner inner') (rounds : Nat) :
    Simulates tokens (parseUnary inner rounds) (unary inner' rounds) := by
  induction rounds with
  | zero => exact same
  | succ rounds ih => exact .matchOneOf (fun _ => .bind ih fun _ => .succeed _) same

theorem parseBinaryRest_simulates (operators : List String)
    (same : Simulates tokens inner inner') (rounds : Nat) (before : SyntaxTree) :
    Simulates tokens (parseBinaryRest operators inner rounds before)
      (binaryRest operators inner' rounds before) := by
  induction rounds generalizing before with
  | zero => exact .succeed _
  | succ rounds ih => exact .matchOneOf (fun _ => .bind same fun _ => ih _) (.succeed _)

theorem parseBinaryLevel_simulates (operators : List String)
    (same : Simulates tokens inner inner') :
    Simulates tokens (parseBinaryLevel operators inner) (binary operators inner') :=
  .bind same fun _ => .repeating fun _ => parseBinaryRest_simulates operators same _ _

theorem parseOperation_simulates (same : Simulates tokens inner inner') :
    Simulates tokens (parseOperation inner) (operation inner') := by
  unfold parseOperation operation
  induction binaryOperators with
  | nil => exact .repeating fun _ => parseUnary_simulates (parsePrimary_simulates same) _
  | cons operators levels ih => exact parseBinaryLevel_simulates operators ih

/-- The rule blames the equals sign by the number of lexemes left there, which tells its place. -/
theorem parseAssignment_simulates (same : Simulates tokens inner inner') :
    Simulates tokens (parseAssignment inner) (assignment inner') := by
  refine .bind (parseOperation_simulates same) fun target => ⟨?_, ?_⟩
  · refine .bind .left fun left => .take (fun _ => .bind same.front fun value => ?_) (.succeed _)
    split
    · exact .pure _
    · exact .failAt _ _
  rintro before left rfl
  rw [Rule.left_bind]
  cases left with
  | nil =>
    rw [matchOperator, bind_of_ok (matchOneOf_of_nil _ _)]
    exact (Simulates.succeed target).run before [] rfl
  | cons token left =>
    cases fits : decide (token.kind = .operator) && decide (token.text ∈ ["="]) with
    | false =>
      rw [matchOperator, bind_of_ok (matchOneOf_of_neg fits), List.map_cons, Rule.take_of_neg fits]
      exact (Simulates.succeed target).run before (token :: left) rfl
    | true =>
      have there : locationAt (before ++ token :: left) (left.length + 1) = token.location :=
        locationAt_of_tokenAt tokenAt_cons
      rw [matchOperator, bind_of_ok (matchOneOf_of_pos fits), List.map_cons, Rule.take_of_pos fits,
        List.length_cons, List.length_map]
      refine Simulates.behind (.bind same fun value => ?_)
      split
      · exact .succeed _
      · exact .raise there

theorem parseExpressionWithin_simulates (levels : Nat) :
    Simulates tokens (parseExpressionWithin levels) (expressionWithin levels) := by
  induction levels with
  | zero => exact .stop _
  | succ levels ih => exact parseAssignment_simulates ih

theorem parseExpression_simulates : Simulates tokens parseExpression expression :=
  .repeating parseExpressionWithin_simulates

theorem parseExpressionUnless_simulates (closing : String) :
    Simulates tokens (parseExpressionUnless closing) (expressionUnless closing) :=
  .branch (fun _ _ => checkMark_between) (.succeed _)
    (.bind parseExpression_simulates fun _ => .succeed _)

theorem parseVariable_simulates (type name : Token) :
    Simulates tokens (parseVariable type name) (variableRest type.toLexeme name.text) :=
  .bind (.note rfl) fun _ =>
    .matchOneOf (fun _ => .bind parseExpression_simulates fun _ => .succeed _) (.succeed _)

/-- One lexeme is taken either way, and what it is decides how to go on. -/
theorem parametersRest_succ (rounds opened : Nat) :
    parametersRest (rounds + 1) opened = Rule.take (fun _ => true)
      (fun lexeme =>
        if lexeme = ⟨.punctuation, "("⟩ then parametersRest rounds (opened + 1)
        else if lexeme = ⟨.punctuation, ")"⟩ then
          match opened with
          | 0 => Rule.succeed ()
          | opened + 1 => parametersRest rounds opened
        else parametersRest rounds opened)
      (Rule.fail fun _ => .unexpectedEnd .parameters) := by
  funext lexemes
  cases lexemes with
  | nil => rfl
  | cons lexeme lexemes =>
    rw [Rule.take_of_pos rfl]
    by_cases opens : lexeme = ⟨.punctuation, "("⟩
    · rw [if_pos opens]
      exact Rule.take_of_pos (decide_eq_true opens) lexemes
    · rw [if_neg opens]
      refine (Rule.take_of_neg (decide_eq_false opens) lexemes).trans ?_
      by_cases shuts : lexeme = ⟨.punctuation, ")"⟩
      · rw [if_pos shuts]
        exact Rule.take_of_pos (decide_eq_true shuts) lexemes
      · rw [if_neg shuts]
        exact (Rule.take_of_neg (decide_eq_false shuts) lexemes).trans (Rule.take_of_pos rfl lexemes)

/-- The parser counts all parentheses that are open, and the rule those opened inside. -/
theorem skipParameterList_simulates (rounds opened : Nat) :
    Simulates tokens (skipParameterList rounds (opened + 1)) (parametersRest rounds opened) := by
  induction rounds generalizing opened with
  | zero =>
    rw [skipParameterList]
    exact .stop _
  | succ rounds ih =>
    rw [skipParameterList, parametersRest_succ]
    refine .advance (fun token => ?_) (.stop _)
    by_cases opens : token.toLexeme = ⟨.punctuation, "("⟩
    · rw [if_pos opens, if_pos opens]
      exact ih (opened + 1)
    · rw [if_neg opens, if_neg opens]
      by_cases shuts : token.toLexeme = ⟨.punctuation, ")"⟩
      · rw [if_pos shuts, if_pos shuts]
        cases opened with
        | zero =>
          rw [skipParameterList]
          exact .succeed ()
        | succ opened => exact ih opened
      · rw [if_neg shuts, if_neg shuts]
        exact ih opened

theorem parseSequence_simulates {closes : Parser → Bool} {closes' : Option Lexeme → Bool}
    (answer : ∀ before left, closes (between before left) = closes' (left.map Token.toLexeme).head?)
    (same : Simulates tokens inner inner') (rounds : Nat) :
    Simulates tokens (parseSequence closes inner rounds) (declarations closes' inner' rounds) := by
  induction rounds with
  | zero => exact .succeed _
  | succ rounds ih =>
    exact .bind .skipComments fun _ => .branch answer (.succeed _) <|
      .bind same fun _ => .bind ih fun _ => .succeed _

theorem isAtEnd_between (before left : List Token) :
    (between before left).isAtEnd = decide ((left.map Token.toLexeme).head? = none) := by
  cases left <;> simp [isAtEnd, between]

theorem blockCloses_between (before left : List Token) :
    ((between before left).checkMark "\x7d" || (between before left).isAtEnd) =
      (decide ((left.map Token.toLexeme).head? = none) ||
        decide ((left.map Token.toLexeme).head? = some (Rule.mark "\x7d"))) := by
  rw [checkMark_between, isAtEnd_between, Bool.or_comm]

theorem parseBlock_simulates (same : Simulates tokens inner inner') :
    Simulates tokens (parseBlock inner) (blockRest inner') :=
  .bind (.repeating (parseSequence_simulates blockCloses_between same)) fun _ =>
    .bind (.expectMark _ _) fun _ => .succeed _

theorem parseFunction_simulates (same : Simulates tokens inner inner') (type name : Token) :
    Simulates tokens (parseFunction inner type name)
      (functionRest inner' type.toLexeme name.text) :=
  .bind (.note rfl) fun _ =>
    .bind (.repeating fun _ => skipParameterList_simulates _ 0) fun _ =>
    .matchToken (.bind (parseBlock_simulates same) fun _ => .succeed _) (.succeed _)

theorem parseCondition_simulates (opening closing : Place) :
    Simulates tokens (parseCondition opening closing) (condition opening closing) :=
  .bind (.expectMark _ _) fun _ => .bind parseExpression_simulates fun _ =>
    .bind (.expectMark _ _) fun _ => .succeed _

theorem parseIf_simulates (same : Simulates tokens statement statement') :
    Simulates tokens (parseIf statement) (ifRest statement') :=
  .bind (parseCondition_simulates _ _) fun _ => .bind same fun _ =>
    .matchToken (.bind same fun _ => .succeed _) (.succeed _)

theorem parseWhile_simulates (same : Simulates tokens statement statement') :
    Simulates tokens (parseWhile statement) (whileRest statement') :=
  .bind (parseCondition_simulates _ _) fun _ => .bind same fun _ => .succeed _

theorem parseForInit_simulates : Simulates tokens parseForInit forInit :=
  .matchToken (.succeed _) <|
    .matchOneOf
      (fun type => .expectIdentifier fun name =>
        .bind (parseVariable_simulates type name) fun _ =>
        .bind (.expectMark _ _) fun _ => .succeed _)
      (.bind parseExpression_simulates fun _ => .bind (.expectMark _ _) fun _ => .succeed _)

theorem parseFor_simulates (same : Simulates tokens statement statement') :
    Simulates tokens (parseFor statement) (forRest statement') :=
  .bind (.expectMark _ _) fun _ => .bind parseForInit_simulates fun _ =>
    .bind (parseExpressionUnless_simulates _) fun _ => .bind (.expectMark _ _) fun _ =>
    .bind (parseExpressionUnless_simulates _) fun _ => .bind (.expectMark _ _) fun _ =>
    .bind same fun _ => .succeed _

theorem parseReturn_simulates : Simulates tokens parseReturn returnRest :=
  .bind (parseExpressionUnless_simulates _) fun _ => .bind (.expectMark _ _) fun _ => .succeed _

theorem parseExpressionStatement_simulates :
    Simulates tokens parseExpressionStatement expressionStatement :=
  .bind parseExpression_simulates fun _ => .bind (.expectMark _ _) fun _ => .succeed _

/-- The rule announces a statement by the number of lexemes left, which tells its first token. -/
theorem parseAnyStatement_simulates (same : Simulates tokens inner inner')
    (sameStatement : Simulates tokens statement statement') :
    Simulates tokens (parseAnyStatement inner statement) (anyStatement inner' statement') := by
  have front := statementHere_takesFront same.front sameStatement.front
  refine .bind .skipComments fun _ => ⟨.ahead (.fail _) front, ?_⟩
  rintro before left rfl
  rw [bind_of_ok rfl, peek_between]
  cases left with
  | nil => exact (Simulates.stop _).run before [] rfl
  | cons token left =>
    have first : resolve (before ++ token :: left) (.statement (left.length + 1)) =
        some (.statement token) := by
      rw [resolve, tokenAt_cons]
      rfl
    rw [Rule.ahead, if_neg (by simp), statementHere, Rule.left_bind, List.length_map, List.length_cons]
    refine (Simulates.bind (.note first) fun _ => ?_).run before (token :: left) rfl
    exact .matchToken (parseIf_simulates sameStatement) <|
      .matchToken (parseWhile_simulates sameStatement) <|
      .matchToken (parseFor_simulates sameStatement) <|
      .matchToken parseReturn_simulates <|
      .matchToken (parseBlock_simulates same) parseExpressionStatement_simulates

theorem parseAnyDeclaration_simulates (same : Simulates tokens inner inner')
    (sameStatement : Simulates tokens statement statement') :
    Simulates tokens (parseAnyDeclaration inner statement) (anyDeclaration inner' statement') :=
  .bind .skipComments fun _ =>
    .matchOneOf
      (fun type => .expectIdentifier fun name =>
        .matchToken (parseFunction_simulates same type name)
          (.bind (parseVariable_simulates type name) fun _ =>
            .bind (.expectMark _ _) fun _ => .succeed _))
      (parseAnyStatement_simulates same sameStatement)

theorem within_simulates (levels : Nat) :
    Simulates tokens (parseDeclarationWithin levels) (declarationWithin levels) ∧
      Simulates tokens (parseStatementWithin levels) (statementWithin levels) := by
  induction levels with
  | zero =>
    rw [parseDeclarationWithin, parseStatementWithin, declarationWithin, statementWithin]
    exact ⟨.stop _, .stop _⟩
  | succ levels ih =>
    exact ⟨parseAnyDeclaration_simulates ih.1 ih.2, parseAnyStatement_simulates ih.1 ih.2⟩

theorem parseDeclaration_simulates : Simulates tokens parseDeclaration declaration :=
  .repeating fun levels => (within_simulates levels).1

theorem parseStatement_simulates : Simulates tokens parseStatement Grammar.statement :=
  .repeating fun levels => (within_simulates levels).2

section Unbounded

variable (before left : List Token)

/-- The bound on the nesting is never met: an expression is an assignment of expressions or less. -/
theorem parseExpression_eq :
    parseExpression (between before left) = parseAssignment parseExpression (between before left) := by
  have unbounded : Simulates (before ++ left) (parseAssignment parseExpression) expression := by
    rw [expression_eq]
    exact parseAssignment_simulates parseExpression_simulates
  rw [parseExpression_simulates.run _ _ rfl, unbounded.run _ _ rfl]

theorem parseDeclaration_eq :
    parseDeclaration (between before left) =
      parseAnyDeclaration parseDeclaration parseStatement (between before left) := by
  have unbounded : Simulates (before ++ left) (parseAnyDeclaration parseDeclaration parseStatement)
      declaration := by
    rw [declaration_eq]
    exact parseAnyDeclaration_simulates parseDeclaration_simulates parseStatement_simulates
  rw [parseDeclaration_simulates.run _ _ rfl, unbounded.run _ _ rfl]

theorem parseStatement_eq :
    parseStatement (between before left) =
      parseAnyStatement parseDeclaration parseStatement (between before left) := by
  have unbounded : Simulates (before ++ left) (parseAnyStatement parseDeclaration parseStatement)
      Grammar.statement := by
    rw [statement_eq]
    exact parseAnyStatement_simulates parseDeclaration_simulates parseStatement_simulates
  rw [parseStatement_simulates.run _ _ rfl, unbounded.run _ _ rfl]

end Unbounded

/-- The parser reads what the grammar reads of the lexemes, and blames the token that the grammar blames. -/
theorem parseProgram_simulates : Simulates tokens parseProgram program :=
  .bind (.repeating (parseSequence_simulates isAtEnd_between parseDeclaration_simulates))
    fun _ => .succeed _

theorem call_between (before left : List Token) :
    (between before left).call = ofReply (before ++ left) (program (left.map Token.toLexeme)) := by
  rw [call, parseProgram_simulates.run before left rfl]
  rfl

theorem next_between (before left : List Token) :
    (between before left).next = ⟨before ++ left,
      (before ++ left).length - (program (left.map Token.toLexeme)).rest.length⟩ := by
  rw [next, parseProgram_simulates.run before left rfl]
  rfl

end Parser

namespace Parsing

theorem ofTokens_eq (tokens : List Token) :
    ofTokens tokens = ofReply tokens (program (tokens.map Token.toLexeme)) :=
  Parser.call_between [] tokens

/-- The outcome is that of the lexemes, with its fault located among the tokens. -/
theorem parse_eq (tokens : List Token) :
    parse tokens = (program (tokens.map Token.toLexeme)).outcome.mapError (locate tokens) := by
  rw [parse, ofTokens_eq]
  rfl

theorem parse_nil : parse [] = .ok ⟨.program, none, []⟩ :=
  rfl

/-- An error is at a token, as no program lacks tokens. -/
theorem exists_token_of_parse_error {tokens : List Token} {error : ParseError}
    (failed : parse tokens = .error error) : ∃ token ∈ tokens, error.location = token.location := by
  have some : tokens ≠ [] := by
    rintro rfl
    rw [parse_nil] at failed
    cases failed
  rw [parse_eq] at failed
  cases outcome : (program (tokens.map Token.toLexeme)).outcome with
  | ok tree =>
    rw [outcome] at failed
    cases failed
  | error fault =>
    rw [outcome] at failed
    obtain rfl : locate tokens fault = error := Except.error.inj failed
    have within := indexAt_lt some fault.left
    have found : tokenAt tokens fault.left = tokens[indexAt tokens.length fault.left] := by
      rw [tokenAt_eq, List.getElem?_eq_getElem within]
    exact ⟨_, List.getElem_mem within, by rw [locate_of_tokenAt found]⟩

end Parsing

end SyntaxExplorer
