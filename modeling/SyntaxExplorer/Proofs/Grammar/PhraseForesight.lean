import SyntaxExplorer.Proofs.Grammar.ExpressionForesight

namespace SyntaxExplorer.Grammar

open Rule

variable {bound : Nat} {follow : List Lexeme → Prop} {inner : Rule SyntaxTree}

/-- The shortest statement. -/
def someStatement : List Lexeme :=
  [someName, mark ";"]

theorem expression_takesSome : TakesSome expression := by
  intro lexemes tree rest takes
  obtain ⟨word, rfl, derived⟩ := expression_readsExpression _ _ _ takes
  obtain ⟨first, later, rfl, -⟩ := derived.begins
  simp only [List.cons_append, List.length_cons, List.length_append]
  omega

section Clauses

theorem expressionUnless_prompt (closing : String) (bound : Nat)
    (known : ∀ tail, Quiet (mark closing :: tail)) :
    Prompt [] (·.head? = some (mark closing)) bound (expressionUnless closing) := by
  have quiet (tail : List Lexeme) (next : tail.head? = some (mark closing)) : Quiet tail := by
    obtain ⟨later, rfl⟩ := List.head?_eq_some_iff.mp next
    exact known later
  have evaluated : Prompt [someName] (·.head? = some (mark closing)) bound
      (expression >>= fun inner => pure [inner]) :=
    ((expression_prompt bound).weaken quiet).returning
  refine .ahead_succeed ⟨evaluated.toSteady, ?_⟩ fun tail next => decide_eq_true next
  exact .bind_left expression_takesSome fun _ => .pure _

theorem variableRest_prompt (bound : Nat) (type : Lexeme) (name : String) :
    Prompt [] Quiet bound (variableRest type name) := by
  have value : Prompt [] Quiet (bound + 1) (take (isOperatorIn ["="])
      (fun _ => do
        let value ← expression
        return (⟨.variableDeclaration, some name,
          [.leaf .type type.text, ⟨.initialization, none, [value]⟩]⟩ : SyntaxTree))
      (succeed ⟨.variableDeclaration, some name, [.leaf .type type.text]⟩)) := by
    refine .take_succeed (fun _ => [someName]) (fun _ => ?_) fun _ quiet => quiet.noOperator
    exact (expression_prompt bound).returning
  exact (Prompt.note _).leading fun _ => value.mono (Nat.le_succ _)

/-- A variable's declaration ends with a semicolon. -/
theorem declared_prompt {α : Type} (bound : Nat) (type : Lexeme) (name : String) (place : Place)
    (later : SyntaxTree → α) :
    Prompt [mark ";"] follow bound (do
      let declared ← variableRest type name
      expectMark ";" place
      return later declared) :=
  (variableRest_prompt bound type name).closed (fun _ => quiet_cons (by simp)) fun _ => .pure _

theorem parametersRest_opens (opened : Nat) :
    Opens (List.replicate (opened + 1) (mark ")")) follow (repeating (parametersRest · opened)) := by
  intro tail next
  refine ⟨(), ?_⟩
  induction opened with
  | zero => exact parameters_complete .nil
  | succ opened ih =>
    rw [List.replicate_succ, List.cons_append, parametersRest_eq,
      takes_take_of_not (by rintro _ ⟨⟩; decide), takes_take_of_holds (decide_eq_true rfl)]
    exact ih

/-- Every parenthesis that was opened is closed. -/
theorem parametersRest_prompt (bound opened : Nat) :
    Prompt (List.replicate (opened + 1) (mark ")")) follow bound
      (repeating (parametersRest · opened)) := by
  refine ⟨?_, parametersRest_opens opened⟩
  induction bound generalizing opened with
  | zero => exact .zero (.repeating fun _ => parametersRest_takesFront _ _)
  | succ bound ih =>
    have within (opened : Nat) : Prompt (List.replicate (opened + 1) (mark ")")) follow bound
        (repeating (parametersRest · opened)) :=
      ⟨ih opened, parametersRest_opens opened⟩
    rw [parametersRest_eq]
    refine (Eager.take _ (fun _ => within (opened + 1)) <|
      .take (fun _ => List.replicate opened (mark ")")) (fun _ => ?_) <|
      .take _ (fun _ => within opened) (.fail _)).toSteady
    cases opened with
    | zero => exact .succeed ()
    | succ opened => exact within opened

theorem condition_prompt (bound : Nat) (opening closing : Place) :
    Prompt [mark "(", someName, mark ")"] follow bound (condition opening closing) :=
  .marked <| (expression_prompt bound).closed (fun _ => quiet_cons (by simp)) fun _ => .pure _

/-- An expression is ended by a semicolon. -/
theorem evaluated_prompt {α : Type} (bound : Nat) (place : Place) (later : SyntaxTree → α) :
    Prompt someStatement follow bound (do
      let inner ← expression
      expectMark ";" place
      return later inner) :=
  (expression_prompt bound).closed (fun _ => quiet_cons (by simp)) fun _ => .pure _

theorem forInit_prompt (bound : Nat) : Prompt [mark ";"] follow bound forInit := by
  have evaluated : Eager follow (bound + 1) (do
      let inner ← expression
      expectMark ";" .afterForInitialization
      return (⟨.forInit, none, [inner]⟩ : SyntaxTree)) :=
    ⟨(evaluated_prompt _ _ _).toSteady,
      .bind_left expression_takesSome fun _ => .bind (.expectMark _ _) fun _ => .pure _⟩
  have steady : Steady follow (bound + 1) forInit := by
    refine (Eager.take (fun _ => []) (fun _ => .succeed _) <|
      .take (fun _ => someStatement) (fun type => ?_) evaluated).toSteady
    exact .named _ fun name => declared_prompt bound type name _ _
  refine ⟨steady.mono (Nat.le_succ _), fun tail _ => ⟨⟨.forInit, none, []⟩, ?_⟩⟩
  exact (takes_take_of_holds (decide_eq_true rfl)).mpr (takes_succeed.mpr ⟨rfl, rfl⟩)

theorem returnRest_prompt (bound : Nat) : Prompt [mark ";"] follow bound returnRest :=
  (expressionUnless_prompt ";" bound fun _ => quiet_cons (by simp)).closed (fun _ => rfl) fun _ => .pure _

theorem expressionStatement_prompt (bound : Nat) :
    Prompt someStatement follow bound expressionStatement :=
  evaluated_prompt bound _ id

end Clauses

section Phrases

/-- A sequence of declarations is over before these lexemes, which suit any declaration. -/
theorem Ends.quiet {closes : Option Lexeme → Bool} {rest : List Lexeme} (ends : Ends closes rest) :
    Quiet rest := by
  intro lexeme next
  rw [ends.brace lexeme next]
  exact .inr (by simp)

/-- A sequence of declarations is completed as the last declaration in it is. -/
theorem declarations_prompt {closes : Option Lexeme → Bool} {word : List Lexeme}
    (atEnd : closes none = true) (some : TakesSome inner) (prompt : Prompt word Quiet bound inner) :
    Prompt [] (Ends closes) bound (repeating (declarations closes inner)) := by
  have front := prompt.front
  have sequenceFront : TakesFront (repeating (declarations closes inner)) :=
    .repeating fun _ => declarations_takesFront closes front _
  have round {bound : Nat} (steady : Steady (Ends closes) bound (do
      let first ← inner
      let others ← repeating (declarations closes inner)
      return first :: others)) :
      Prompt [] (Ends closes) bound (repeating (declarations closes inner)) := by
    rw [declarations_eq atEnd some front]
    refine .skipped (.ahead_succeed ⟨steady, ?_⟩ fun _ ends => ends.here)
      (fun _ ends => ends.noComment) (.inl fun _ ends => ends.noComment)
    exact .bind_left some fun _ => .bind sequenceFront fun _ => .pure _
  -- On what is read: a declaration takes a lexeme, so the others read fewer.
  induction bound with
  | zero => exact round (.zero (.bind front fun _ => .bind sequenceFront fun _ => .pure _))
  | succ bound ih =>
    have others := ih (prompt.mono (Nat.le_succ _))
    exact round (prompt.toSteady.bind (fun first => others.returning) (.inr ⟨Nat.le_refl _, some⟩)
      (.inl fun _ ends => ends.quiet) fun _ ends => ends.quiet)

theorem blockRest_prompt (some : TakesSome inner) (prompt : Prompt someStatement Quiet bound inner) :
    Prompt [mark "\x7d"] follow bound (blockRest inner) :=
  (declarations_prompt rfl some prompt).closed (fun _ => ends_brace _) fun _ => .pure _

/-- No lexeme that may follow begins what may be left out. -/
theorem Quiet.ne {rest : List Lexeme} {lexeme : Lexeme} (quiet : Quiet rest)
    (other : lexeme.kind ≠ .identifier ∧ lexeme ∉ [mark ";", mark ")", mark "\x7d"]) :
    ∀ next ∈ rest.head?, decide (next = lexeme) = false := by
  intro next here
  apply decide_eq_false
  rintro rfl
  exact (quiet next here).elim other.1 other.2

theorem functionRest_prompt (some : TakesSome inner) (prompt : Prompt someStatement Quiet bound inner)
    (type : Lexeme) (name : String) :
    Prompt [mark ")"] Quiet bound (functionRest inner type name) := by
  have body : Prompt [] Quiet bound (take (· = mark "\x7b")
      (fun _ => do
        let body ← blockRest inner
        return (⟨.functionDeclaration, name, [.leaf .type type.text, ⟨.parameters, none, []⟩] ++
          [body]⟩ : SyntaxTree))
      (succeed ⟨.functionDeclaration, name, [.leaf .type type.text, ⟨.parameters, none, []⟩]⟩)) := by
    refine (Prompt.take_succeed (fun _ => [mark "\x7d"]) (fun _ => ?_)
      fun _ quiet => quiet.ne (by decide)).mono (Nat.le_succ _)
    exact (blockRest_prompt some prompt).returning
  exact (Prompt.note _).leading fun _ => (parametersRest_prompt bound 0).leading fun _ => body

end Phrases

section Statements

variable {statement : Rule SyntaxTree}

theorem ifRest_prompt (prompt : Prompt someStatement Quiet bound statement) :
    Prompt (mark "(" :: someName :: mark ")" :: someStatement) Quiet bound (ifRest statement) := by
  have other (test yes : SyntaxTree) : Prompt [] Quiet bound (take (· = keyword "else")
      (fun _ => do
        let no ← statement
        return (⟨.ifStatement, none, [test, yes, no]⟩ : SyntaxTree))
      (succeed ⟨.ifStatement, none, [test, yes]⟩)) :=
    (Prompt.take_succeed (fun _ => someStatement) (fun _ => prompt.returning)
      fun _ quiet => quiet.ne (by decide)).mono (Nat.le_succ _)
  exact (condition_prompt bound _ _).leading fun test => prompt.extended (other test)

theorem whileRest_prompt (prompt : Prompt someStatement Quiet bound statement) :
    Prompt (mark "(" :: someName :: mark ")" :: someStatement) Quiet bound (whileRest statement) :=
  (condition_prompt bound _ _).leading fun _ => prompt.returning

theorem forRest_prompt (prompt : Prompt someStatement Quiet bound statement) :
    Prompt (mark "(" :: mark ";" :: mark ";" :: mark ")" :: someStatement) Quiet bound
      (forRest statement) := by
  have semicolon := expressionUnless_prompt ";" bound fun _ => quiet_cons (by simp)
  have parenthesis := expressionUnless_prompt ")" bound fun _ => quiet_cons (by simp)
  refine .marked <| (forInit_prompt bound).leading fun _ => ?_
  exact semicolon.closed (fun _ => rfl) fun _ =>
    parenthesis.closed (fun _ => rfl) fun _ => prompt.returning

end Statements

section Nesting

theorem someStatement_isPhrase : IsPhrase .statement someStatement [.leaf .identifier "x"] :=
  .expression someName_isExpression

theorem someStatement_fits (tail : List Lexeme) : (SyntaxTree.leaf .identifier "x").Fits tail :=
  SyntaxTree.fits_of_kind tail (by simp [SyntaxTree.leaf])

theorem statementHere_opens : Opens someStatement follow (statementHere declaration statement) :=
  fun tail _ => ⟨_, someStatement_isPhrase.reads _ tail rfl (someStatement_fits tail)⟩

theorem statement_opens : Opens someStatement follow statement :=
  fun tail _ => ⟨_, (IsPhrase.body .nil someStatement_isPhrase).reads _ tail rfl
    (someStatement_fits tail)⟩

theorem declaration_opens : Opens someStatement follow declaration :=
  fun tail _ => ⟨_, (IsPhrase.plain someStatement_isPhrase).reads _ tail rfl
    (someStatement_fits tail)⟩

/-- The first lexeme of a statement decides. What it leads to reads one lexeme fewer. -/
theorem statementHere_prompt (inner : Prompt someStatement Quiet bound declaration)
    (within : Prompt someStatement Quiet bound statement) :
    Prompt someStatement Quiet (bound + 1) (statementHere declaration statement) := by
  refine ⟨.notedLeft (Eager.toSteady ?_) _, statementHere_opens⟩
  exact .take _ (fun _ => ifRest_prompt within) <| .take _ (fun _ => whileRest_prompt within) <|
    .take _ (fun _ => forRest_prompt within) <| .take _ (fun _ => returnRest_prompt bound) <|
    .take _ (fun _ => blockRest_prompt declaration_takesSome inner)
      ⟨(expressionStatement_prompt _).toSteady, expressionStatement_takesSome⟩

theorem anyStatement_prompt (inner : Prompt someStatement Quiet bound declaration)
    (within : Prompt someStatement Quiet bound statement) :
    Prompt someStatement Quiet (bound + 1) (anyStatement declaration statement) := by
  have here := statementHere_prompt inner within
  have some := statementHere_takesSome declaration_takesFront statement_takesFront
  have present : Prompt someStatement Quiet (bound + 1) (ahead (· = none)
      (fail fun _ => .unexpectedEnd .statement) (statementHere declaration statement)) := by
    refine ⟨.ahead (.fail _) ⟨here.toSteady, some⟩ (.inl (.fail _)), fun tail quiet => ?_⟩
    obtain ⟨tree, takes⟩ := here.opens tail quiet
    exact ⟨tree, takes_ahead.mpr takes⟩
  exact present.skipped (fun _ _ => by rintro _ ⟨⟩; simp [someName]) (.inr (.ahead (.fail _) some))

/-- Behind a type and a name, a parenthesis tells a function from a variable. -/
theorem named_prompt (inner : Prompt someStatement Quiet bound declaration) (type : Lexeme)
    (name : String) :
    Prompt [mark ";"] Quiet bound
      (take (· = mark "(") (fun _ => functionRest declaration type name) do
        let declared ← variableRest type name
        expectMark ";" .afterVariableDeclaration
        return declared) := by
  have declared : Prompt [mark ";"] Quiet (bound + 1) (do
      let declared ← variableRest type name
      expectMark ";" .afterVariableDeclaration
      return declared) :=
    declared_prompt _ _ _ _ id
  have function := functionRest_prompt declaration_takesSome inner type name
  refine (Prompt.take_otherwise _ (fun _ => function) declared ?_ ?_).mono (Nat.le_succ _)
  · exact .bind_right (variableRest_takesFront _ _) fun _ =>
      .bind_left (.expectMark _ _) fun _ => .pure _
  · rintro _ _ ⟨⟩
    decide

theorem anyDeclaration_prompt (inner : Prompt someStatement Quiet bound declaration)
    (within : Prompt someStatement Quiet bound statement) :
    Prompt someStatement Quiet (bound + 1) (anyDeclaration declaration statement) := by
  have below := anyStatement_prompt inner within
  have some := anyStatement_takesSome declaration_takesFront statement_takesFront
  have typed (type : Lexeme) : Prompt someStatement Quiet bound (do
      let name ← expectIdentifier .afterType
      take (· = mark "(") (fun _ => functionRest declaration type name) do
        let declared ← variableRest type name
        expectMark ";" .afterVariableDeclaration
        return declared) :=
    .named _ (named_prompt inner type)
  have decided : Prompt someStatement Quiet (bound + 1) (take (isKeywordIn typeNames)
      (fun type => do
        let name ← expectIdentifier .afterType
        take (· = mark "(") (fun _ => functionRest declaration type name) do
          let declared ← variableRest type name
          expectMark ";" .afterVariableDeclaration
          return declared)
      (anyStatement declaration statement)) := by
    refine .take_otherwise _ typed below some ?_
    rintro _ _ ⟨⟩
    rfl
  exact decided.skipped (fun _ _ => by rintro _ ⟨⟩; simp [someName])
    (.inr (.take (fun type => (typed type).front) some))

/-- Declarations and statements within others stand behind a lexeme that leads to them. -/
theorem nesting_prompt (bound : Nat) :
    Prompt someStatement Quiet bound declaration ∧ Prompt someStatement Quiet bound statement := by
  -- On what is read: the rules within are used on fewer lexemes, so the bound is enough for them.
  induction bound with
  | zero =>
    exact ⟨⟨.zero declaration_takesFront, declaration_opens⟩,
      ⟨.zero statement_takesFront, statement_opens⟩⟩
  | succ bound ih =>
    constructor
    · rw [declaration_eq]
      exact anyDeclaration_prompt ih.1 ih.2
    · rw [statement_eq]
      exact anyStatement_prompt ih.1 ih.2

theorem program_prompt (bound : Nat) : Prompt [] (Ends (· = none)) bound program :=
  (declarations_prompt rfl declaration_takesSome (nesting_prompt bound).1).returning

end Nesting

end SyntaxExplorer.Grammar
