import SyntaxExplorer.Proofs.Grammar.Agreement
import SyntaxExplorer.Proofs.Grammar.Program

namespace SyntaxExplorer.Grammar

open Rule

variable {inner inner' : Rule SyntaxTree} {bound : Nat}

theorem primary_takesFront (front : TakesFront inner) : TakesFront (primary inner) :=
  .take (fun _ => .succeed _) <| .take (fun _ => .succeed _) <|
    .take (fun _ => .bind front fun _ => .bind (.expectMark _ _) fun _ => .pure _) (.fail _)

theorem primary_agreeBelow (front : TakesFront inner) (agree : AgreeBelow bound inner inner') :
    AgreeBelow (bound + 1) (primary inner) (primary inner') :=
  .take (fun _ => .refl _) <| .take (fun _ => .refl _) <|
    .take (fun _ => .bind_left front agree) (.refl _)

theorem unary_takesFront (front : TakesFront inner) (rounds : Nat) :
    TakesFront (unary inner rounds) := by
  induction rounds with
  | zero => exact front
  | succ rounds ih => exact .take (fun _ => .bind ih fun _ => .pure _) front

theorem unary_agreeBelow (front : TakesFront inner) (agree : AgreeBelow bound inner inner')
    (rounds : Nat) : AgreeBelow bound (unary inner rounds) (unary inner' rounds) := by
  induction rounds with
  | zero => exact agree
  | succ rounds ih =>
    exact .take_both (fun _ => .bind_left (unary_takesFront front rounds) ih) agree

theorem binaryRest_takesFront (operators : List String) (front : TakesFront inner) (rounds : Nat)
    (before : SyntaxTree) : TakesFront (binaryRest operators inner rounds before) := by
  induction rounds generalizing before with
  | zero => exact .succeed _
  | succ rounds ih => exact .take (fun _ => .bind front fun _ => ih _) (.succeed _)

theorem binaryRest_agreeBelow (operators : List String) (front : TakesFront inner)
    (agree : AgreeBelow bound inner inner') (rounds : Nat) (before : SyntaxTree) :
    AgreeBelow bound (binaryRest operators inner rounds before)
      (binaryRest operators inner' rounds before) := by
  induction rounds generalizing before with
  | zero => exact .refl _
  | succ rounds ih => exact .take_both (fun _ => .bind front agree fun _ => ih _) (.refl _)

theorem binary_takesFront (operators : List String) (front : TakesFront inner) :
    TakesFront (binary operators inner) :=
  .bind front fun _ => .repeating fun _ => binaryRest_takesFront operators front _ _

theorem binary_agreeBelow (operators : List String) (front : TakesFront inner)
    (agree : AgreeBelow bound inner inner') :
    AgreeBelow bound (binary operators inner) (binary operators inner') :=
  .bind front agree fun _ => .repeating fun _ => binaryRest_agreeBelow operators front agree _ _

theorem operation_takesFront (front : TakesFront inner) : TakesFront (operation inner) := by
  unfold operation
  induction binaryOperators with
  | nil => exact .repeating fun _ => unary_takesFront (primary_takesFront front) _
  | cons operators levels ih => exact binary_takesFront operators ih

theorem operation_agreeBelow (front : TakesFront inner) (agree : AgreeBelow bound inner inner') :
    AgreeBelow (bound + 1) (operation inner) (operation inner') := by
  have primaries := primary_agreeBelow front agree
  have within : ∀ levels : List (List String),
      TakesFront (levels.foldr binary (repeating (unary (primary inner)))) ∧
      AgreeBelow (bound + 1) (levels.foldr binary (repeating (unary (primary inner))))
        (levels.foldr binary (repeating (unary (primary inner')))) := by
    intro levels
    induction levels with
    | nil =>
      exact ⟨.repeating fun _ => unary_takesFront (primary_takesFront front) _,
        .repeating fun _ => unary_agreeBelow (primary_takesFront front) primaries _⟩
    | cons operators levels ih =>
      exact ⟨binary_takesFront operators ih.1, binary_agreeBelow operators ih.1 ih.2⟩
  exact (within binaryOperators).2

theorem assignment_takesFront (front : TakesFront inner) : TakesFront (assignment inner) := by
  refine .bind (operation_takesFront front) fun target => .bind .left fun left =>
    .take (fun _ => .bind front fun value => ?_) (.succeed _)
  split
  · exact .pure _
  · exact .failAt _ _

theorem assignment_agreeBelow (front : TakesFront inner) (agree : AgreeBelow bound inner inner') :
    AgreeBelow (bound + 1) (assignment inner) (assignment inner') :=
  .bind (operation_takesFront front) (operation_agreeBelow front agree) fun _ =>
    .bind_right .left fun _ => .take (fun _ => .bind_left front agree) (.refl _)

theorem expressionWithin_takesFront (levels : Nat) : TakesFront (expressionWithin levels) := by
  induction levels with
  | zero => exact .fail _
  | succ levels ih => exact assignment_takesFront ih

theorem expression_takesFront : TakesFront expression :=
  .repeating expressionWithin_takesFront

/-- Any bound that the lexemes do not exceed does as well as any other. -/
theorem expressionWithin_eq {one two : Nat} {lexemes : List Lexeme} (le_one : lexemes.length ≤ one)
    (le_two : lexemes.length ≤ two) :
    expressionWithin one lexemes = expressionWithin two lexemes := by
  induction one generalizing two lexemes with
  | zero =>
    obtain rfl := List.length_eq_zero_iff.mp (Nat.le_zero.mp le_one)
    cases two <;> rfl
  | succ one ih =>
    cases two with
    | zero =>
      obtain rfl := List.length_eq_zero_iff.mp (Nat.le_zero.mp le_two)
      rfl
    | succ two =>
      have agree : AgreeBelow lexemes.length (expressionWithin one) (expressionWithin two) :=
        fun fewer less => ih (by omega) (by omega)
      exact assignment_agreeBelow (expressionWithin_takesFront one) agree lexemes
        (Nat.lt_succ_self _)

/-- An expression is an assignment of expressions or less. -/
theorem expression_eq : expression = assignment expression := by
  funext lexemes
  have agree : AgreeBelow (lexemes.length + 1) (expressionWithin lexemes.length) expression :=
    fun fewer less => expressionWithin_eq (by omega) (Nat.le_refl _)
  calc expression lexemes
      = expressionWithin (lexemes.length + 1) lexemes :=
        expressionWithin_eq (Nat.le_refl _) (Nat.le_succ _)
    _ = assignment expression lexemes :=
        (assignment_agreeBelow (expressionWithin_takesFront _) agree) lexemes (by omega)

variable {statement statement' : Rule SyntaxTree}

theorem expressionUnless_takesFront (closing : String) : TakesFront (expressionUnless closing) :=
  .ahead (.succeed _) (.bind expression_takesFront fun _ => .pure _)

theorem variableRest_takesFront (type : Lexeme) (name : String) :
    TakesFront (variableRest type name) :=
  .bind (.note _) fun _ =>
    .take (fun _ => .bind expression_takesFront fun _ => .pure _) (.succeed _)

theorem parametersRest_takesFront (rounds opened : Nat) :
    TakesFront (parametersRest rounds opened) := by
  induction rounds generalizing opened with
  | zero => exact .fail _
  | succ rounds ih =>
    refine .take (fun _ => ih _) <| .take (fun _ => ?_) <| .take (fun _ => ih _) (.fail _)
    split
    · exact .succeed _
    · exact ih _

theorem declarations_takesFront (closes : Option Lexeme → Bool) (front : TakesFront inner)
    (rounds : Nat) : TakesFront (declarations closes inner rounds) := by
  induction rounds with
  | zero => exact .succeed _
  | succ rounds ih =>
    exact .bind .skipComments fun _ =>
      .ahead (.succeed _) (.bind front fun _ => .bind ih fun _ => .pure _)

theorem declarations_agreeBelow (closes : Option Lexeme → Bool) (front : TakesFront inner)
    (agree : AgreeBelow bound inner inner') (rounds : Nat) :
    AgreeBelow bound (declarations closes inner rounds) (declarations closes inner' rounds) := by
  induction rounds with
  | zero => exact .refl _
  | succ rounds ih =>
    exact .bind_right .skipComments fun _ => .ahead (.refl _) <| .bind front agree fun _ =>
      .bind_left (declarations_takesFront closes front rounds) ih

theorem blockRest_takesFront (front : TakesFront inner) : TakesFront (blockRest inner) :=
  .bind (.repeating (declarations_takesFront _ front)) fun _ =>
    .bind (.expectMark _ _) fun _ => .pure _

theorem blockRest_agreeBelow (front : TakesFront inner) (agree : AgreeBelow bound inner inner') :
    AgreeBelow bound (blockRest inner) (blockRest inner') :=
  .bind_left (.repeating (declarations_takesFront _ front))
    (.repeating (declarations_agreeBelow _ front agree))

theorem functionRest_takesFront (front : TakesFront inner) (type : Lexeme) (name : String) :
    TakesFront (functionRest inner type name) :=
  .bind (.note _) fun _ => .bind (.repeating fun _ => parametersRest_takesFront _ _) fun _ =>
    .take (fun _ => .bind (blockRest_takesFront front) fun _ => .pure _) (.succeed _)

theorem functionRest_agreeBelow (front : TakesFront inner) (agree : AgreeBelow bound inner inner')
    (type : Lexeme) (name : String) :
    AgreeBelow bound (functionRest inner type name) (functionRest inner' type name) :=
  .bind_right (.note _) fun _ =>
    .bind_right (.repeating fun _ => parametersRest_takesFront _ _) fun _ =>
      .take_both
        (fun _ => .bind_left (blockRest_takesFront front) (blockRest_agreeBelow front agree))
        (.refl _)

theorem condition_takesFront (opening closing : Place) : TakesFront (condition opening closing) :=
  .bind (.expectMark _ _) fun _ => .bind expression_takesFront fun _ =>
    .bind (.expectMark _ _) fun _ => .pure _

theorem ifRest_takesFront (front : TakesFront statement) : TakesFront (ifRest statement) :=
  .bind (condition_takesFront _ _) fun _ => .bind front fun _ =>
    .take (fun _ => .bind front fun _ => .pure _) (.succeed _)

theorem ifRest_agreeBelow (front : TakesFront statement)
    (agree : AgreeBelow bound statement statement') :
    AgreeBelow bound (ifRest statement) (ifRest statement') :=
  .bind_right (condition_takesFront _ _) fun _ => .bind front agree fun _ =>
    .take_both (fun _ => .bind_left front agree) (.refl _)

theorem whileRest_takesFront (front : TakesFront statement) : TakesFront (whileRest statement) :=
  .bind (condition_takesFront _ _) fun _ => .bind front fun _ => .pure _

theorem whileRest_agreeBelow (front : TakesFront statement)
    (agree : AgreeBelow bound statement statement') :
    AgreeBelow bound (whileRest statement) (whileRest statement') :=
  .bind_right (condition_takesFront _ _) fun _ => .bind_left front agree

theorem forInit_takesFront : TakesFront forInit :=
  .take (fun _ => .succeed _) <|
    .take (fun _ => .bind (.expectIdentifier _) fun _ =>
      .bind (variableRest_takesFront _ _) fun _ => .bind (.expectMark _ _) fun _ => .pure _) <|
    .bind expression_takesFront fun _ => .bind (.expectMark _ _) fun _ => .pure _

theorem forRest_takesFront (front : TakesFront statement) : TakesFront (forRest statement) :=
  .bind (.expectMark _ _) fun _ => .bind forInit_takesFront fun _ =>
    .bind (expressionUnless_takesFront _) fun _ => .bind (.expectMark _ _) fun _ =>
    .bind (expressionUnless_takesFront _) fun _ => .bind (.expectMark _ _) fun _ =>
    .bind front fun _ => .pure _

theorem forRest_agreeBelow (front : TakesFront statement)
    (agree : AgreeBelow bound statement statement') :
    AgreeBelow bound (forRest statement) (forRest statement') :=
  .bind_right (.expectMark _ _) fun _ => .bind_right forInit_takesFront fun _ =>
    .bind_right (expressionUnless_takesFront _) fun _ => .bind_right (.expectMark _ _) fun _ =>
    .bind_right (expressionUnless_takesFront _) fun _ => .bind_right (.expectMark _ _) fun _ =>
    .bind_left front agree

theorem returnRest_takesFront : TakesFront returnRest :=
  .bind (expressionUnless_takesFront _) fun _ => .bind (.expectMark _ _) fun _ => .pure _

theorem expressionStatement_takesFront : TakesFront expressionStatement :=
  .bind expression_takesFront fun _ => .bind (.expectMark _ _) fun _ => .pure _

theorem statementHere_takesFront (front : TakesFront inner)
    (frontStatement : TakesFront statement) : TakesFront (statementHere inner statement) :=
  .bind .left fun _ => .bind (.note _) fun _ =>
    .take (fun _ => ifRest_takesFront frontStatement) <|
    .take (fun _ => whileRest_takesFront frontStatement) <|
    .take (fun _ => forRest_takesFront frontStatement) <|
    .take (fun _ => returnRest_takesFront) <|
    .take (fun _ => blockRest_takesFront front) expressionStatement_takesFront

theorem statementHere_agreeBelow (front : TakesFront inner) (frontStatement : TakesFront statement)
    (agree : AgreeBelow bound inner inner')
    (agreeStatement : AgreeBelow bound statement statement') :
    AgreeBelow (bound + 1) (statementHere inner statement) (statementHere inner' statement') :=
  .bind_right .left fun _ => .bind_right (.note _) fun _ =>
    .take (fun _ => ifRest_agreeBelow frontStatement agreeStatement) <|
    .take (fun _ => whileRest_agreeBelow frontStatement agreeStatement) <|
    .take (fun _ => forRest_agreeBelow frontStatement agreeStatement) <|
    .take (fun _ => .refl _) <|
    .take (fun _ => blockRest_agreeBelow front agree) (.refl _)

theorem anyStatement_takesFront (front : TakesFront inner) (frontStatement : TakesFront statement) :
    TakesFront (anyStatement inner statement) :=
  .bind .skipComments fun _ => .ahead (.fail _) (statementHere_takesFront front frontStatement)

theorem anyStatement_agreeBelow (front : TakesFront inner) (frontStatement : TakesFront statement)
    (agree : AgreeBelow bound inner inner')
    (agreeStatement : AgreeBelow bound statement statement') :
    AgreeBelow (bound + 1) (anyStatement inner statement) (anyStatement inner' statement') :=
  .bind_right .skipComments fun _ =>
    .ahead (.refl _) (statementHere_agreeBelow front frontStatement agree agreeStatement)

theorem anyDeclaration_takesFront (front : TakesFront inner)
    (frontStatement : TakesFront statement) : TakesFront (anyDeclaration inner statement) :=
  .bind .skipComments fun _ =>
    .take (fun _ => .bind (.expectIdentifier _) fun _ =>
      .take (fun _ => functionRest_takesFront front _ _)
        (.bind (variableRest_takesFront _ _) fun _ => .bind (.expectMark _ _) fun _ => .pure _))
      (anyStatement_takesFront front frontStatement)

theorem anyDeclaration_agreeBelow (front : TakesFront inner) (frontStatement : TakesFront statement)
    (agree : AgreeBelow bound inner inner')
    (agreeStatement : AgreeBelow bound statement statement') :
    AgreeBelow (bound + 1) (anyDeclaration inner statement) (anyDeclaration inner' statement') :=
  .bind_right .skipComments fun _ =>
    .take (fun _ => .bind_right (.expectIdentifier _) fun _ =>
      .take_both (fun _ => functionRest_agreeBelow front agree _ _) (.refl _))
      (anyStatement_agreeBelow front frontStatement agree agreeStatement)

theorem within_takesFront (levels : Nat) :
    TakesFront (declarationWithin levels) ∧ TakesFront (statementWithin levels) := by
  induction levels with
  | zero => exact ⟨.fail _, .fail _⟩
  | succ levels ih =>
    exact ⟨anyDeclaration_takesFront ih.1 ih.2, anyStatement_takesFront ih.1 ih.2⟩

/-- Any bound that the lexemes do not exceed does as well as any other. -/
theorem within_eq {one two : Nat} {lexemes : List Lexeme} (le_one : lexemes.length ≤ one)
    (le_two : lexemes.length ≤ two) :
    declarationWithin one lexemes = declarationWithin two lexemes ∧
      statementWithin one lexemes = statementWithin two lexemes := by
  induction one generalizing two lexemes with
  | zero =>
    obtain rfl := List.length_eq_zero_iff.mp (Nat.le_zero.mp le_one)
    cases two <;> exact ⟨rfl, rfl⟩
  | succ one ih =>
    cases two with
    | zero =>
      obtain rfl := List.length_eq_zero_iff.mp (Nat.le_zero.mp le_two)
      exact ⟨rfl, rfl⟩
    | succ two =>
      have agree : AgreeBelow lexemes.length (declarationWithin one) (declarationWithin two) :=
        fun fewer less => (ih (by omega) (by omega)).1
      have agreeStatement : AgreeBelow lexemes.length (statementWithin one) (statementWithin two) :=
        fun fewer less => (ih (by omega) (by omega)).2
      have front := within_takesFront one
      exact ⟨anyDeclaration_agreeBelow front.1 front.2 agree agreeStatement lexemes
          (Nat.lt_succ_self _),
        anyStatement_agreeBelow front.1 front.2 agree agreeStatement lexemes (Nat.lt_succ_self _)⟩

theorem declaration_takesFront : TakesFront declaration :=
  .repeating fun levels => (within_takesFront levels).1

theorem statement_takesFront : TakesFront Grammar.statement :=
  .repeating fun levels => (within_takesFront levels).2

theorem agree_declaration (bound : Nat) :
    AgreeBelow (bound + 1) (declarationWithin bound) declaration :=
  fun _ fewer => (within_eq (by omega) (Nat.le_refl _)).1

theorem agree_statement (bound : Nat) :
    AgreeBelow (bound + 1) (statementWithin bound) Grammar.statement :=
  fun _ fewer => (within_eq (by omega) (Nat.le_refl _)).2

/-- A declaration is made of declarations and statements. -/
theorem declaration_eq : declaration = anyDeclaration declaration Grammar.statement := by
  funext lexemes
  have front := within_takesFront lexemes.length
  calc declaration lexemes
      = declarationWithin (lexemes.length + 1) lexemes :=
        (within_eq (Nat.le_refl _) (Nat.le_succ _)).1
    _ = anyDeclaration declaration Grammar.statement lexemes :=
        anyDeclaration_agreeBelow front.1 front.2 (agree_declaration _) (agree_statement _) lexemes
          (by omega)

/-- A statement is made of declarations and statements. -/
theorem statement_eq : Grammar.statement = anyStatement declaration Grammar.statement := by
  funext lexemes
  have front := within_takesFront lexemes.length
  calc Grammar.statement lexemes
      = statementWithin (lexemes.length + 1) lexemes :=
        (within_eq (Nat.le_refl _) (Nat.le_succ _)).2
    _ = anyStatement declaration Grammar.statement lexemes :=
        anyStatement_agreeBelow front.1 front.2 (agree_declaration _) (agree_statement _) lexemes
          (by omega)

theorem program_takesFront : TakesFront program :=
  .bind (.repeating (declarations_takesFront _ declaration_takesFront)) fun _ => .pure _

end SyntaxExplorer.Grammar
