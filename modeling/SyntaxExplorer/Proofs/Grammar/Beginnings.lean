import SyntaxExplorer.Proofs.Grammar.ExpressionCompleteness

namespace SyntaxExplorer.Grammar

open Rule

/-- The lexemes with which an expression may begin. -/
def beginsExpression (lexeme : Lexeme) : Bool :=
  lexeme.kind = .number || lexeme.kind = .identifier || lexeme = mark "(" ||
    isOperatorIn unaryOperators lexeme

/-- The lexemes with which a statement may begin. -/
def beginsStatement (lexeme : Lexeme) : Bool :=
  lexeme = keyword "if" || lexeme = keyword "while" || lexeme = keyword "for" ||
    lexeme = keyword "return" || lexeme = mark "\x7b" || beginsExpression lexeme

/-- The lexemes with which a declaration may begin. -/
def beginsDeclaration (lexeme : Lexeme) : Bool :=
  isKeywordIn typeNames lexeme || beginsStatement lexeme

variable {word rest : List Lexeme} {tree : SyntaxTree} {trees : List SyntaxTree} {lexeme : Lexeme}

theorem isKeywordIn_of_kind {words : List String} (other : lexeme.kind ≠ .keyword) :
    isKeywordIn words lexeme = false := by
  simp [isKeywordIn, other]

theorem isKeywordIn_keyword {words : List String} {text : String} :
    isKeywordIn words (keyword text) = true ↔ text ∈ words := by
  rw [isKeywordIn, keyword, decide_eq_true rfl, Bool.true_and, decide_eq_true_eq]

/-- No keyword begins an expression. -/
theorem kind_ne_of_beginsExpression (begins : beginsExpression lexeme = true) :
    lexeme.kind ≠ .keyword ∧ lexeme.kind ≠ .comment ∧
      (lexeme.kind = .punctuation → lexeme = mark "(") := by
  obtain ⟨kind, text⟩ := lexeme
  cases kind <;> simp_all [beginsExpression, isOperatorIn, mark]

theorem IsExpression.begins {binding : Binding} (derived : IsExpression binding word tree) :
    ∃ first later, word = first :: later ∧ beginsExpression first = true := by
  induction derived with
  | number | name => exact ⟨_, _, rfl, rfl⟩
  | grouping => exact ⟨mark "(", _, rfl, rfl⟩
  | operand _ ih | tighter _ ih | operation _ ih => exact ih
  | unary known =>
    exact ⟨_, _, rfl, by simp [beginsExpression, isOperatorIn_operator.mpr known]⟩
  | binary _ _ _ ih =>
    obtain ⟨first, later, rfl, begins⟩ := ih
    exact ⟨first, _, rfl, begins⟩
  | assignment => exact ⟨_, _, rfl, rfl⟩

theorem statement_begins (derived : IsPhrase .statement word trees) :
    ∃ first later, word = first :: later ∧ beginsStatement first = true := by
  cases derived with
  | ifThen | ifElse | whileLoop | forLoop | returning | block =>
    exact ⟨_, _, rfl, by simp [beginsStatement]⟩
  | expression evaluated =>
    obtain ⟨first, later, rfl, begins⟩ := evaluated.begins
    exact ⟨first, _, rfl, by simp [beginsStatement, begins]⟩

theorem declaration_begins (derived : IsPhrase .declaration word trees) :
    ∃ first later, word = first :: later ∧ beginsDeclaration first = true := by
  cases derived with
  | header known | function known =>
    exact ⟨_, _, rfl, by simp [beginsDeclaration, isKeywordIn_keyword.mpr known]⟩
  | declared derived =>
    cases derived with
    | plain known | initialized known =>
      exact ⟨_, _, rfl, by simp [beginsDeclaration, isKeywordIn_keyword.mpr known]⟩
  | plain derived =>
    obtain ⟨first, later, rfl, begins⟩ := statement_begins derived
    exact ⟨first, later, rfl, by simp [beginsDeclaration, begins]⟩

theorem kind_of_beginsStatement (begins : beginsStatement lexeme = true) :
    lexeme.kind ≠ .comment ∧ isKeywordIn typeNames lexeme = false ∧ lexeme ≠ keyword "else" ∧
      lexeme ≠ mark "\x7d" := by
  simp only [beginsStatement, Bool.or_eq_true, decide_eq_true_eq] at begins
  rcases begins with ((((rfl | rfl) | rfl) | rfl) | rfl) | begins
  iterate 5 decide
  obtain ⟨noKeyword, noComment, onlyMark⟩ := kind_ne_of_beginsExpression begins
  refine ⟨noComment, isKeywordIn_of_kind noKeyword, ?_, ?_⟩
  · rintro rfl
    exact noKeyword rfl
  · rintro rfl
    simpa [mark] using onlyMark rfl

theorem kind_of_beginsDeclaration (begins : beginsDeclaration lexeme = true) :
    lexeme.kind ≠ .comment ∧ lexeme ≠ keyword "else" ∧ lexeme ≠ mark "\x7d" := by
  rw [beginsDeclaration, Bool.or_eq_true] at begins
  rcases begins with typed | begins
  · obtain ⟨kind, text⟩ := lexeme
    simp only [isKeywordIn, Bool.and_eq_true, decide_eq_true_eq] at typed
    obtain ⟨rfl, known⟩ := typed
    refine ⟨by simp, ?_, by simp [mark]⟩
    intro same
    rw [keyword, Lexeme.mk.injEq] at same
    rw [same.2] at known
    revert known
    decide
  · obtain ⟨noComment, -, noElse, noBrace⟩ := kind_of_beginsStatement begins
    exact ⟨noComment, noElse, noBrace⟩

end SyntaxExplorer.Grammar
