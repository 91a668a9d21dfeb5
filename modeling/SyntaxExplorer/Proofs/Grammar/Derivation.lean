import SyntaxExplorer.Proofs.Grammar.Program

namespace SyntaxExplorer

namespace SyntaxTree

/-- An `if` without `else`, or a statement that ends in one: an `else` behind it would be its own. -/
def acceptsElse : SyntaxTree → Bool :=
  fold fun kind _ branches =>
    match kind, branches with
    | .ifStatement, [_, _] => true
    | .ifStatement, [_, _, no] => no
    | .whileStatement, [_, body] => body
    | .forStatement, [_, _, _, body] => body
    | _, _ => false

/-- A function's declaration that has no body. -/
def isHeader (tree : SyntaxTree) : Bool :=
  tree.kind = .functionDeclaration && tree.children.length = 2

theorem acceptsElse_ifElse (test yes no : SyntaxTree) :
    acceptsElse ⟨.ifStatement, none, [test, yes, no]⟩ = no.acceptsElse := rfl

theorem acceptsElse_while (test body : SyntaxTree) :
    acceptsElse ⟨.whileStatement, none, [test, body]⟩ = body.acceptsElse := rfl

theorem acceptsElse_for (init test step body : SyntaxTree) :
    acceptsElse ⟨.forStatement, none, [init, test, step, body]⟩ = body.acceptsElse := rfl

theorem acceptsElse_of_kind {tree : SyntaxTree} (other : tree.kind ≠ .ifStatement)
    (notWhile : tree.kind ≠ .whileStatement) (notFor : tree.kind ≠ .forStatement) :
    tree.acceptsElse = false := by
  obtain ⟨kind, value, children⟩ := tree
  rw [acceptsElse, fold_node]
  split <;> simp_all

theorem isHeader_of_kind {tree : SyntaxTree} (other : tree.kind ≠ .functionDeclaration) :
    tree.isHeader = false := by
  simp [isHeader, other]

/-- The lexeme behind a tree is none that the tree's last rule would have taken. -/
def Fits (tree : SyntaxTree) (rest : List Lexeme) : Prop :=
  (tree.isHeader = true → rest.head? ≠ some (Grammar.Rule.mark "\x7b")) ∧
    (tree.acceptsElse = true → rest.head? ≠ some (Grammar.Rule.keyword "else"))

/-- Most trees end in a lexeme of their own, so anything may follow them. -/
theorem fits_of_kind {tree : SyntaxTree} (rest : List Lexeme)
    (other : tree.kind ∉ [.functionDeclaration, .ifStatement, .whileStatement, .forStatement]) :
    tree.Fits rest := by
  simp only [List.mem_cons, List.not_mem_nil, or_false, not_or] at other
  obtain ⟨notFunction, notIf, notWhile, notFor⟩ := other
  constructor
  · simp [isHeader_of_kind notFunction]
  · simp [acceptsElse_of_kind notIf notWhile notFor]

end SyntaxTree

namespace Grammar

open Rule

/-- How far an expression may be split: anywhere, at the binary operators of some levels only (at
the operators before an operand where no level is left), or nowhere. -/
inductive Binding
  | any
  | levels (operators : List (List String))
  | closed

/-- The operators at which an expression may be split, and which therefore cannot follow it. -/
def Binding.operators : Binding → List String
  | any => "=" :: binaryOperators.flatten
  | levels operators => operators.flatten
  | closed => []

def operator (sign : String) : Lexeme :=
  ⟨.operator, sign⟩

/-- The word is an expression with that tree. A level takes its left operand from itself and its
right operand from the tighter levels, so its operators associate to the left. -/
inductive IsExpression : Binding → List Lexeme → SyntaxTree → Prop
  | number {text} : IsExpression .closed [⟨.number, text⟩] (.leaf .literal text)
  | name {text} : IsExpression .closed [⟨.identifier, text⟩] (.leaf .identifier text)
  | grouping {word inner} (within : IsExpression .any word inner) :
      IsExpression .closed (mark "(" :: word ++ [mark ")"]) ⟨.grouping, none, [inner]⟩
  | operand {word tree} (closed : IsExpression .closed word tree) :
      IsExpression (.levels []) word tree
  | unary {sign word inner} (known : sign ∈ unaryOperators)
      (operand : IsExpression (.levels []) word inner) :
      IsExpression (.levels []) (operator sign :: word) ⟨.unary, some sign, [inner]⟩
  | tighter {operators levels word tree} (within : IsExpression (.levels levels) word tree) :
      IsExpression (.levels (operators :: levels)) word tree
  | binary {operators levels sign before after left right} (known : sign ∈ operators)
      (first : IsExpression (.levels (operators :: levels)) before left)
      (second : IsExpression (.levels levels) after right) :
      IsExpression (.levels (operators :: levels)) (before ++ operator sign :: after)
        ⟨.binary, some sign, [left, right]⟩
  | operation {word tree} (within : IsExpression (.levels binaryOperators) word tree) :
      IsExpression .any word tree
  | assignment {name word value} (source : IsExpression .any word value) :
      IsExpression .any (⟨.identifier, name⟩ :: operator "=" :: word)
        ⟨.assignment, some name, [value]⟩

/-- The kinds of nodes at the top of expressions. -/
def expressionKinds : List NodeKind :=
  [.literal, .identifier, .grouping, .unary, .binary, .assignment]

/-- No expression is a statement of any other kind, or a declaration. -/
theorem IsExpression.kind_ne {binding : Binding} {word : List Lexeme} {tree : SyntaxTree}
    {kind : NodeKind} (derived : IsExpression binding word tree) (other : kind ∉ expressionKinds) :
    tree.kind ≠ kind := by
  have known : tree.kind ∈ expressionKinds := by
    induction derived with
    | operand _ ih | tighter _ ih | operation _ ih => exact ih
    | number | name | grouping | unary | binary | assignment => simp [expressionKinds, SyntaxTree.leaf]
  intro same
  rw [same] at known
  exact other known

/-- Perhaps an expression. -/
inductive IsOptional : List Lexeme → List SyntaxTree → Prop
  | absent : IsOptional [] []
  | present {word tree} (expression : IsExpression .any word tree) : IsOptional word [tree]

/-- A variable of one of the types, perhaps with a value to begin with. -/
inductive IsVariable (types : List String) : List Lexeme → SyntaxTree → Prop
  | plain {type name} (known : type ∈ types) :
      IsVariable types [keyword type, ⟨.identifier, name⟩]
        ⟨.variableDeclaration, some name, [.leaf .type type]⟩
  | initialized {type name word value} (known : type ∈ types)
      (source : IsExpression .any word value) :
      IsVariable types (keyword type :: ⟨.identifier, name⟩ :: operator "=" :: word)
        ⟨.variableDeclaration, some name, [.leaf .type type, ⟨.initialization, none, [value]⟩]⟩

/-- What the first clause of a `for` statement may hold. -/
inductive IsForInit : List Lexeme → List SyntaxTree → Prop
  | absent : IsForInit [] []
  | declared {word tree} (derived : IsVariable loopVariableTypes word tree) :
      IsForInit word [tree]
  | expression {word tree} (start : IsExpression .any word tree) : IsForInit word [tree]

/-- Any lexemes at all, as long as parentheses match. -/
inductive Balanced : List Lexeme → Prop
  | nil : Balanced []
  | other {lexeme word} (opens : lexeme ≠ mark "(") (closes : lexeme ≠ mark ")")
      (later : Balanced word) : Balanced (lexeme :: word)
  | nested {inside word} (within : Balanced inside) (later : Balanced word) :
      Balanced (mark "(" :: inside ++ mark ")" :: word)

/-- The phrases made of statements: declarations one after the other, one declaration, the statement
under another statement, which may have comments before it, and a statement itself. -/
inductive Phrase
  | declarations
  | declaration
  | body
  | statement

def AllComments (word : List Lexeme) : Prop :=
  ∀ lexeme ∈ word, lexeme.kind = .comment

theorem AllComments.nil : AllComments [] := by
  simp [AllComments]

/-- The word is a phrase with those trees, of which there is one but for `declarations`. -/
inductive IsPhrase : Phrase → List Lexeme → List SyntaxTree → Prop
  | finish {comments} (skipped : AllComments comments) : IsPhrase .declarations comments []
  | next {comments word words tree trees} (skipped : AllComments comments)
      (first : IsPhrase .declaration word [tree]) (others : IsPhrase .declarations words trees)
      (apart : tree.isHeader = true → words.head? ≠ some (mark "\x7b")) :
      IsPhrase .declarations (comments ++ word ++ words) (tree :: trees)
  | header {type name parameters} (known : type ∈ typeNames) (matched : Balanced parameters) :
      IsPhrase .declaration
        (keyword type :: ⟨.identifier, name⟩ :: mark "(" :: parameters ++ [mark ")"])
        [⟨.functionDeclaration, some name, [.leaf .type type, ⟨.parameters, none, []⟩]⟩]
  | function {type name parameters word inner} (known : type ∈ typeNames)
      (matched : Balanced parameters) (within : IsPhrase .declarations word inner) :
      IsPhrase .declaration
        (keyword type :: ⟨.identifier, name⟩ :: mark "(" :: parameters ++
          mark ")" :: mark "\x7b" :: word ++ [mark "\x7d"])
        [⟨.functionDeclaration, some name,
          [.leaf .type type, ⟨.parameters, none, []⟩, ⟨.block, none, inner⟩]⟩]
  | declared {word tree} (derived : IsVariable typeNames word tree) :
      IsPhrase .declaration (word ++ [mark ";"]) [tree]
  | plain {word tree} (statement : IsPhrase .statement word [tree]) :
      IsPhrase .declaration word [tree]
  | body {comments word tree} (skipped : AllComments comments)
      (statement : IsPhrase .statement word [tree]) : IsPhrase .body (comments ++ word) [tree]
  | ifThen {condition word test yes} (asked : IsExpression .any condition test)
      (branch : IsPhrase .body word [yes]) :
      IsPhrase .statement (keyword "if" :: mark "(" :: condition ++ mark ")" :: word)
        [⟨.ifStatement, none, [test, yes]⟩]
  | ifElse {condition word words test yes no} (asked : IsExpression .any condition test)
      (branch : IsPhrase .body word [yes]) (nearest : yes.acceptsElse = false)
      (other : IsPhrase .body words [no]) :
      IsPhrase .statement
        (keyword "if" :: mark "(" :: condition ++ mark ")" :: word ++ keyword "else" :: words)
        [⟨.ifStatement, none, [test, yes, no]⟩]
  | whileLoop {condition word test body} (asked : IsExpression .any condition test)
      (repeated : IsPhrase .body word [body]) :
      IsPhrase .statement (keyword "while" :: mark "(" :: condition ++ mark ")" :: word)
        [⟨.whileStatement, none, [test, body]⟩]
  | forLoop {start condition step word init test increment body} (begins : IsForInit start init)
      (asked : IsOptional condition test) (stepped : IsOptional step increment)
      (repeated : IsPhrase .body word [body]) :
      IsPhrase .statement
        (keyword "for" :: mark "(" :: start ++ mark ";" :: condition ++ mark ";" :: step ++
          mark ")" :: word)
        [⟨.forStatement, none, [⟨.forInit, none, init⟩, ⟨.forCondition, none, test⟩,
          ⟨.forIncrement, none, increment⟩, body]⟩]
  | returning {word value} (returned : IsOptional word value) :
      IsPhrase .statement (keyword "return" :: word ++ [mark ";"])
        [⟨.returnStatement, none, value⟩]
  | block {word inner} (within : IsPhrase .declarations word inner) :
      IsPhrase .statement (mark "\x7b" :: word ++ [mark "\x7d"]) [⟨.block, none, inner⟩]
  | expression {word tree} (evaluated : IsExpression .any word tree) :
      IsPhrase .statement (word ++ [mark ";"]) [tree]

/-- The word is a whole program. -/
def IsProgram (word : List Lexeme) (tree : SyntaxTree) : Prop :=
  ∃ trees, tree = ⟨.program, none, trees⟩ ∧ IsPhrase .declarations word trees

end Grammar

end SyntaxExplorer
