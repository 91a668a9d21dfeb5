import SyntaxExplorer.Grammar.Statements
import SyntaxExplorer.Proofs.Grammar.Expression

namespace SyntaxExplorer.Grammar

open Rule

/-- An expression, or nothing before a given mark. -/
def expressionUnless (closing : String) : Rule (List SyntaxTree) :=
  ahead (· = some (mark closing)) (succeed []) do
    let inner ← expression
    return [inner]

/-- A variable's declaration after its name, up to but without the mark that ends it. -/
def variableRest (type : Lexeme) (name : String) : Rule SyntaxTree := do
  note (.variableDeclaration name)
  let typeNode := SyntaxTree.leaf .type type.text
  take (isOperatorIn ["="])
    (fun _ => do
      let value ← expression
      return ⟨.variableDeclaration, some name, [typeNode, ⟨.initialization, none, [value]⟩]⟩)
    (succeed ⟨.variableDeclaration, some name, [typeNode]⟩)

/-- Passes over a parameter list after its opening parenthesis, whatever it holds, to the matching
one. The second number counts parentheses that were opened inside. -/
def parametersRest : Nat → Nat → Rule Unit
  | 0, _ => fail fun _ => .unexpectedEnd .parameters
  | rounds + 1, opened =>
    take (· = mark "(") (fun _ => parametersRest rounds (opened + 1)) <|
    take (· = mark ")")
      (fun _ => match opened with
        | 0 => succeed ()
        | opened + 1 => parametersRest rounds opened) <|
    take (fun _ => true) (fun _ => parametersRest rounds opened) <|
    fail fun _ => .unexpectedEnd .parameters

/-- Declarations up to a lexeme that closes the sequence, comments between them passed over. -/
def declarations (closes : Option Lexeme → Bool) (declaration : Rule SyntaxTree) :
    Nat → Rule (List SyntaxTree)
  | 0 => succeed []
  | rounds + 1 => do
    skipComments
    ahead closes (succeed []) do
      let first ← declaration
      let others ← declarations closes declaration rounds
      return first :: others

/-- A block after its opening brace. -/
def blockRest (declaration : Rule SyntaxTree) : Rule SyntaxTree := do
  let inner ← repeating (declarations (fun next => next = none || next = some (mark "\x7d"))
    declaration)
  expectMark "\x7d" .afterBlock
  return ⟨.block, none, inner⟩

/-- A function's declaration after the parenthesis that opens its parameters. Without a brace
directly behind the parameters there is no body. -/
def functionRest (declaration : Rule SyntaxTree) (type : Lexeme) (name : String) :
    Rule SyntaxTree := do
  note (.functionDeclaration name)
  repeating (parametersRest · 0)
  let header := [SyntaxTree.leaf .type type.text, ⟨.parameters, none, []⟩]
  take (· = mark "\x7b")
    (fun _ => do
      let body ← blockRest declaration
      return ⟨.functionDeclaration, some name, header ++ [body]⟩)
    (succeed ⟨.functionDeclaration, some name, header⟩)

def condition (opening closing : Place) : Rule SyntaxTree := do
  expectMark "(" opening
  let inner ← expression
  expectMark ")" closing
  return inner

/-- An `if` statement after its keyword. An `else` directly behind the first branch belongs to
it. -/
def ifRest (statement : Rule SyntaxTree) : Rule SyntaxTree := do
  let test ← condition .afterIf .afterIfCondition
  let yes ← statement
  take (· = keyword "else")
    (fun _ => do
      let no ← statement
      return ⟨.ifStatement, none, [test, yes, no]⟩)
    (succeed ⟨.ifStatement, none, [test, yes]⟩)

def whileRest (statement : Rule SyntaxTree) : Rule SyntaxTree := do
  let test ← condition .afterWhile .afterWhileCondition
  let body ← statement
  return ⟨.whileStatement, none, [test, body]⟩

/-- The first clause of a `for` statement and the semicolon behind it. -/
def forInit : Rule SyntaxTree :=
  take (· = mark ";") (fun _ => succeed ⟨.forInit, none, []⟩) <|
  take (isKeywordIn loopVariableTypes)
    (fun type => do
      let name ← expectIdentifier .afterType
      let declared ← variableRest type name
      expectMark ";" .afterVariableDeclaration
      return ⟨.forInit, none, [declared]⟩) <| do
    let inner ← expression
    expectMark ";" .afterForInitialization
    return ⟨.forInit, none, [inner]⟩

def forRest (statement : Rule SyntaxTree) : Rule SyntaxTree := do
  expectMark "(" .afterFor
  let init ← forInit
  let test ← expressionUnless ";"
  expectMark ";" .afterForCondition
  let step ← expressionUnless ")"
  expectMark ")" .afterForClauses
  let body ← statement
  return ⟨.forStatement, none,
    [init, ⟨.forCondition, none, test⟩, ⟨.forIncrement, none, step⟩, body]⟩

def returnRest : Rule SyntaxTree := do
  let value ← expressionUnless ";"
  expectMark ";" .afterReturn
  return ⟨.returnStatement, none, value⟩

def expressionStatement : Rule SyntaxTree := do
  let inner ← expression
  expectMark ";" .afterExpression
  return inner

/-- A statement that begins with the next lexeme. -/
def statementHere (declaration statement : Rule SyntaxTree) : Rule SyntaxTree := do
  note (.statement (← left))
  take (· = keyword "if") (fun _ => ifRest statement) <|
  take (· = keyword "while") (fun _ => whileRest statement) <|
  take (· = keyword "for") (fun _ => forRest statement) <|
  take (· = keyword "return") (fun _ => returnRest) <|
  take (· = mark "\x7b") (fun _ => blockRest declaration)
    expressionStatement

/-- A statement, comments before it passed over. -/
def anyStatement (declaration statement : Rule SyntaxTree) : Rule SyntaxTree := do
  skipComments
  ahead (· = none) (fail fun _ => .unexpectedEnd .statement) (statementHere declaration statement)

/-- A declaration of a function or a variable, or a statement, comments before it passed over. -/
def anyDeclaration (declaration statement : Rule SyntaxTree) : Rule SyntaxTree := do
  skipComments
  take (isKeywordIn typeNames)
    (fun type => do
      let name ← expectIdentifier .afterType
      take (· = mark "(") (fun _ => functionRest declaration type name) do
        let declared ← variableRest type name
        expectMark ";" .afterVariableDeclaration
        return declared)
    (anyStatement declaration statement)

mutual

/-- A declaration with at most so many levels of nesting. -/
def declarationWithin : Nat → Rule SyntaxTree
  | 0 => fail fun _ => .unexpectedEnd .statement
  | levels + 1 => anyDeclaration (declarationWithin levels) (statementWithin levels)

/-- A statement with at most so many levels of nesting. -/
def statementWithin : Nat → Rule SyntaxTree
  | 0 => fail fun _ => .unexpectedEnd .statement
  | levels + 1 => anyStatement (declarationWithin levels) (statementWithin levels)

end

def declaration : Rule SyntaxTree :=
  repeating declarationWithin

def statement : Rule SyntaxTree :=
  repeating statementWithin

/-- Everything up to the end of the input. -/
def program : Rule SyntaxTree := do
  let inner ← repeating (declarations (· = none) declaration)
  return ⟨.program, none, inner⟩

end SyntaxExplorer.Grammar
