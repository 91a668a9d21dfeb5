import SyntaxExplorer.Grammar.Expressions

namespace SyntaxExplorer

namespace Grammar

/-- The types that a variable of a `for` loop may have. -/
def loopVariableTypes : List String :=
  ["int", "float", "char"]

end Grammar

namespace Parser

open Grammar SyntaxExplorer.Action

/-- An expression, or nothing before a given mark. -/
def parseExpressionUnless (closing : String) : Action (List SyntaxTree) := do
  if ← ask (checkMark closing) then return []
  else
    let inner ← parseExpression
    return [inner]

/-- A variable's declaration after its name, up to but without the mark that ends it. -/
def parseVariable (type name : Token) : Action SyntaxTree := do
  note (.variableDeclaration name.text)
  let typeNode := SyntaxTree.leaf .type type.text
  match ← matchOperator ["="] with
  | some _ =>
    let value ← parseExpression
    return ⟨.variableDeclaration, some name.text, [typeNode, ⟨.initialization, none, [value]⟩]⟩
  | none => return ⟨.variableDeclaration, some name.text, [typeNode]⟩

/-- Passes over a parameter list, whatever it holds, until no parenthesis is open. The second number counts
those that are. -/
def skipParameterList : Nat → Nat → Action Unit
  | _, 0 => return ()
  | 0, _ + 1 => unexpectedEnd .parameters
  | rounds + 1, depth + 1 => do
    match ← advance with
    | some token =>
      if token.toLexeme = ⟨.punctuation, "("⟩ then skipParameterList rounds (depth + 2)
      else if token.toLexeme = ⟨.punctuation, ")"⟩ then skipParameterList rounds depth
      else skipParameterList rounds (depth + 1)
    | none => unexpectedEnd .parameters

/-- Declarations until the parser is where the sequence closes, comments between them passed over. -/
def parseSequence (closes : Parser → Bool) (declaration : Action SyntaxTree) :
    Nat → Action (List SyntaxTree)
  | 0 => return []
  | rounds + 1 => do
    skipComments
    if ← ask closes then return []
    else
      let first ← declaration
      let others ← parseSequence closes declaration rounds
      return first :: others

/-- A block after its opening brace. -/
def parseBlock (declaration : Action SyntaxTree) : Action SyntaxTree := do
  let inner ← repeating (parseSequence (fun parser => parser.checkMark "\x7d" || parser.isAtEnd)
    declaration)
  expectMark "\x7d" .afterBlock
  return ⟨.block, none, inner⟩

/-- A function's declaration after the parenthesis that opens its parameters. Without a brace
directly behind the parameters there is no body. -/
def parseFunction (declaration : Action SyntaxTree) (type name : Token) : Action SyntaxTree := do
  note (.functionDeclaration name.text)
  repeating (skipParameterList · 1)
  let header := [SyntaxTree.leaf .type type.text, ⟨.parameters, none, []⟩]
  if ← matchMark "\x7b" then
    let body ← parseBlock declaration
    return ⟨.functionDeclaration, some name.text, header ++ [body]⟩
  else return ⟨.functionDeclaration, some name.text, header⟩

def parseCondition (opening closing : Place) : Action SyntaxTree := do
  expectMark "(" opening
  let inner ← parseExpression
  expectMark ")" closing
  return inner

/-- An `if` statement after its keyword. An `else` directly behind the first branch belongs to it. -/
def parseIf (statement : Action SyntaxTree) : Action SyntaxTree := do
  let test ← parseCondition .afterIf .afterIfCondition
  let yes ← statement
  if ← matchToken .keyword "else" then
    let no ← statement
    return ⟨.ifStatement, none, [test, yes, no]⟩
  else return ⟨.ifStatement, none, [test, yes]⟩

def parseWhile (statement : Action SyntaxTree) : Action SyntaxTree := do
  let test ← parseCondition .afterWhile .afterWhileCondition
  let body ← statement
  return ⟨.whileStatement, none, [test, body]⟩

/-- The first clause of a `for` statement and the semicolon behind it. -/
def parseForInit : Action SyntaxTree := do
  if ← matchMark ";" then return ⟨.forInit, none, []⟩
  else
    match ← matchKeyword loopVariableTypes with
    | some type =>
      let name ← expectIdentifier .afterType
      let declared ← parseVariable type name
      expectMark ";" .afterVariableDeclaration
      return ⟨.forInit, none, [declared]⟩
    | none =>
      let inner ← parseExpression
      expectMark ";" .afterForInitialization
      return ⟨.forInit, none, [inner]⟩

def parseFor (statement : Action SyntaxTree) : Action SyntaxTree := do
  expectMark "(" .afterFor
  let init ← parseForInit
  let test ← parseExpressionUnless ";"
  expectMark ";" .afterForCondition
  let step ← parseExpressionUnless ")"
  expectMark ")" .afterForClauses
  let body ← statement
  return ⟨.forStatement, none,
    [init, ⟨.forCondition, none, test⟩, ⟨.forIncrement, none, step⟩, body]⟩

def parseReturn : Action SyntaxTree := do
  let value ← parseExpressionUnless ";"
  expectMark ";" .afterReturn
  return ⟨.returnStatement, none, value⟩

def parseExpressionStatement : Action SyntaxTree := do
  let inner ← parseExpression
  expectMark ";" .afterExpression
  return inner

/-- A statement, comments before it passed over. -/
def parseAnyStatement (declaration statement : Action SyntaxTree) : Action SyntaxTree := do
  skipComments
  match ← ask peek with
  | some token =>
    note (.statement token)
    if ← matchToken .keyword "if" then parseIf statement
    else if ← matchToken .keyword "while" then parseWhile statement
    else if ← matchToken .keyword "for" then parseFor statement
    else if ← matchToken .keyword "return" then parseReturn
    else if ← matchMark "\x7b" then parseBlock declaration
    else parseExpressionStatement
  | none => unexpectedEnd .statement

/-- A declaration of a function or a variable, or a statement, comments before it passed over. -/
def parseAnyDeclaration (declaration statement : Action SyntaxTree) : Action SyntaxTree := do
  skipComments
  match ← matchKeyword typeNames with
  | some type =>
    let name ← expectIdentifier .afterType
    if ← matchMark "(" then parseFunction declaration type name
    else
      let declared ← parseVariable type name
      expectMark ";" .afterVariableDeclaration
      return declared
  | none => parseAnyStatement declaration statement

mutual

/-- A declaration with at most so many levels of nesting. -/
def parseDeclarationWithin : Nat → Action SyntaxTree
  | 0 => unexpectedEnd .statement
  | levels + 1 =>
    parseAnyDeclaration (parseDeclarationWithin levels) (parseStatementWithin levels)

/-- A statement with at most so many levels of nesting. -/
def parseStatementWithin : Nat → Action SyntaxTree
  | 0 => unexpectedEnd .statement
  | levels + 1 => parseAnyStatement (parseDeclarationWithin levels) (parseStatementWithin levels)

end

def parseDeclaration : Action SyntaxTree :=
  repeating parseDeclarationWithin

def parseStatement : Action SyntaxTree :=
  repeating parseStatementWithin

/-- Everything up to the end of the input. -/
def parseProgram : Action SyntaxTree := do
  let inner ← repeating (parseSequence isAtEnd parseDeclaration)
  return ⟨.program, none, inner⟩

end Parser

end SyntaxExplorer
