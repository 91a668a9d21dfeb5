import SyntaxExplorer.Grammar.Cursor
import SyntaxExplorer.Tree.Basic

namespace SyntaxExplorer

namespace Grammar

/-- The binary operators, level by level, the loosest first. -/
def binaryOperators : List (List String) :=
  [["==", "!="], [">", ">=", "<", "<="], ["+", "-"], ["*", "/", "%"]]

def unaryOperators : List String :=
  ["!", "-"]

end Grammar

namespace Parser

open Grammar SyntaxExplorer.Action

/-- An expression in parentheses, where neither a number nor a name comes next. -/
def parseGrouping (expression : Action SyntaxTree) : Action SyntaxTree := do
  if ← matchMark "(" then
    let inner ← expression
    expectMark ")" .afterExpression
    return ⟨.grouping, none, [inner]⟩
  else stop .expectedExpression

def parsePrimary (expression : Action SyntaxTree) : Action SyntaxTree := do
  match ← ask peek with
  | some token =>
    match token.kind with
    | .number =>
      let _ ← advance
      return .leaf .literal token.text
    | .identifier =>
      let _ ← advance
      return .leaf .identifier token.text
    | _ => parseGrouping expression
  | none => parseGrouping expression

/-- An operand under any number of unary operators. -/
def parseUnary (operand : Action SyntaxTree) : Nat → Action SyntaxTree
  | 0 => operand
  | rounds + 1 => do
    match ← matchOperator unaryOperators with
    | some sign =>
      let inner ← parseUnary operand rounds
      return ⟨.unary, some sign.text, [inner]⟩
    | none => operand

/-- What one level of binary operators adds to the operand read so far. -/
def parseBinaryRest (operators : List String) (operand : Action SyntaxTree) :
    Nat → SyntaxTree → Action SyntaxTree
  | 0, before => return before
  | rounds + 1, before => do
    match ← matchOperator operators with
    | some sign =>
      let right ← operand
      parseBinaryRest operators operand rounds ⟨.binary, some sign.text, [before, right]⟩
    | none => return before

/-- Operands of one level, joined by its operators from the left. -/
def parseBinaryLevel (operators : List String) (operand : Action SyntaxTree) :
    Action SyntaxTree := do
  let first ← operand
  repeating (parseBinaryRest operators operand · first)

/-- All that binds tighter than assignment. -/
def parseOperation (expression : Action SyntaxTree) : Action SyntaxTree :=
  binaryOperators.foldr parseBinaryLevel (repeating (parseUnary (parsePrimary expression)))

/-- An operation, or the assignment of an expression to a name. The equals sign is remembered, as the target
is judged only when the whole right side has been read. -/
def parseAssignment (expression : Action SyntaxTree) : Action SyntaxTree := do
  let target ← parseOperation expression
  match ← matchOperator ["="] with
  | some equals =>
    let value ← expression
    if target.kind = .identifier then return ⟨.assignment, target.value, [value]⟩
    else raise ⟨.invalidAssignmentTarget, equals.location⟩
  | none => return target

/-- An expression with at most so many levels of nesting. -/
def parseExpressionWithin : Nat → Action SyntaxTree
  | 0 => stop .expectedExpression
  | levels + 1 => parseAssignment (parseExpressionWithin levels)

def parseExpression : Action SyntaxTree :=
  repeating parseExpressionWithin

end Parser

end SyntaxExplorer
