import SyntaxExplorer.Proofs.Grammar.Rule
import SyntaxExplorer.Grammar.Expressions

namespace SyntaxExplorer.Grammar

open Rule

/-- A number, a name, or an expression in parentheses. -/
def primary (expression : Rule SyntaxTree) : Rule SyntaxTree :=
  take (·.kind = .number) (fun lexeme => succeed (.leaf .literal lexeme.text)) <|
  take (·.kind = .identifier) (fun lexeme => succeed (.leaf .identifier lexeme.text)) <|
  take (· = mark "(")
    (fun _ => do
      let inner ← expression
      expectMark ")" .afterExpression
      return ⟨.grouping, none, [inner]⟩)
    (fail .expectedExpression)

/-- An operand under any number of unary operators. -/
def unary (operand : Rule SyntaxTree) : Nat → Rule SyntaxTree
  | 0 => operand
  | rounds + 1 =>
    take (isOperatorIn unaryOperators)
      (fun sign => do
        let inner ← unary operand rounds
        return ⟨.unary, some sign.text, [inner]⟩)
      operand

/-- What one level of binary operators adds to the operand read so far. -/
def binaryRest (operators : List String) (operand : Rule SyntaxTree) :
    Nat → SyntaxTree → Rule SyntaxTree
  | 0, before => succeed before
  | rounds + 1, before =>
    take (isOperatorIn operators)
      (fun sign => do
        let right ← operand
        binaryRest operators operand rounds ⟨.binary, some sign.text, [before, right]⟩)
      (succeed before)

/-- Operands of one level, joined by its operators from the left. -/
def binary (operators : List String) (operand : Rule SyntaxTree) : Rule SyntaxTree := do
  let first ← operand
  repeating (binaryRest operators operand · first)

/-- All that binds tighter than assignment. -/
def operation (expression : Rule SyntaxTree) : Rule SyntaxTree :=
  binaryOperators.foldr binary (repeating (unary (primary expression)))

/-- An operation, or the assignment of an expression to a name. The target is judged only when the
whole right side has been read, and the fault lies at the equals sign. -/
def assignment (expression : Rule SyntaxTree) : Rule SyntaxTree := do
  let target ← operation expression
  let left ← left
  take (isOperatorIn ["="])
    (fun _ => do
      let value ← expression
      if target.kind = .identifier then return ⟨.assignment, target.value, [value]⟩
      else failAt left .invalidAssignmentTarget)
    (succeed target)

/-- An expression with at most so many levels of nesting. -/
def expressionWithin : Nat → Rule SyntaxTree
  | 0 => fail .expectedExpression
  | levels + 1 => assignment (expressionWithin levels)

def expression : Rule SyntaxTree :=
  repeating expressionWithin

end SyntaxExplorer.Grammar
