import SyntaxExplorer.Token.Basic

namespace SyntaxExplorer.Grammar

/-- What a rule can ask for by name. -/
inductive Wanted
  | mark (text : String)
  | identifier
  deriving DecidableEq, Repr

namespace Wanted

/-- The thing asked for, as messages name it. -/
def description : Wanted → String
  | mark text => "'" ++ text ++ "'"
  | identifier => "identifier"

end Wanted

/-- Where in a construct something is asked for. -/
inductive Place
  | afterType
  | afterVariableDeclaration
  | afterExpression
  | afterBlock
  | afterReturn
  | afterIf
  | afterIfCondition
  | afterWhile
  | afterWhileCondition
  | afterFor
  | afterForInitialization
  | afterForCondition
  | afterForClauses
  deriving DecidableEq, Repr

namespace Place

def description : Place → String
  | afterType => "after type"
  | afterVariableDeclaration => "after variable declaration"
  | afterExpression => "after expression"
  | afterBlock => "after block"
  | afterReturn => "after return statement"
  | afterIf => "after 'if'"
  | afterIfCondition => "after if condition"
  | afterWhile => "after 'while'"
  | afterWhileCondition => "after while condition"
  | afterFor => "after 'for'"
  | afterForInitialization => "after for initialization"
  | afterForCondition => "after for condition"
  | afterForClauses => "after for clauses"

end Place

/-- The constructs that the end of the input can cut short in a way of their own. -/
inductive Construct
  | parameters
  | statement
  deriving DecidableEq, Repr

namespace Construct

def context : Construct → String
  | parameters => "while parsing function parameters"
  | statement => "where a statement was expected"

end Construct

/-- Why a rule cannot go on. What was found instead is absent at the end of the input. -/
inductive Cause
  | expected (wanted : Wanted) (place : Place) (found : Option Lexeme)
  | invalidAssignmentTarget
  | unexpectedEnd (construct : Construct)
  | expectedExpression (found : Option Lexeme)
  deriving DecidableEq, Repr

namespace Cause

def foundText (found : Option Lexeme) : String :=
  (found.map Lexeme.description).getD "end of input"

/-- What was asked for and where, in words. -/
def expectedText (wanted : Wanted) (place : Place) : String :=
  "Expected " ++ wanted.description ++ " " ++ place.description

def reason : Cause → String
  | expected wanted place found => expectedText wanted place ++ ", found " ++ foundText found
  | invalidAssignmentTarget => "Invalid assignment target"
  | unexpectedEnd construct => "Unexpected end of input " ++ construct.context
  | expectedExpression found => "Expected expression, found " ++ foundText found

end Cause

end SyntaxExplorer.Grammar
