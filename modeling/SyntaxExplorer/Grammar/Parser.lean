import SyntaxExplorer.Grammar.Statements

namespace SyntaxExplorer

/-- What comes of parsing: what was noticed, the tokens not taken, and a tree or an error. -/
structure Parsing where
  trace : List Trace
  rest : List Token
  outcome : Except ParseError SyntaxTree

namespace Parser

/-- Reads a program from the cursor on. After an error, what is left begins where reading stopped, and may be
parsed in turn. -/
def call (parser : Parser) : Parsing :=
  let progress := parseProgram parser
  ⟨progress.trace, progress.parser.left, progress.outcome⟩

/-- What a call gives. -/
def answer (parser : Parser) : Except ParseError SyntaxTree :=
  parser.call.outcome

/-- The parser as a call leaves it. -/
def next (parser : Parser) : Parser :=
  (parseProgram parser).parser

/-- The parser of an input after so many calls. -/
def after (tokens : List Token) : Nat → Parser
  | 0 => ofTokens tokens
  | calls + 1 => (after tokens calls).next

end Parser

/-- Reads a program from the front of a token sequence. -/
def Parsing.ofTokens (tokens : List Token) : Parsing :=
  (Parser.ofTokens tokens).call

/-- The tree of a program. -/
def parse (tokens : List Token) : Except ParseError SyntaxTree :=
  (Parsing.ofTokens tokens).outcome

end SyntaxExplorer
