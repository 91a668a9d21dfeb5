import SyntaxExplorer.Source

namespace SyntaxExplorer

/-- The classes of tokens. -/
inductive TokenKind
  | keyword
  | identifier
  | number
  | operator
  | punctuation
  | comment
  deriving DecidableEq, Repr, Inhabited

namespace TokenKind

/-- Every kind, in the order in which reports list them. -/
def all : List TokenKind :=
  [keyword, identifier, number, operator, punctuation, comment]

def name : TokenKind → String
  | keyword => "KEYWORD"
  | identifier => "IDENTIFIER"
  | number => "NUMBER"
  | operator => "OPERATOR"
  | punctuation => "PUNCTUATION"
  | comment => "COMMENT"

end TokenKind

/-- A piece of source text with its class, wherever it stands. -/
structure Lexeme where
  kind : TokenKind
  text : String
  deriving DecidableEq, Repr, Inhabited

def Lexeme.description (lexeme : Lexeme) : String :=
  lexeme.kind.name ++ " '" ++ lexeme.text ++ "'"

/-- A lexeme and the place of its first character. -/
structure Token extends Lexeme where
  location : Location
  deriving DecidableEq, Repr, Inhabited

/-- The names of types, each of which opens a declaration. -/
def typeNames : List String :=
  ["int", "char", "float", "double", "void"]

def keywords : List String :=
  typeNames ++ ["if", "else", "while", "for", "return", "printf"]

/-- The characters that operators begin with; each is an operator by itself. -/
def operatorSigns : List Char :=
  ['+', '-', '*', '/', '%', '=', '<', '>', '!']

/-- The pairs of characters that form one operator. -/
def operatorPairs : List (Char × Char) :=
  [('=', '='), ('!', '='), ('<', '='), ('>', '='), ('+', '+'), ('-', '-')]

/-- The brackets, of which highlighting makes more than of other punctuation. -/
def brackets : List Char :=
  ['(', ')', '{', '}', '[', ']']

def punctuationMarks : List Char :=
  [';', ','] ++ brackets

/-- The characters that separate tokens and belong to none. -/
def isBlank (c : Char) : Bool :=
  c = ' ' || c = '\t' || c = '\r' || c = '\n'

/-- Letters, of the Latin alphabet only, and the underscore begin a word. -/
def isWordStart (c : Char) : Bool :=
  c.isAlpha || c = '_'

/-- Words go on with digits too. -/
def isWordPart (c : Char) : Bool :=
  c.isAlphanum || c = '_'

/-- Numbers begin with a digit and go on with digits and points, however many points. -/
def isNumberPart (c : Char) : Bool :=
  c.isDigit || c = '.'

end SyntaxExplorer
