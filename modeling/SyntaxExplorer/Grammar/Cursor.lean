import SyntaxExplorer.Grammar.Cause

namespace SyntaxExplorer

open Grammar

/-- Why a token sequence is no program, and where. -/
structure ParseError where
  cause : Cause
  location : Location
  deriving DecidableEq, Repr

namespace ParseError

def message (error : ParseError) : String :=
  "Parse error at " ++ error.location.description ++ ": " ++ error.cause.reason

end ParseError

/-- What the parser notices on its way through a program. -/
inductive Trace
  | functionDeclaration (name : String)
  | variableDeclaration (name : String)
  | statement (first : Token)
  deriving DecidableEq, Repr

/-- All tokens of an input, and how many of them are taken. -/
structure Parser where
  tokens : List Token
  position : Nat
  deriving DecidableEq, Repr

/-- What comes of an action: what was noticed on the way, the parser as it is left, and a value or the
error that stopped the action there. -/
structure Progress (α : Type) where
  trace : List Trace
  parser : Parser
  outcome : Except ParseError α

/-- Something that a parser does. -/
def Action (α : Type) : Type :=
  Parser → Progress α

namespace Action

variable {α β : Type}

def succeed (value : α) : Action α :=
  fun parser => ⟨[], parser, .ok value⟩

/-- Goes on with a second action where the first left the parser. -/
def andThen (first : Action α) (second : α → Action β) : Action β :=
  fun parser =>
    let progress := first parser
    match progress.outcome with
    | .error error => ⟨progress.trace, progress.parser, .error error⟩
    | .ok value =>
      let later := second value progress.parser
      ⟨progress.trace ++ later.trace, later.parser, later.outcome⟩

instance : Monad Action where
  pure := succeed
  bind := andThen

/-- Asks something about the parser, which stays as it is. -/
def ask (question : Parser → α) : Action α :=
  fun parser => ⟨[], parser, .ok (question parser)⟩

def note (noticed : Trace) : Action Unit :=
  fun parser => ⟨[noticed], parser, .ok ()⟩

def raise (error : ParseError) : Action α :=
  fun parser => ⟨[], parser, .error error⟩

/-- Gives a repeating action as many rounds as there are tokens left. A round takes a token or is the last,
so the rounds never run out before the tokens do. -/
def repeating (action : Nat → Action α) : Action α :=
  fun parser => action (parser.tokens.length - parser.position) parser

end Action

namespace Parser

open SyntaxExplorer.Action

variable {α : Type}

def ofTokens (tokens : List Token) : Parser :=
  ⟨tokens, 0⟩

/-- The tokens that are not taken yet. -/
def left (parser : Parser) : List Token :=
  parser.tokens.drop parser.position

/-- The current token. -/
def peek (parser : Parser) : Option Token :=
  parser.tokens[parser.position]?

def isAtEnd (parser : Parser) : Bool :=
  parser.tokens.length ≤ parser.position

/-- Whether the current token has a kind and a text. -/
def check (kind : TokenKind) (text : String) (parser : Parser) : Bool :=
  parser.peek.any (·.toLexeme = ⟨kind, text⟩)

def checkKind (kind : TokenKind) (parser : Parser) : Bool :=
  parser.peek.any (·.kind = kind)

def checkMark (text : String) : Parser → Bool :=
  check .punctuation text

/-- The place of the current token, or of the last token where they have run out. Without any token it is
the start of the source. -/
def currentLocation (parser : Parser) : Location :=
  ((parser.peek <|> parser.tokens.getLast?).map Token.location).getD .start

/-- The current token as errors tell it. -/
def found (parser : Parser) : Option Lexeme :=
  parser.peek.map Token.toLexeme

/-- Stops with an error at the current place. -/
def stop (cause : Option Lexeme → Cause) : Action α := do
  let error ← ask fun parser => ⟨cause parser.found, parser.currentLocation⟩
  raise error

def unexpectedEnd (construct : Construct) : Action α :=
  stop fun _ => .unexpectedEnd construct

/-- Takes the current token, if there is one. -/
def advance : Action (Option Token) :=
  fun parser =>
    match parser.peek with
    | none => ⟨[], parser, .ok none⟩
    | some token => ⟨[], { parser with position := parser.position + 1 }, .ok (some token)⟩

/-- Takes the current token if it has a kind and a text. -/
def matchToken (kind : TokenKind) (text : String) : Action Bool := do
  if ← ask (check kind text) then
    let _ ← advance
    return true
  else return false

def matchMark (text : String) : Action Bool :=
  matchToken .punctuation text

/-- Takes the current token if it is of a kind and has one of some texts. -/
def matchOneOf (kind : TokenKind) (texts : List String) : Action (Option Token) := do
  match ← ask peek with
  | some token => if token.kind = kind && token.text ∈ texts then advance else return none
  | none => return none

def matchOperator (operators : List String) : Action (Option Token) :=
  matchOneOf .operator operators

def matchKeyword (words : List String) : Action (Option Token) :=
  matchOneOf .keyword words

def skipCommentsWithin : Nat → Action Unit
  | 0 => return ()
  | rounds + 1 => do
    if ← ask (checkKind .comment) then
      let _ ← advance
      skipCommentsWithin rounds
    else return ()

def skipComments : Action Unit :=
  repeating skipCommentsWithin

/-- Takes a token that must come next. -/
def expectToken (kind : TokenKind) (text : String) (wanted : Wanted) (place : Place) :
    Action Token := do
  if ← ask (check kind text) then
    match ← advance with
    | some token => return token
    | none => stop (.expected wanted place)
  else stop (.expected wanted place)

def expectMark (text : String) (place : Place) : Action Unit := do
  let _ ← expectToken .punctuation text (.mark text) place
  return ()

def expectIdentifier (place : Place) : Action Token := do
  match ← ask peek with
  | some token =>
    if token.kind = .identifier then
      let _ ← advance
      return token
    else stop (.expected .identifier place)
  | none => stop (.expected .identifier place)

end Parser

end SyntaxExplorer
