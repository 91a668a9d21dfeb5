import SyntaxExplorer.Grammar.Cause

namespace SyntaxExplorer.Grammar

/-- A cause, and how many lexemes are left from the one that it concerns. -/
structure Fault where
  cause : Cause
  left : Nat
  deriving DecidableEq, Repr

/-- What is noticed while reading. A statement is known by how many lexemes are left where it
begins. -/
inductive Event
  | functionDeclaration (name : String)
  | variableDeclaration (name : String)
  | statement (left : Nat)
  deriving DecidableEq, Repr

/-- What comes of reading: the events on the way, the lexemes not taken, and a value or the fault
that stopped the rule just before those lexemes. -/
structure Reply (α : Type) where
  events : List Event
  rest : List Lexeme
  outcome : Except Fault α

/-- A way to read something from the front of a sequence of lexemes. -/
def Rule (α : Type) : Type :=
  List Lexeme → Reply α

namespace Rule

variable {α β : Type}

def succeed (value : α) : Rule α :=
  fun lexemes => ⟨[], lexemes, .ok value⟩

/-- Goes on with a second rule where the first left off. -/
def andThen (first : Rule α) (second : α → Rule β) : Rule β :=
  fun lexemes =>
    let reply := first lexemes
    match reply.outcome with
    | .error fault => ⟨reply.events, reply.rest, .error fault⟩
    | .ok value =>
      let later := second value reply.rest
      ⟨reply.events ++ later.events, later.rest, later.outcome⟩

instance : Monad Rule where
  pure := succeed
  bind := andThen

/-- Stops, blaming an earlier lexeme by the number of lexemes left there. -/
def failAt (left : Nat) (cause : Cause) : Rule α :=
  fun lexemes => ⟨[], lexemes, .error ⟨cause, left⟩⟩

/-- Stops, blaming the next lexeme. -/
def fail (cause : Option Lexeme → Cause) : Rule α :=
  fun lexemes => failAt lexemes.length (cause lexemes.head?) lexemes

def left : Rule Nat :=
  fun lexemes => succeed lexemes.length lexemes

def note (event : Event) : Rule Unit :=
  fun lexemes => ⟨[event], lexemes, .ok ()⟩

/-- Takes the next lexeme if it satisfies a condition and goes on one way, and leaves it and goes on
the other way if not. -/
def take (holds : Lexeme → Bool) (taken : Lexeme → Rule α) (otherwise : Rule α) : Rule α
  | [] => otherwise []
  | lexeme :: lexemes =>
    if holds lexeme then taken lexeme lexemes else otherwise (lexeme :: lexemes)

/-- Decides by the next lexeme without taking it. -/
def ahead (holds : Option Lexeme → Bool) (yes no : Rule α) : Rule α :=
  fun lexemes => if holds lexemes.head? then yes lexemes else no lexemes

def skipComments : Rule Unit :=
  fun lexemes => ⟨[], lexemes.dropWhile (·.kind = .comment), .ok ()⟩

/-- Gives a repeating rule as many rounds as there are lexemes. A round takes a lexeme or is the
last, so the rounds never run out before the lexemes do. -/
def repeating (rule : Nat → Rule α) : Rule α :=
  fun lexemes => rule lexemes.length lexemes

def mark (text : String) : Lexeme :=
  ⟨.punctuation, text⟩

def keyword (text : String) : Lexeme :=
  ⟨.keyword, text⟩

def isOperatorIn (operators : List String) (lexeme : Lexeme) : Bool :=
  lexeme.kind = .operator && lexeme.text ∈ operators

def isKeywordIn (words : List String) (lexeme : Lexeme) : Bool :=
  lexeme.kind = .keyword && lexeme.text ∈ words

/-- Takes a punctuation mark that must come next. -/
def expectMark (text : String) (place : Place) : Rule Unit :=
  take (· = mark text) (fun _ => succeed ()) (fail (.expected (.mark text) place))

/-- Takes an identifier that must come next, and gives its name. -/
def expectIdentifier (place : Place) : Rule String :=
  take (·.kind = .identifier) (fun lexeme => succeed lexeme.text)
    (fail (.expected .identifier place))

end Rule

end SyntaxExplorer.Grammar
