import SyntaxExplorer.Explorer.State

namespace SyntaxExplorer.CommandLine

/-- How much detail an entry belongs to. -/
inductive Level
  | debug
  | trace
  deriving DecidableEq, Repr

namespace Level

def name : Level → String
  | debug => "DEBUG"
  | trace => "TRACE"

/-- Whether entries of the level are shown. Each step of verbosity shows one level more. -/
def shownAt (verbosity : Nat) : Level → Bool
  | debug => 1 ≤ verbosity
  | trace => 2 ≤ verbosity

end Level

/-- Something worth logging: its level, the part of the program that it comes from, what happened,
and particulars by name. -/
structure LogEntry where
  level : Level
  origin : String
  event : String
  particulars : List (String × String)
  deriving DecidableEq, Repr

namespace LogEntry

def text (entry : LogEntry) : String :=
  entry.level.name ++ " " ++ entry.origin ++ ": " ++ entry.event ++
    String.join (entry.particulars.map fun (name, value) => " " ++ name ++ "=" ++ value)

def fileRead (path : String) (bytes : Nat) : LogEntry :=
  ⟨.debug, "minic", "read source file", [("path", path), ("bytes", toString bytes)]⟩

/-- A source has been cut into tokens, up to some line. -/
def tokenized (tokens lines : Nat) : LogEntry :=
  ⟨.debug, "minic::parser::lexer", "tokenized source",
    [("tokens", toString tokens), ("lines", toString lines)]⟩

def traced : Trace → LogEntry
  | .functionDeclaration name =>
    ⟨.trace, "minic::parser::declarations", "function declaration", [("name", name)]⟩
  | .variableDeclaration name =>
    ⟨.trace, "minic::parser::declarations", "variable declaration", [("name", name)]⟩
  | .statement token =>
    ⟨.trace, "minic::parser::statements", "statement",
      [("token", token.description), ("line", toString token.location.line)]⟩

def parsed (tree : SyntaxTree) : LogEntry :=
  ⟨.debug, "minic::parser::parse", "parsed program",
    [("declarations", toString tree.children.length), ("nodes", toString tree.size)]⟩

def compiled (tokens nodes : Nat) : LogEntry :=
  ⟨.debug, "minic::compiler", "compilation finished",
    [("tokens", toString tokens), ("nodes", toString nodes)]⟩

/-- An explorer has gone through its source. -/
def loaded (failed : Bool) : LogEntry :=
  ⟨.debug, "minic::ui::app", "explorer loaded source", [("error", toString failed)]⟩

/-- The entries of both stages, up to the first error. -/
def ofStages (source : String) : List LogEntry :=
  match (Scanner.ofString source).tokens with
  | (.error _, _) => []
  | (.ok tokens, scanner) =>
    let parsing := Parsing.ofTokens tokens
    tokenized tokens.length scanner.location.line :: parsing.trace.map traced ++
      match parsing.outcome with
      | .error _ => []
      | .ok tree => [parsed tree]

def ofCompilation (source : String) : List LogEntry :=
  ofStages source ++
    match compile source with
    | .error _ => []
    | .ok compilation => [compiled compilation.tokens.length compilation.tree.size]

/-- The entries of an explorer that loads its source. -/
def ofLoading (explorer : Explorer) : List LogEntry :=
  ofStages explorer.source ++ [loaded explorer.error?.isSome]

end LogEntry

end SyntaxExplorer.CommandLine
