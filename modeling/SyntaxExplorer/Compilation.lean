import SyntaxExplorer.Token.Scanner
import SyntaxExplorer.Grammar.Parser
import SyntaxExplorer.Report

namespace SyntaxExplorer

/-- The error of the stage that failed. -/
inductive CompileError
  | lexical (error : LexError)
  | grammatical (error : ParseError)
  deriving DecidableEq, Repr

namespace CompileError

def location : CompileError → Location
  | lexical error => error.location
  | grammatical error => error.location

def stage : CompileError → String
  | lexical _ => "LexicalError"
  | grammatical _ => "SyntaxError"

def message : CompileError → String
  | lexical error => error.message
  | grammatical error => error.message

end CompileError

structure Compilation where
  tokens : List Token
  tree : SyntaxTree
  report : Report

/-- Tokens, tree and report of a source text, or why there are none. -/
def compile (source : String) : Except CompileError Compilation :=
  match tokenize source with
  | .error error => .error (.lexical error)
  | .ok tokens =>
    match parse tokens with
    | .error error => .error (.grammatical error)
    | .ok tree => .ok ⟨tokens, tree, .analyze tokens tree⟩

/-- A source compiles if it gets through both stages, and the report is about what they give. -/
theorem compile_eq_ok_iff {source : String} {tokens : List Token} {tree : SyntaxTree} {report : Report} :
    compile source = .ok ⟨tokens, tree, report⟩ ↔
      tokenize source = .ok tokens ∧ parse tokens = .ok tree ∧ report = .analyze tokens tree := by
  rw [compile]
  constructor
  · intro compiles
    split at compiles
    · cases compiles
    · rename_i found scanned
      split at compiles
      · cases compiles
      · rename_i built read
        cases compiles
        exact ⟨scanned, read, rfl⟩
  · rintro ⟨scanned, read, rfl⟩
    simp only [scanned, read]

/-- How far a source text gets: not into tokens, into tokens but not into a tree, or all the way. -/
inductive Inspection
  | unscanned (error : LexError)
  | unparsed (tokens : List Token) (error : ParseError)
  | complete (compilation : Compilation)

namespace Inspection

def ofSource (source : String) : Inspection :=
  match tokenize source with
  | .error error => unscanned error
  | .ok tokens =>
    match parse tokens with
    | .error error => unparsed tokens error
    | .ok tree => complete ⟨tokens, tree, .analyze tokens tree⟩

/-- How far a text gets, with what each stage gives for it. -/
theorem ofSource_cases (source : String) :
    (∃ error, tokenize source = .error error ∧ ofSource source = .unscanned error) ∨
      (∃ tokens error, tokenize source = .ok tokens ∧ parse tokens = .error error ∧
        ofSource source = .unparsed tokens error) ∨
      ∃ tokens tree, tokenize source = .ok tokens ∧ parse tokens = .ok tree ∧
        ofSource source = .complete ⟨tokens, tree, .analyze tokens tree⟩ := by
  rw [ofSource]
  cases scanned : tokenize source with
  | error error => exact Or.inl ⟨error, rfl, rfl⟩
  | ok tokens =>
    cases parsed : parse tokens with
    | error error => exact Or.inr (Or.inl ⟨tokens, error, rfl, parsed, by simp only [parsed]⟩)
    | ok tree => exact Or.inr (Or.inr ⟨tokens, tree, rfl, parsed, by simp only [parsed]⟩)

/-- The tokens, none where the text has no complete token sequence. -/
def tokens : Inspection → List Token
  | unscanned _ => []
  | unparsed tokens _ => tokens
  | complete compilation => compilation.tokens

def tree? : Inspection → Option SyntaxTree
  | complete compilation => some compilation.tree
  | _ => none

def report? : Inspection → Option Report
  | complete compilation => some compilation.report
  | _ => none

def error? : Inspection → Option CompileError
  | unscanned error => some (.lexical error)
  | unparsed _ error => some (.grammatical error)
  | complete _ => none

end Inspection

end SyntaxExplorer
