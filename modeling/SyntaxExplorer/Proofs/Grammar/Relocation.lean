import SyntaxExplorer.Compilation
import SyntaxExplorer.Proofs.Grammar.ParserSimulation
import SyntaxExplorer.Proofs.Token.Printing

namespace SyntaxExplorer

open Grammar

/-- The token at another place. -/
def Token.moved (move : Location → Location) (token : Token) : Token :=
  { token with location := move token.location }

/-- The error at another place. -/
def ParseError.moved (move : Location → Location) (error : ParseError) : ParseError :=
  { error with location := move error.location }

namespace Parsing

variable {tokens first second : List Token} {fault : Fault}

theorem map_moved (move : Location → Location) (tokens : List Token) :
    (tokens.map (·.moved move)).map Token.toLexeme = tokens.map Token.toLexeme := by
  rw [List.map_map]
  rfl

theorem tokenAt_moved (move : Location → Location) (tokens : List Token) (left : Nat) :
    tokenAt (tokens.map (·.moved move)) left = (tokenAt tokens left).map (·.moved move) := by
  rw [tokenAt_eq, tokenAt_eq, List.length_map, List.getElem?_map]

/-- Where there are tokens, the place of a fault is that of one of them. -/
theorem locate_moved (some : tokens ≠ []) (move : Location → Location) :
    locate (tokens.map (·.moved move)) fault = (locate tokens fault).moved move := by
  have here := List.getElem?_eq_getElem (indexAt_lt some fault.left)
  rw [← tokenAt_eq] at here
  have there := tokenAt_moved move tokens fault.left
  rw [here, Option.map_some] at there
  rw [locate_of_tokenAt here, locate_of_tokenAt there]
  rfl

theorem parse_map_moved (tokens : List Token) (move : Location → Location) :
    parse (tokens.map (·.moved move)) = (parse tokens).mapError (·.moved move) := by
  by_cases none : tokens = []
  · subst none
    rfl
  · rw [parse_eq, parse_eq, map_moved]
    cases (program (tokens.map Token.toLexeme)).outcome with
    | ok tree => rfl
    | error fault => exact congrArg Except.error (locate_moved none move)

/-- The same lexemes come to the same tree, or to the same cause at tokens of the same index. -/
theorem parse_of_same_lexemes (same : first.map Token.toLexeme = second.map Token.toLexeme) :
    (∃ tree, parse first = .ok tree ∧ parse second = .ok tree) ∨
      ∃ cause index, ∃ (here : index < first.length) (there : index < second.length),
        parse first = .error ⟨cause, first[index].location⟩ ∧
          parse second = .error ⟨cause, second[index].location⟩ := by
  have length : first.length = second.length := by
    have lengths := congrArg List.length same
    rwa [List.length_map, List.length_map] at lengths
  by_cases none : first = []
  · subst none
    obtain rfl := List.length_eq_zero_iff.mp length.symm
    exact .inl ⟨_, parse_nil, parse_nil⟩
  rw [parse_eq first, parse_eq second, ← same]
  cases (program (first.map Token.toLexeme)).outcome with
  | ok tree => exact .inl ⟨tree, rfl, rfl⟩
  | error fault =>
    have here := indexAt_lt none fault.left
    have there : indexAt first.length fault.left < second.length := length ▸ here
    have at_first : tokenAt first fault.left = some first[indexAt first.length fault.left] := by
      rw [tokenAt_eq, List.getElem?_eq_getElem here]
    have at_second : tokenAt second fault.left = some second[indexAt first.length fault.left] := by
      rw [tokenAt_eq, ← length, List.getElem?_eq_getElem there]
    refine .inr ⟨fault.cause, indexAt first.length fault.left, here, there, ?_, ?_⟩
    · exact congrArg Except.error (locate_of_tokenAt at_first)
    · exact congrArg Except.error (locate_of_tokenAt at_second)

end Parsing

open Parsing

/-- Tokens are counted by their kinds, wherever they stand. -/
theorem Report.analyze_of_same_lexemes {first second : List Token}
    (same : first.map Token.toLexeme = second.map Token.toLexeme) (tree : SyntaxTree) :
    analyze first tree = analyze second tree := by
  have counted (kind : TokenKind) (tokens : List Token) :
      tokens.countP (·.kind = kind) = (tokens.map Token.toLexeme).countP (·.kind = kind) := by
    rw [List.countP_map]
    rfl
  simp only [analyze_eq, counted, same]

/-- Moving the tokens moves an error with its token and keeps all else; an error is always at one of the
tokens; and sources whose tokens have the same lexemes come to the same tree and the same report, or fail
in the grammar for the same cause at tokens of the same index. -/
theorem parse_ignoresLayout :
    (∀ (tokens : List Token) (move : Location → Location),
      parse (tokens.map (·.moved move)) = (parse tokens).mapError (·.moved move)) ∧
    (∀ (tokens : List Token) (error : ParseError), parse tokens = .error error →
      ∃ token ∈ tokens, error.location = token.location) ∧
    ∀ (one two : String) (first second : List Token), tokenize one = .ok first →
      tokenize two = .ok second → first.map Token.toLexeme = second.map Token.toLexeme →
        (∃ tree report, compile one = .ok ⟨first, tree, report⟩ ∧
          compile two = .ok ⟨second, tree, report⟩) ∨
        ∃ cause index, ∃ (here : index < first.length) (there : index < second.length),
          compile one = .error (.grammatical ⟨cause, first[index].location⟩) ∧
            compile two = .error (.grammatical ⟨cause, second[index].location⟩) := by
  refine ⟨parse_map_moved, fun _ _ failed => exists_token_of_parse_error failed, ?_⟩
  intro one two first second scanned scannedToo same
  simp only [compile, scanned, scannedToo]
  rcases parse_of_same_lexemes same with
    ⟨tree, read, readToo⟩ | ⟨cause, index, here, there, failed, failedToo⟩
  · refine .inl ⟨tree, .analyze first tree, ?_, ?_⟩
    · rw [read]
    · rw [readToo, Report.analyze_of_same_lexemes same]
  · refine .inr ⟨cause, index, here, there, ?_, ?_⟩
    · rw [failed]
    · rw [failedToo]

/-- The semicolon is missed at the end of the input, which is told by the name, wherever that stands. -/
theorem parse_ignoresLayout_nameAlone :
    let name : Lexeme := ⟨.identifier, "x"⟩
    let missed : Location → ParseError := (⟨.expected (.mark ";") .afterExpression none, ·⟩)
    tokenize "x" = .ok [⟨name, ⟨1, 1⟩⟩] ∧ tokenize "\nx" = .ok [⟨name, ⟨2, 1⟩⟩] ∧
      compile "x" = .error (.grammatical (missed ⟨1, 1⟩)) ∧
      compile "\nx" = .error (.grammatical (missed ⟨2, 1⟩)) ∧
      ∃ token ∈ [(⟨name, ⟨1, 1⟩⟩ : Token)], (missed ⟨1, 1⟩).location = token.location := by
  intro name missed
  have word : Cut.first 'x' [] = .ok ⟨.identifier, [], []⟩ := rfl
  have scanned : tokenize "x" = .ok [⟨name, ⟨1, 1⟩⟩] := by
    have whole : "x".toList = ['x'] := rfl
    rw [tokenize, Scanner.ofString, whole, Scanner.tokens_lexeme rfl word, Scanner.tokens_nil]
    rfl
  have scannedBelow : tokenize "\nx" = .ok [⟨name, ⟨2, 1⟩⟩] := by
    have whole : "\nx".toList = ['\n', 'x'] := rfl
    rw [tokenize, Scanner.ofString, whole, Scanner.tokens_blank rfl, Scanner.tokens_lexeme rfl word,
      Scanner.tokens_nil]
    rfl
  have failed : parse [⟨name, ⟨1, 1⟩⟩] = .error (missed ⟨1, 1⟩) := by
    rw [parse_eq]
    rfl
  have stopped : compile "x" = .error (.grammatical (missed ⟨1, 1⟩)) := by
    simp only [compile, scanned, failed]
  obtain ⟨-, located, agree⟩ := parse_ignoresLayout
  refine ⟨scanned, scannedBelow, stopped, ?_, located _ _ failed⟩
  rcases agree "x" "\nx" _ _ scanned scannedBelow rfl with
    ⟨tree, report, complete, -⟩ | ⟨cause, index, here, there, stoppedAt, stoppedBelow⟩
  · rw [stopped] at complete
    cases complete
  · obtain rfl : index = 0 := Nat.lt_one_iff.mp here
    rw [stopped] at stoppedAt
    obtain rfl : Cause.expected (.mark ";") .afterExpression none = cause :=
      congrArg ParseError.cause (CompileError.grammatical.inj (Except.error.inj stoppedAt))
    exact stoppedBelow

end SyntaxExplorer
