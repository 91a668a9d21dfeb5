import SyntaxExplorer.Proofs.Grammar.ParserSimulation
import SyntaxExplorer.Proofs.Grammar.PhraseCompleteness
import SyntaxExplorer.Proofs.Grammar.PhraseSoundness

namespace SyntaxExplorer

open Grammar Rule

/-- Places in the source do not matter for success. -/
theorem parse_eq_ok_iff_takes {tokens : List Token} {tree : SyntaxTree} :
    parse tokens = .ok tree ↔ ∃ rest, Takes program (tokens.map Token.toLexeme) tree rest := by
  rw [Parsing.parse_eq]
  rcases reply : program (tokens.map Token.toLexeme) with ⟨events, rest, outcome⟩
  constructor
  · intro parsed
    cases outcome with
    | error fault =>
      have failed : .error (Parsing.locate tokens fault) = Except.ok tree := parsed
      cases failed
    | ok value =>
      have same : .ok value = Except.ok tree := parsed
      rw [Except.ok.inj same] at reply
      exact ⟨rest, events, reply⟩
  · rintro ⟨rest', events', reply'⟩
    rw [reply, Reply.mk.injEq] at reply'
    rw [reply'.2.2]
    rfl

/-- What the grammar calls a program is read to its end, and nothing else is read. -/
theorem exists_takes_program {lexemes : List Lexeme} {tree : SyntaxTree} :
    (∃ rest, Takes program lexemes tree rest) ↔ IsProgram lexemes tree := by
  constructor
  · rintro ⟨rest, takes⟩
    exact (program_sound takes).2
  · intro derived
    exact ⟨[], program_complete derived⟩

/-- The parser accepts a token sequence with a tree exactly if the grammar derives that tree from
its lexemes. -/
theorem parse_eq_ok_iff_isProgram (tokens : List Token) (tree : SyntaxTree) :
    parse tokens = .ok tree ↔ IsProgram (tokens.map Token.toLexeme) tree := by
  rw [parse_eq_ok_iff_takes, exists_takes_program]

end SyntaxExplorer
