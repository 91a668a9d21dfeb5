import SyntaxExplorer.Proofs.Grammar.Parsing
import SyntaxExplorer.Proofs.Grammar.PhraseForesight

namespace SyntaxExplorer

open Grammar Rule

namespace Parsing

/-- How many tokens are taken before reading stops. -/
def cursor (tokens : List Token) : Nat :=
  tokens.length - (ofTokens tokens).rest.length

variable {tokens taken left others : List Token} {fault : Fault} {error : ParseError}

theorem parse_of_fails {rest : List Lexeme}
    (fails : Fails program (tokens.map Token.toLexeme) fault rest) :
    parse tokens = .error (locate tokens fault) := by
  obtain ⟨events, reply⟩ := fails
  rw [parse_eq, reply]
  rfl

theorem cursor_of_fails
    (fails : Fails program ((taken ++ left).map Token.toLexeme) fault (left.map Token.toLexeme)) :
    cursor (taken ++ left) = taken.length := by
  obtain ⟨events, reply⟩ := fails
  simp only [cursor, ofTokens_eq, ofReply, reply, List.length_drop, List.length_map, List.length_append]
  omega

/-- The parser fails where the rule for programs does. -/
theorem exists_fails (failed : parse tokens = .error error) :
    ∃ taken left fault, tokens = taken ++ left ∧ error = locate tokens fault ∧
      Fails program (taken.map Token.toLexeme ++ left.map Token.toLexeme) fault
        (left.map Token.toLexeme) := by
  rcases takes_or_fails program (tokens.map Token.toLexeme) with
    ⟨tree, rest, takes⟩ | ⟨fault, rest, fails⟩
  · rw [parse_eq_ok_iff_takes.mpr ⟨rest, takes⟩] at failed
    cases failed
  · obtain ⟨read, whole⟩ := program_takesFront.suffix_of_fails fails
    obtain ⟨taken, left, rfl, rfl, rfl⟩ := List.map_eq_append_iff.mp whole.symm
    rw [parse_of_fails fails] at failed
    rw [List.map_append] at fails
    exact ⟨taken, left, fault, rfl, (Except.error.inj failed).symm, fails⟩

/-- A fault lies before the next token or at it, so the tokens behind that make no difference. -/
theorem locate_append {cause : Cause} {back : Nat} (same : others.head? = left.head?)
    (some : left ≠ []) :
    locate (taken ++ others) ⟨cause, back + others.length⟩ =
      locate (taken ++ left) ⟨cause, back + left.length⟩ := by
  have place {after : List Token} (some : after ≠ []) :
      tokenAt (taken ++ after) (back + after.length) =
        ((taken.drop (taken.length - back)).head?.or after.head?) := by
    have positive := List.length_pos_iff.mpr some
    have index : (taken ++ after).length - max 1 (back + after.length) = taken.length - back := by
      rw [List.length_append]
      omega
    rw [tokenAt, index, List.drop_append_of_le_length (Nat.sub_le ..), List.head?_append]
  have others_ne : others ≠ [] := by
    rintro rfl
    exact some (List.head?_eq_none_iff.mp same.symm)
  rw [locate, locate, locationAt, locationAt, place some, place others_ne, same]

/-- What the parser has taken is less than one token more than that. -/
theorem program_steady (taken : List Token) :
    Steady (Ends (· = none)) ((taken.map Token.toLexeme).length + 1) program :=
  (program_prompt _).toSteady

theorem fails_again
    (fails : Fails program (taken.map Token.toLexeme ++ left.map Token.toLexeme) fault
      (left.map Token.toLexeme))
    (same : others.head? = left.head?) (some : left ≠ []) :
    parse (taken ++ others) = .error (locate (taken ++ left) fault) ∧
      cursor (taken ++ others) = taken.length := by
  obtain ⟨cause, count⟩ := fault
  obtain ⟨back, rfl, again⟩ := (program_steady taken).again (Nat.lt_succ_self _) fails
  have failsOthers := again (others.map Token.toLexeme) (by rw [List.head?_map, List.head?_map, same])
  rw [← List.map_append] at failsOthers
  refine ⟨?_, cursor_of_fails failsOthers⟩
  rw [parse_of_fails failsOthers, List.length_map, List.length_map, locate_append same some]

/-- What begins like these tokens, up to the next one, has the same next one. -/
theorem exists_eq_append_of_take_eq (some : left ≠ [])
    (same : others.take (taken.length + 1) = (taken ++ left).take (taken.length + 1)) :
    ∃ later, others = taken ++ later ∧ later.head? = left.head? := by
  obtain ⟨token, behind, rfl⟩ := List.exists_cons_of_ne_nil some
  refine ⟨token :: others.drop (taken.length + 1), ?_, rfl⟩
  calc others
      = others.take (taken.length + 1) ++ others.drop (taken.length + 1) :=
        (List.take_append_drop ..).symm
    _ = taken ++ token :: others.drop (taken.length + 1) := by
        rw [same, List.take_length_add_append]
        simp

/-- Lexemes at any place are tokens. -/
theorem exists_tokens (lexemes : List Lexeme) :
    ∃ tokens : List Token, tokens.map Token.toLexeme = lexemes :=
  ⟨lexemes.map (⟨·, .start⟩), by rw [List.map_map]; exact List.map_id _⟩

theorem exists_continuation
    (fails : Fails program (taken.map Token.toLexeme ++ left.map Token.toLexeme) fault
      (left.map Token.toLexeme)) :
    ∃ more : List Token, (∃ tree, parse (taken ++ more) = .ok tree) ∨
      ∃ location, parse (taken ++ more) = .error ⟨.invalidAssignmentTarget, location⟩ := by
  by_cases none : taken = []
  · subst none
    exact ⟨[], .inl ⟨_, rfl⟩⟩
  have begun : taken.map Token.toLexeme ≠ [] := by simpa using none
  rcases (program_steady taken).resumes begun (Nat.lt_succ_self _) fails with
    target | ⟨lexemes, finishes⟩
  · -- The target is at fault as it stands.
    obtain ⟨_, count⟩ := fault
    obtain rfl := target
    rw [← List.map_append] at fails
    exact ⟨left, .inr ⟨_, parse_of_fails fails⟩⟩
  · obtain ⟨more, rfl⟩ := exists_tokens lexemes
    have finished := finishes [] ends_nil
    rw [List.append_nil, ← List.map_append] at finished
    rcases finished with ⟨tree, takes⟩ | ⟨count, stopped, fails⟩
    · exact ⟨more, .inl ⟨tree, parse_eq_ok_iff_takes.mpr ⟨[], takes⟩⟩⟩
    · exact ⟨more, .inr ⟨_, parse_of_fails fails⟩⟩

end Parsing

open Parsing

/-- Tokens that begin like these, up to the one at which reading stops, are reported the same. And
what was taken can be continued to a program, or so that all that is wrong is the target of an
assignment, which is judged late. -/
theorem parse_failsEarly {tokens : List Token} {error : ParseError}
    (failed : parse tokens = .error error) :
    (cursor tokens < tokens.length → ∀ others : List Token,
      others.take (cursor tokens + 1) = tokens.take (cursor tokens + 1) →
        parse others = .error error ∧ cursor others = cursor tokens) ∧
    ∃ more : List Token, (∃ tree, parse (tokens.take (cursor tokens) ++ more) = .ok tree) ∨
      ∃ location, parse (tokens.take (cursor tokens) ++ more) =
        .error ⟨.invalidAssignmentTarget, location⟩ := by
  obtain ⟨taken, left, fault, rfl, rfl, fails⟩ := exists_fails failed
  have here : cursor (taken ++ left) = taken.length := cursor_of_fails (by rwa [List.map_append])
  rw [here]
  constructor
  · intro inside others same
    have some : left ≠ [] := by
      rintro rfl
      simp at inside
    obtain ⟨later, rfl, next⟩ := exists_eq_append_of_take_eq some same
    exact fails_again fails next some
  · rw [List.take_left]
    exact exists_continuation fails

/-- The parenthesis is missed at the semicolon, whatever is behind it. -/
def unclosedCondition : List Token :=
  [mark "\x7b", keyword "while", mark "(", ⟨.identifier, "a"⟩, operator "<", ⟨.number, "2"⟩, mark ";",
    ⟨.identifier, "b"⟩].mapIdx fun index lexeme => ⟨lexeme, ⟨1, index + 1⟩⟩

theorem parse_failsEarly_unclosedCondition :
    let error : ParseError :=
      ⟨.expected (.mark ")") .afterWhileCondition (some (mark ";")), ⟨1, 7⟩⟩
    parse unclosedCondition = .error error ∧ cursor unclosedCondition = 6 ∧
      (∀ others : List Token, others.take 7 = unclosedCondition.take 7 →
        parse others = .error error ∧ cursor others = 6) ∧
      ∃ more : List Token, (∃ tree, parse (unclosedCondition.take 6 ++ more) = .ok tree) ∨
        ∃ location, parse (unclosedCondition.take 6 ++ more) =
          .error ⟨.invalidAssignmentTarget, location⟩ := by
  intro error
  have failed : parse unclosedCondition = .error error := rfl
  have here : cursor unclosedCondition = 6 := rfl
  obtain ⟨again, continued⟩ := parse_failsEarly failed
  rw [here] at again continued
  exact ⟨failed, here, again (by decide), continued⟩

end SyntaxExplorer
