import SyntaxExplorer.Grammar.Parser
import SyntaxExplorer.Proofs.Grammar.Blame

namespace SyntaxExplorer

open Grammar Rule

namespace Parser

variable {parser : Parser} {tokens : List Token} {tree : SyntaxTree} {calls later : Nat}

section OneCall

theorem rest_length_le (parser : Parser) :
    (program (parser.left.map Token.toLexeme)).rest.length ≤
      parser.tokens.length - parser.position := by
  have suffix := program_takesFront (parser.left.map Token.toLexeme)
  have shorter := suffix.length_le
  rw [List.length_map, left, List.length_drop] at shorter
  exact shorter

variable (inside : parser.position ≤ parser.tokens.length)

include inside

theorem eq_between : parser = between (parser.tokens.take parser.position) parser.left := by
  obtain ⟨tokens, position⟩ := parser
  have whole : tokens.take position ++ tokens.drop position = tokens := List.take_append_drop ..
  have taken : (tokens.take position).length = position := List.length_take_of_le inside
  rw [between, left, whole, taken]

/-- The cursor comes to stand before what the grammar has left. -/
theorem next_eq :
    parser.next = ⟨parser.tokens,
      parser.tokens.length - (program (parser.left.map Token.toLexeme)).rest.length⟩ := by
  have whole : parser.tokens.take parser.position ++ parser.left = parser.tokens :=
    List.take_append_drop ..
  have moved := next_between (parser.tokens.take parser.position) parser.left
  rwa [← eq_between inside, whole] at moved

theorem position_le_next : parser.position ≤ parser.next.position := by
  have fewer := rest_length_le parser
  have moved : parser.next.position =
      parser.tokens.length - (program (parser.left.map Token.toLexeme)).rest.length :=
    congrArg position (next_eq inside)
  omega

/-- A call answers as a parser does that is given only what is left. -/
theorem answer_eq_parse : parser.answer = SyntaxExplorer.parse parser.left := by
  rw [answer, eq_between inside, call_between, left_between]
  exact Parsing.ofReply_behind ..

/-- A program is read to the end of the input. -/
theorem next_position_of_ok (read : parser.answer = .ok tree) :
    parser.next.position = parser.tokens.length := by
  rw [answer_eq_parse inside, parse_eq_ok_iff_takes] at read
  obtain ⟨rest, takes⟩ := read
  obtain ⟨rfl, -⟩ := program_sound takes
  obtain ⟨events, reply⟩ := takes
  rw [next_eq inside, reply]
  rfl

theorem answer_at_end (finished : parser.position = parser.tokens.length) :
    parser.answer = .ok ⟨.program, none, []⟩ := by
  have nothing : parser.left = [] := by rw [left, finished, List.drop_length]
  rw [answer_eq_parse inside, nothing]
  rfl

end OneCall

section Calls

/-- The cursor stays within the tokens, and those stay as they are. -/
theorem after_within (tokens : List Token) (calls : Nat) :
    (after tokens calls).tokens = tokens ∧ (after tokens calls).position ≤ tokens.length := by
  induction calls with
  | zero => exact ⟨rfl, Nat.zero_le _⟩
  | succ calls ih =>
    obtain ⟨same, within⟩ := ih
    have inside : (after tokens calls).position ≤ (after tokens calls).tokens.length := by rwa [same]
    rw [after, next_eq inside, same]
    exact ⟨rfl, Nat.sub_le ..⟩

theorem tokens_after (tokens : List Token) (calls : Nat) : (after tokens calls).tokens = tokens :=
  (after_within tokens calls).1

theorem position_after_le (tokens : List Token) (calls : Nat) :
    (after tokens calls).position ≤ tokens.length :=
  (after_within tokens calls).2

theorem after_inside (tokens : List Token) (calls : Nat) :
    (after tokens calls).position ≤ (after tokens calls).tokens.length := by
  rw [tokens_after]
  exact position_after_le tokens calls

theorem position_le_succ (tokens : List Token) (calls : Nat) :
    (after tokens calls).position ≤ (after tokens (calls + 1)).position := by
  exact position_le_next (after_inside tokens calls)

theorem position_mono (before : calls ≤ later) :
    (after tokens calls).position ≤ (after tokens later).position := by
  induction before with
  | refl => exact Nat.le_refl _
  | step _ ih => exact Nat.le_trans ih (position_le_succ tokens _)

theorem eq_of_position {one two : Parser} (same : one.tokens = two.tokens)
    (together : one.position = two.position) : one = two := by
  obtain ⟨tokens, position⟩ := one
  obtain ⟨tokens', position'⟩ := two
  obtain rfl : tokens = tokens' := same
  obtain rfl : position = position' := together
  rfl

/-- A cursor that is left alone once is left alone for ever. -/
theorem after_eq_of_rest (rests : (after tokens (calls + 1)).position = (after tokens calls).position)
    (before : calls ≤ later) : after tokens later = after tokens calls := by
  have fixed : after tokens (calls + 1) = after tokens calls :=
    eq_of_position (by rw [tokens_after, tokens_after]) rests
  induction before with
  | refl => rfl
  | step _ ih =>
    rw [after, ih]
    exact fixed

/-- Each call moves the cursor by a token, or one of them has left it alone. -/
theorem rests_or_moves (tokens : List Token) (calls : Nat) :
    (∃ earlier, earlier < calls ∧
      (after tokens (earlier + 1)).position = (after tokens earlier).position) ∨
    calls ≤ (after tokens calls).position := by
  induction calls with
  | zero => exact .inr (Nat.zero_le _)
  | succ calls ih =>
    rcases ih with ⟨earlier, before, rests⟩ | moved
    · exact .inl ⟨earlier, Nat.lt_succ_of_lt before, rests⟩
    · have forward := position_le_succ tokens calls
      by_cases rests : (after tokens (calls + 1)).position = (after tokens calls).position
      · exact .inl ⟨calls, Nat.lt_succ_self _, rests⟩
      · exact .inr (by omega)

/-- The cursor cannot move more often than there are tokens. -/
theorem exists_rest (tokens : List Token) :
    ∃ calls, calls ≤ tokens.length ∧
      (after tokens (calls + 1)).position = (after tokens calls).position := by
  have inside := position_after_le tokens (tokens.length + 1)
  rcases rests_or_moves tokens (tokens.length + 1) with ⟨calls, before, rests⟩ | moved
  · exact ⟨calls, Nat.le_of_lt_succ before, rests⟩
  · omega

/-- Behind a call that succeeds there is nothing left to read. -/
theorem answer_after_ok (read : (after tokens calls).answer = .ok tree) (behind : calls < later) :
    (after tokens later).answer = .ok ⟨.program, none, []⟩ := by
  have finished : (after tokens (calls + 1)).position = tokens.length := by
    rw [after, next_position_of_ok (after_inside tokens calls) read, tokens_after]
  have forward : (after tokens (calls + 1)).position ≤ (after tokens later).position :=
    position_mono behind
  have inside := position_after_le tokens later
  apply answer_at_end (after_inside tokens later)
  rw [tokens_after]
  omega

end Calls

/-- What the calls of one parser give. The cursor only moves on, within the tokens; each call answers
as a new parser does on what is left; behind a success there is nothing but the empty program; a
failure that leaves the cursor alone is repeated; and all calls behind the first that are as many as
the tokens give the same. -/
theorem answers_settle (tokens : List Token) :
    (∀ calls, (after tokens calls).position ≤ (after tokens (calls + 1)).position ∧
      (after tokens calls).position ≤ tokens.length) ∧
    (∀ calls, (after tokens calls).answer =
      SyntaxExplorer.parse (tokens.drop (after tokens calls).position)) ∧
    (∀ calls tree, (after tokens calls).answer = .ok tree →
      (after tokens (calls + 1)).position = tokens.length ∧
        ∀ later, calls < later → (after tokens later).answer = .ok ⟨.program, none, []⟩) ∧
    (∀ calls error, (after tokens calls).answer = .error error →
      (after tokens (calls + 1)).position = (after tokens calls).position →
        ∀ later, calls ≤ later → (after tokens later).answer = .error error) ∧
    ∀ later, tokens.length ≤ later →
      (after tokens later).answer = (after tokens tokens.length).answer := by
  refine ⟨?_, ?_, ?_, ?_, ?_⟩
  · intro calls
    exact ⟨position_le_succ tokens calls, position_after_le tokens calls⟩
  · intro calls
    rw [answer_eq_parse (after_inside tokens calls), left, tokens_after]
  · intro calls tree read
    refine ⟨?_, fun later behind => answer_after_ok read behind⟩
    rw [after, next_position_of_ok (after_inside tokens calls) read, tokens_after]
  · intro calls error failed rests later behind
    rw [after_eq_of_rest rests behind, failed]
  · intro later enough
    obtain ⟨calls, within, rests⟩ := exists_rest tokens
    rw [after_eq_of_rest rests within, after_eq_of_rest rests (Nat.le_trans within enough)]

/-- A declaration without a name: the call stops at the type. -/
def nameless : List Token :=
  [keyword "int", ⟨.number, "5"⟩, mark ";"].mapIdx fun index lexeme => ⟨lexeme, ⟨1, index + 1⟩⟩

/-- An assignment to a number: the call stops behind the value. -/
def misplaced : List Token :=
  [⟨.number, "1"⟩, operator "=", ⟨.number, "2"⟩, mark ";"].mapIdx
    fun index lexeme => ⟨lexeme, ⟨1, index + 1⟩⟩

/-- The second call reads what the first one left, or it never gets past the semicolon there. -/
theorem answers_settle_interrupted :
    (after nameless 0).answer =
        .error ⟨.expected .identifier .afterType (some ⟨.number, "5"⟩), ⟨1, 2⟩⟩ ∧
      (after nameless 1).answer = .ok ⟨.program, none, [.leaf .literal "5"]⟩ ∧
      (after nameless 2).position = 3 ∧
      (∀ later, 1 < later → (after nameless later).answer = .ok ⟨.program, none, []⟩) ∧
      (after misplaced 0).answer = .error ⟨.invalidAssignmentTarget, ⟨1, 2⟩⟩ ∧
      ∀ later, 1 ≤ later →
        (after misplaced later).answer = .error ⟨.expectedExpression (some (mark ";")), ⟨1, 4⟩⟩ := by
  have moved : after nameless 1 = ⟨nameless, 1⟩ := by decide +kernel
  have read : (after nameless 1).answer = .ok ⟨.program, none, [.leaf .literal "5"]⟩ := by
    rw [moved, answer_eq_parse (by decide)]
    rfl
  have halted : after misplaced 1 = ⟨misplaced, 3⟩ := by decide +kernel
  have stuck : (after misplaced 1).answer =
      .error ⟨.expectedExpression (some (mark ";")), ⟨1, 4⟩⟩ := by
    rw [halted, answer_eq_parse (by decide)]
    rfl
  have rests : (after misplaced 2).position = (after misplaced 1).position := by decide +kernel
  obtain ⟨-, -, succeeds, -⟩ := answers_settle nameless
  obtain ⟨finished, empty⟩ := succeeds 1 _ read
  obtain ⟨-, -, -, repeats, -⟩ := answers_settle misplaced
  exact ⟨rfl, read, finished, empty, rfl, repeats 1 _ stuck rests⟩

end Parser

end SyntaxExplorer
