import SyntaxExplorer.Explorer.State
import SyntaxExplorer.Proofs.Grammar.ParserSimulation
import SyntaxExplorer.Proofs.Token.Failure

namespace SyntaxExplorer

namespace Source

/-- A text has as many lines as the text behind its first character, and one more where that
character ends a line. -/
theorem length_endedLines_cons_le (c : Char) (text : List Char) :
    (if c = '\n' then 1 else 0) + (endedLines (pieces text)).length ≤
      (endedLines (pieces (c :: text))).length := by
  obtain ⟨line, others, split⟩ := List.exists_cons_of_ne_nil (pieces_ne_nil text)
  rw [pieces, split]
  by_cases feed : c = '\n'
  · rw [if_pos feed, if_pos feed]
    exact Nat.le_of_eq (Nat.add_comm _ _)
  · rw [if_neg feed, if_neg feed, Nat.zero_add]
    cases others with
    | nil =>
      rw [endedLines, endedLines, if_neg (List.cons_ne_nil c line)]
      split <;> simp
    | cons second others => exact Nat.le_refl _

theorem length_endedLines_pos (c : Char) (text : List Char) :
    0 < (endedLines (pieces (c :: text))).length := by
  obtain ⟨line, others, split⟩ := List.exists_cons_of_ne_nil (pieces_ne_nil text)
  rw [pieces, split]
  split
  · exact Nat.zero_lt_succ _
  · cases others with
    | nil =>
      rw [endedLines, if_neg (List.cons_ne_nil c line)]
      exact Nat.zero_lt_one
    | cons second others => exact Nat.zero_lt_succ _

/-- The line is one of the text's, counted from one. -/
def HasLine (source : String) (line : Nat) : Prop :=
  1 ≤ line ∧ line ≤ (lines source).length

/-- A place at which there is a character lies on one of the lines. -/
theorem hasLine_behind {source : String} {front rest : List Char} {c : Char}
    (whole : source.toList = front ++ c :: rest) : HasLine source (Location.behind front).line := by
  have counted (front : List Char) :
      1 + front.count '\n' ≤ (endedLines (pieces (front ++ c :: rest))).length := by
    induction front with
    | nil => exact length_endedLines_pos c rest
    | cons d front ih =>
      have more := length_endedLines_cons_le d (front ++ c :: rest)
      rw [List.count_cons]
      simp only [List.cons_append, beq_iff_eq] at more ⊢
      omega
  rw [HasLine, lines, whole]
  exact ⟨Nat.le_add_right _ _, counted front⟩

end Source

/-- A token stands on a character of the text. -/
theorem IsLayout.exists_behind {before text : List Char} {tokens : List Token} {token : Token}
    (layout : IsLayout before text tokens) (member : token ∈ tokens) :
    ∃ front c rest, text = front ++ c :: rest ∧ token.location = .behind (before ++ front) := by
  induction layout with
  | finish => cases member
  | @token before gap kind word rest tokens _ lexeme _ ih =>
    rcases List.mem_cons.mp member with rfl | member
    · obtain ⟨c, more, rfl, -⟩ := lexeme.shape.begins
      exact ⟨gap, c, more ++ rest, by simp, rfl⟩
    · obtain ⟨front, c, others, rfl, place⟩ := ih member
      exact ⟨gap ++ word ++ front, c, others, by simp, by simp [place]⟩

namespace Source

variable {source : String} {tokens : List Token}

theorem hasLine_token {token : Token} (scanned : tokenize source = .ok tokens)
    (member : token ∈ tokens) : HasLine source token.location.line := by
  have layout := (Scanner.tokens_eq_ok_iff [] source.toList tokens).mp scanned
  obtain ⟨front, c, rest, whole, place⟩ := layout.exists_behind member
  rw [place]
  exact hasLine_behind whole

theorem hasLine_lexError {error : LexError} (failed : tokenize source = .error error) :
    HasLine source error.location.line := by
  obtain ⟨front, c, rest, -, whole, -, -, blamed, -⟩ :=
    Scanner.exists_takesBefore source.toList .start failed
  rw [blamed, Location.after_start]
  exact hasLine_behind whole

end Source

namespace Inspection

variable {source : String}

/-- Whichever stage fails, it blames a place on one of the lines. -/
theorem hasLine_error {error : CompileError} (failed : (ofSource source).error? = some error) :
    Source.HasLine source error.location.line := by
  rcases ofSource_cases source with ⟨lexical, scanned, inspection⟩ |
    ⟨tokens, grammatical, scanned, parsed, inspection⟩ | ⟨tokens, tree, -, -, inspection⟩
  · rw [inspection] at failed
    obtain rfl := Option.some.inj failed
    exact Source.hasLine_lexError scanned
  · rw [inspection] at failed
    obtain rfl := Option.some.inj failed
    obtain ⟨token, member, place⟩ := Parsing.exists_token_of_parse_error parsed
    rw [CompileError.location, place]
    exact Source.hasLine_token scanned member
  · rw [inspection] at failed
    cases failed

/-- The tokens that are kept stand on lines of the text. -/
theorem hasLine_token {token : Token} (member : token ∈ (ofSource source).tokens) :
    Source.HasLine source token.location.line := by
  rcases ofSource_cases source with ⟨lexical, -, inspection⟩ |
    ⟨tokens, grammatical, scanned, -, inspection⟩ | ⟨tokens, tree, scanned, -, inspection⟩
  · rw [inspection] at member
    cases member
  · rw [inspection] at member
    exact Source.hasLine_token scanned member
  · rw [inspection] at member
    exact Source.hasLine_token scanned member

end Inspection

end SyntaxExplorer
