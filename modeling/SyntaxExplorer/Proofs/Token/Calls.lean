import SyntaxExplorer.Proofs.Token.Failure

namespace SyntaxExplorer

namespace Scanner

/-- What a call gives. -/
def answer (scanner : Scanner) : Except LexError (List Token) :=
  scanner.tokens.1

/-- The scanner as a call leaves it. -/
def next (scanner : Scanner) : Scanner :=
  scanner.tokens.2

/-- The scanner of a source after so many calls. -/
def after (source : String) : Nat → Scanner
  | 0 => ofString source
  | calls + 1 => (after source calls).next

/-- All that a call can come to: the end of the text, after its tokens or within a comment, or a character
that begins no lexeme. -/
inductive ComesTo : Scanner → Except LexError (List Token) → Scanner → Prop
  | finished {text place tokens} : ComesTo ⟨text, place⟩ (.ok tokens) ⟨[], place.after text⟩
  | unclosed {text place opening} :
      ComesTo ⟨text, place⟩ (.error ⟨.unclosedComment, opening⟩) ⟨[], place.after text⟩
  | unexpected {front c rest place} (solid : isBlank c = false)
      (unknown : Cut.first c rest = .error (.unexpectedCharacter c)) :
      ComesTo ⟨front ++ c :: rest, place⟩ (.error ⟨.unexpectedCharacter c, place.after front⟩)
        ⟨c :: rest, place.after front⟩

variable {c : Char} {text : List Char} {place : Location} {source : String} {calls later : Nat}

section OneCall

theorem next_nil (place : Location) : next ⟨[], place⟩ = ⟨[], place⟩ := by
  rw [next, tokens]

theorem next_blank (blank : isBlank c = true) (place : Location) :
    next ⟨c :: text, place⟩ = next ⟨text, place.next c⟩ := by
  rw [next, tokens_blank blank, next]

theorem next_lexeme {cut : Cut} (solid : isBlank c = false) (found : Cut.first c text = .ok cut)
    (place : Location) :
    next ⟨c :: text, place⟩ = next ⟨cut.rest, place.after (c :: cut.more)⟩ := by
  rw [next, tokens, if_neg (by simp [solid])]
  split
  · simp_all
  · simp_all
  · rename_i other same
    rw [found] at same
    obtain rfl := Except.ok.inj same
    rfl

theorem next_unclosed (solid : isBlank c = false)
    (found : Cut.first c text = .error .unclosedComment) (place : Location) :
    next ⟨c :: text, place⟩ = ⟨[], place.after (c :: text)⟩ := by
  rw [next, tokens, if_neg (by simp [solid])]
  split <;> simp_all

theorem next_unexpected {d : Char} (solid : isBlank c = false)
    (found : Cut.first c text = .error (.unexpectedCharacter d)) (place : Location) :
    next ⟨c :: text, place⟩ = ⟨c :: text, place⟩ := by
  rw [next, tokens, if_neg (by simp [solid])]
  split <;> simp_all

/-- What stands before a scanner and is passed over makes no difference to where it comes to. -/
theorem ComesTo.behind {outcome : Except LexError (List Token)} {last : Scanner} (piece : List Char)
    (comes : ComesTo ⟨text, place.after piece⟩ outcome last) (taken : List Token → List Token) :
    ComesTo ⟨piece ++ text, place⟩ (outcome.map taken) last := by
  cases comes with
  | finished =>
    rw [← Location.after_append]
    exact .finished
  | unclosed =>
    rw [← Location.after_append]
    exact .unclosed
  | @unexpected front c rest _ solid unknown =>
    rw [← Location.after_append, ← List.append_assoc]
    exact .unexpected solid unknown

theorem comesTo (text : List Char) (place : Location) :
    ComesTo ⟨text, place⟩ (answer ⟨text, place⟩) (next ⟨text, place⟩) := by
  -- On what is left of the text, as the scanner goes on: the end, a blank, or a lexeme.
  cases text with
  | nil =>
    rw [answer, tokens_nil, next_nil]
    exact .finished
  | cons c text =>
    by_cases blank : isBlank c = true
    · have same : answer ⟨c :: text, place⟩ = (answer ⟨text, place.next c⟩).map id := by
        rw [answer, tokens_blank blank, answer]
        cases (Scanner.tokens ⟨text, place.next c⟩).1 <;> rfl
      rw [same, next_blank blank]
      exact (comesTo text (place.next c)).behind [c] id
    · have solid : isBlank c = false := by simpa using blank
      cases found : Cut.first c text with
      | ok cut =>
        have shorter := Cut.rest_length_le found
        have whole : c :: text = c :: cut.more ++ cut.rest :=
          congrArg (c :: ·) (Cut.first_append found).symm
        rw [answer, tokens_lexeme solid found, next_lexeme solid found, whole]
        exact (comesTo cut.rest (place.after (c :: cut.more))).behind _ _
      | error cause =>
        rw [answer, tokens_error solid found]
        rcases Cut.first_error_cases found with ⟨rfl, -⟩ | ⟨rfl, -⟩
        · rw [next_unclosed solid found]
          exact .unclosed
        · rw [next_unexpected solid found]
          exact @ComesTo.unexpected [] c text place solid found
termination_by text.length

/-- A scanner that has tokens comes to the end of its text. -/
theorem next_of_ok {tokens : List Token} (scanned : answer ⟨text, place⟩ = .ok tokens) :
    next ⟨text, place⟩ = ⟨[], place.after text⟩ := by
  have comes := comesTo text place
  rw [scanned] at comes
  generalize next ⟨text, place⟩ = last at comes ⊢
  cases comes
  rfl

/-- An open comment takes all that is left. -/
theorem next_of_unclosed {opening : Location}
    (failed : answer ⟨text, place⟩ = .error ⟨.unclosedComment, opening⟩) :
    next ⟨text, place⟩ = ⟨[], place.after text⟩ := by
  have comes := comesTo text place
  rw [failed] at comes
  generalize next ⟨text, place⟩ = last at comes ⊢
  cases comes
  rfl

/-- Where a character is at fault, the next call finds it again. -/
theorem next_of_unexpected {blamed : Location}
    (failed : answer ⟨text, place⟩ = .error ⟨.unexpectedCharacter c, blamed⟩) :
    (next ⟨text, place⟩).answer = .error ⟨.unexpectedCharacter c, blamed⟩ ∧
      (next ⟨text, place⟩).next = next ⟨text, place⟩ := by
  have comes := comesTo text place
  rw [failed] at comes
  generalize next ⟨text, place⟩ = last at comes ⊢
  cases comes with
  | unexpected solid unknown =>
    exact ⟨tokens_error solid unknown _, next_unexpected solid unknown _⟩

end OneCall

section Calls

/-- A scanner that is left alone once is left alone for ever. -/
theorem after_eq_of_rest (rests : (after source calls).next = after source calls)
    (behind : calls ≤ later) : after source later = after source calls := by
  induction behind with
  | refl => rfl
  | step _ ih => rw [after, ih, rests]

/-- At the end of the text there is nothing to take, and the scanner stays there. -/
theorem answer_of_finished (finished : (after source calls).rest = []) (behind : calls ≤ later) :
    (after source later).answer = .ok [] := by
  generalize here : after source calls = scanner at finished
  obtain ⟨text, place⟩ := scanner
  obtain rfl : text = [] := finished
  have rests : (after source calls).next = after source calls := by rw [here, next_nil]
  rw [after_eq_of_rest rests behind, here]
  exact tokens_nil place

end Calls

/-- What the calls of one scanner give. Behind tokens, and behind a comment that is not closed, every call
finds nothing more; a character that begins no lexeme is at fault in every call, and at the same place. -/
theorem answers_repeat (source : String) :
    (∀ tokens, (after source 0).answer = .ok tokens →
      ∀ later, 0 < later → (after source later).answer = .ok []) ∧
    (∀ place, (after source 0).answer = .error ⟨.unclosedComment, place⟩ →
      ∀ later, 0 < later → (after source later).answer = .ok []) ∧
    (∀ c place, (after source 0).answer = .error ⟨.unexpectedCharacter c, place⟩ →
      ∀ later, (after source later).answer = .error ⟨.unexpectedCharacter c, place⟩) := by
  refine ⟨?_, ?_, ?_⟩
  · intro tokens scanned later behind
    have finished : (after source 1).rest = [] := congrArg Scanner.rest (next_of_ok scanned)
    exact answer_of_finished finished behind
  · intro place failed later behind
    have finished : (after source 1).rest = [] := congrArg Scanner.rest (next_of_unclosed failed)
    exact answer_of_finished finished behind
  · intro c place failed later
    obtain ⟨again, rests⟩ : (after source 1).answer = .error ⟨.unexpectedCharacter c, place⟩ ∧
        (after source 1).next = after source 1 := next_of_unexpected failed
    cases later with
    | zero => exact failed
    | succ later =>
      rw [after_eq_of_rest rests (Nat.le_add_left 1 later)]
      exact again

/-- The first call stops at a character on the second line, or within the comment there. -/
theorem answers_repeat_secondLine :
    (after "1\n @" 0).answer = .error ⟨.unexpectedCharacter '@', ⟨2, 2⟩⟩ ∧
      (∀ later, (after "1\n @" later).answer = .error ⟨.unexpectedCharacter '@', ⟨2, 2⟩⟩) ∧
      (after "1\n/*" 0).answer = .error ⟨.unclosedComment, ⟨2, 1⟩⟩ ∧
      ∀ later, 0 < later → (after "1\n/*" later).answer = .ok [] := by
  have digit (more : List Char) : Cut.first '1' ('\n' :: more) = .ok ⟨.number, [], '\n' :: more⟩ := rfl
  have character : (after "1\n @" 0).answer = .error ⟨.unexpectedCharacter '@', ⟨2, 2⟩⟩ := by
    have text : "1\n @".toList = ['1', '\n', ' ', '@'] := rfl
    have unknown : Cut.first '@' [] = .error (.unexpectedCharacter '@') := rfl
    rw [after, answer, ofString, text, tokens_lexeme rfl (digit _), tokens_blank rfl, tokens_blank rfl,
      tokens_error rfl unknown]
    rfl
  have comment : (after "1\n/*" 0).answer = .error ⟨.unclosedComment, ⟨2, 1⟩⟩ := by
    have text : "1\n/*".toList = ['1', '\n', '/', '*'] := rfl
    have unclosed : Cut.first '/' ['*'] = .error .unclosedComment := rfl
    rw [after, answer, ofString, text, tokens_lexeme rfl (digit _), tokens_blank rfl,
      tokens_error rfl unclosed]
    rfl
  exact ⟨character, (answers_repeat "1\n @").2.2 _ _ character, comment,
    (answers_repeat "1\n/*").2.1 _ comment⟩

end Scanner

end SyntaxExplorer
