import SyntaxExplorer.Proofs.Explorer.OpenComment

namespace SyntaxExplorer.Highlight

open Terminal

/-- The characters from one index up to another, if the text has them. -/
def slice? (text : List Char) (start stop : Nat) : Option (List Char) :=
  if start ≤ stop ∧ stop ≤ text.length then some ((text.drop start).take (stop - start)) else none

/-- The index at which the next closing mark begins, or that of the end if there is no mark. -/
def seek (text : List Char) (index : Nat) : Nat :=
  if inside : index < text.length then
    if text[index] = '*' ∧ text[index + 1]? = some '/' then index else seek text (index + 1)
  else index
termination_by text.length - index

/-- A character goes on with the word that has been read. Points go on with numbers. -/
def goesOn (word : List Char) (c : Char) : Bool :=
  isWordPart c || (c = '.' && word.head?.any Char.isDigit)

/-- Where a sweep is: the index, the word that is being read, whether a comment is open, and the pieces
that are finished. -/
structure Sweep where
  index : Nat
  word : List Char
  inComment : Bool
  pieces : List Span

/-- What a round of the sweep comes to: another round, the end of the sweep, or a failure, as characters
were asked for which the text does not have. -/
inductive Turn
  | again (sweep : Sweep)
  | stop (sweep : Sweep)
  | beyond

namespace Sweep

def push (sweep : Sweep) (text : List Char) (style : Style) : Sweep :=
  { sweep with pieces := sweep.pieces ++ [piece text style] }

/-- Finishes the word, if one is being read. -/
def flush (sweep : Sweep) : Sweep :=
  if sweep.word = [] then sweep
  else { sweep.push sweep.word (wordStyle sweep.word) with word := [] }

/-- A round inside a comment takes all up to the closing mark, and the mark. -/
def commentRound (text : List Char) (sweep : Sweep) : Turn :=
  let mark := seek text sweep.index
  let closed := decide (mark < text.length)
  let stop := if closed then mark + 2 else mark
  match slice? text sweep.index stop with
  | none => .beyond
  | some inside =>
    .again { sweep.push inside commentStyle with index := stop, inComment := !closed }

/-- A round at a character that belongs to no word. -/
def signRound (text : List Char) (c : Char) (sweep : Sweep) : Turn :=
  if c = '/' ∧ text[sweep.index + 1]? = some '/' then
    match slice? text sweep.index text.length with
    | none => .beyond
    | some rest => .stop (sweep.push rest commentStyle)
  else if c = '/' ∧ text[sweep.index + 1]? = some '*' then
    .again { sweep.push ['/', '*'] commentStyle with index := sweep.index + 2, inComment := true }
  else .again { sweep.push [c] (signStyle c) with index := sweep.index + 1 }

def round (text : List Char) (sweep : Sweep) : Turn :=
  if sweep.inComment then sweep.commentRound text
  else match text[sweep.index]? with
    | none => .beyond
    | some c =>
      if goesOn sweep.word c then
        .again { sweep with index := sweep.index + 1, word := sweep.word ++ [c] }
      else sweep.flush.signRound text c

end Sweep

variable {text done chunk inside more rest word : List Char} {c : Char} {start : Bool}
  {sweep : Sweep}

theorem le_seek (text : List Char) (index : Nat) : index ≤ seek text index := by
  fun_induction seek text index with
  | case1 => exact Nat.le_refl _
  | case2 index _ _ ih => exact Nat.le_of_succ_le ih
  | case3 => exact Nat.le_refl _

namespace Sweep

theorem flush_of_nil (none : sweep.word = []) : sweep.flush = sweep :=
  if_pos none

@[simp]
theorem flush_index (sweep : Sweep) : sweep.flush.index = sweep.index := by
  rw [flush]
  split <;> rfl

@[simp]
theorem flush_inComment (sweep : Sweep) : sweep.flush.inComment = sweep.inComment := by
  rw [flush]
  split <;> rfl

@[simp]
theorem flush_word (sweep : Sweep) : sweep.flush.word = [] := by
  rw [flush]
  split
  · assumption
  · rfl

theorem index_lt_of_commentRound {next : Sweep} (within : sweep.index < text.length)
    (turn : sweep.commentRound text = .again next) : sweep.index < next.index := by
  have forward := le_seek text sweep.index
  rw [commentRound] at turn
  split at turn
  · cases turn
  · obtain rfl := Turn.again.inj turn
    by_cases closed : seek text sweep.index < text.length
    · simp only [closed, decide_true, if_true]
      omega
    · simp only [closed, decide_false, Bool.false_eq_true, if_false]
      omega

theorem index_lt_of_signRound {next : Sweep} (turn : sweep.signRound text c = .again next) :
    sweep.index < next.index := by
  rw [signRound] at turn
  split at turn
  · split at turn <;> cases turn
  split at turn
  all_goals
    obtain rfl := Turn.again.inj turn
    exact Nat.lt_add_of_pos_right (by decide)

/-- A round that is followed by another moves the index on. -/
theorem index_lt_of_round {next : Sweep} (within : sweep.index < text.length)
    (turn : sweep.round text = .again next) : sweep.index < next.index := by
  rw [round] at turn
  split at turn
  · exact index_lt_of_commentRound within turn
  split at turn
  · cases turn
  split at turn
  · obtain rfl := Turn.again.inj turn
    exact Nat.lt_succ_self _
  · rw [← flush_index]
    exact index_lt_of_signRound turn

/-- Goes round until the index is at the end, or a round stops the sweep or fails. There is an end, as
each round that is followed by another moves the index on. -/
def rounds (text : List Char) (sweep : Sweep) : Option Sweep :=
  if within : sweep.index < text.length then
    match turn : sweep.round text with
    | .again next =>
      have := index_lt_of_round within turn
      rounds text next
    | .stop last => some last
    | .beyond => none
  else some sweep
termination_by text.length - sweep.index

/-- The pieces, with the word that is still being read, and whether a comment is open. -/
def result (sweep : Sweep) : List Span × Bool :=
  (sweep.flush.pieces, sweep.inComment)

end Sweep

/-- The coloured pieces of a line and whether a comment is open at its end, found in one sweep. -/
def sweepLine (inComment : Bool) (text : List Char) : Option (List Span × Bool) :=
  ((Sweep.mk 0 [] inComment []).rounds text).map Sweep.result

theorem slice?_append (done chunk rest : List Char) :
    slice? (done ++ (chunk ++ rest)) done.length (done.length + chunk.length) = some chunk := by
  rw [slice?, if_pos (by simp only [List.length_append]; omega), List.drop_left,
    Nat.add_sub_cancel_left, List.take_left]

theorem slice?_rest (done rest : List Char) :
    slice? (done ++ rest) done.length (done ++ rest).length = some rest := by
  have whole := slice?_append done rest []
  rwa [List.append_nil, ← List.length_append] at whole

theorem getElem?_append_length (done rest : List Char) :
    (done ++ rest)[done.length]? = rest.head? := by
  rw [List.getElem?_append_right (Nat.le_refl _), Nat.sub_self, List.head?_eq_getElem?]

theorem getElem?_append_succ (done rest : List Char) (c : Char) :
    (done ++ c :: rest)[done.length + 1]? = rest.head? := by
  have next := getElem?_append_length (done ++ [c]) rest
  rwa [List.length_append, List.length_singleton, ← List.append_cons] at next

theorem seek_append_cons (done rest : List Char) (c : Char) :
    seek (done ++ c :: rest) done.length =
      if c = '*' ∧ rest.head? = some '/' then done.length
      else seek (done ++ [c] ++ rest) (done ++ [c]).length := by
  have within : done.length < (done ++ c :: rest).length := by
    simp only [List.length_append, List.length_cons]
    omega
  rw [seek, dif_pos within, getElem?_append_succ, List.append_assoc, List.length_append,
    List.getElem_append_right (Nat.le_refl _)]
  simp

/-- The mark that is sought is the one that closes the comment. -/
theorem seek_of_closed (closed : Cut.closeComment rest = some (inside, more)) :
    seek (done ++ rest) done.length + 2 = done.length + inside.length := by
  induction rest generalizing done inside with
  | nil => cases closed
  | cons c rest ih =>
    rw [Cut.closeComment] at closed
    rw [seek_append_cons]
    by_cases mark : c = '*' ∧ rest.head? = some '/'
    · rw [if_pos mark] at closed ⊢
      obtain ⟨rfl, -⟩ := Prod.mk.inj (Option.some.inj closed)
      rfl
    · rw [if_neg mark] at closed ⊢
      obtain ⟨⟨before, after⟩, later, pair⟩ := Option.map_eq_some_iff.mp closed
      obtain ⟨rfl, rfl⟩ := Prod.mk.inj pair
      rw [ih later]
      simp only [List.length_append, List.length_cons, List.length_nil]
      omega

theorem seek_of_unclosed (unclosed : Cut.closeComment rest = none) :
    seek (done ++ rest) done.length = (done ++ rest).length := by
  induction rest generalizing done with
  | nil => rw [List.append_nil, seek, dif_neg (Nat.lt_irrefl _)]
  | cons c rest ih =>
    rw [Cut.closeComment] at unclosed
    rw [seek_append_cons]
    by_cases mark : c = '*' ∧ rest.head? = some '/'
    · rw [if_pos mark] at unclosed
      cases unclosed
    · rw [if_neg mark] at unclosed ⊢
      rw [ih (Option.map_eq_none_iff.mp unclosed), List.append_assoc]
      rfl

/-- The characters make up a word, or the beginning of one. -/
def IsBegun : List Char → Prop
  | [] => True
  | c :: more => isWordPart c = true ∧ ∀ d ∈ more, continues c d = true

theorem IsBegun.concat (begun : IsBegun word) (goes : goesOn word c = true) :
    IsBegun (word ++ [c]) := by
  cases word with
  | nil => exact ⟨by simpa [goesOn] using goes, by simp⟩
  | cons d more =>
    refine ⟨begun.1, ?_⟩
    intro e member
    rcases List.mem_append.mp member with member | member
    · exact begun.2 e member
    · obtain rfl := List.mem_singleton.mp member
      exact goes

namespace Sweep

/-- The sweep stands behind some of the line and before the rest. Its pieces, and the colours of the
word that it is reading together with the rest, are those of the line. -/
structure At (start : Bool) (done rest : List Char) (sweep : Sweep) : Prop where
  index : sweep.index = done.length
  begun : IsBegun sweep.word
  outside : sweep.inComment = true → sweep.word = []
  same : line start (done ++ rest) =
    follow sweep.pieces (line sweep.inComment (sweep.word ++ rest))

/-- What may come of a round at a place in the line, which is no failure. -/
inductive Comes (start : Bool) (done rest : List Char) : Turn → Prop
  | again {more next} (chunk : List Char) (split : rest = chunk ++ more)
      (moved : next.At start (done ++ chunk) more) : Comes start done rest (.again next)
  | stop {last} (ends : last.result = line start (done ++ rest)) : Comes start done rest (.stop last)

theorem At.flush (stands : sweep.At start done rest)
    (stops : ∀ c ∈ rest.head?, goesOn sweep.word c = false) : sweep.flush.At start done rest := by
  cases read : sweep.word with
  | nil => rwa [flush_of_nil read]
  | cons d more =>
    -- Words are read outside of comments only.
    have outside : sweep.inComment = false := by
      cases still : sweep.inComment with
      | false => rfl
      | true =>
        have none := stands.outside still
        rw [read] at none
        cases none
    obtain ⟨part, goes⟩ : IsBegun (d :: more) := read ▸ stands.begun
    rw [read] at stops
    refine ⟨by rw [flush_index, stands.index], by simp [IsBegun], fun _ => flush_word sweep, ?_⟩
    rw [stands.same, read, outside, line_word part goes stops, ← follow_append, flush_inComment,
      outside, flush_word, Sweep.flush, if_neg (by simp [read]), List.nil_append, push, read]

/-- Nothing is left of the word and of the line: the pieces are all. -/
theorem At.result_eq (stands : sweep.At start done []) : sweep.result = line start done := by
  have flushed := (stands.flush (by simp)).same
  rw [List.append_nil, flush_word, List.nil_append, line_nil, follow, List.append_nil,
    flush_inComment] at flushed
  exact flushed.symm

/-- Characters that make up a piece are passed over, and no word is begun. -/
theorem At.of_push {later : Bool} {style : Style} (chunk : List Char) (none : sweep.word = [])
    (coloured : line start (done ++ (chunk ++ more)) =
      follow (sweep.pieces ++ [piece chunk style]) (line later more)) :
    At start (done ++ chunk) more
      { sweep.push chunk style with index := done.length + chunk.length, inComment := later } where
  index := List.length_append.symm
  begun := by simp [push, none, IsBegun]
  outside _ := none
  same := by
    rw [List.append_assoc, coloured]
    simp [push, none]

theorem At.commentRound (stands : sweep.At start done (c :: rest))
    (inComment : sweep.inComment = true) :
    Comes start done (c :: rest) (sweep.commentRound (done ++ c :: rest)) := by
  have none := stands.outside inComment
  have same := stands.same
  rw [inComment, none, List.nil_append] at same
  rw [Sweep.commentRound, stands.index]
  cases closing : Cut.closeComment (c :: rest) with
  | none =>
    -- The search ends at the line's end, and so does the piece.
    rw [line_unclosed closing] at same
    simp only [seek_of_unclosed closing, Nat.lt_irrefl, decide_false, Bool.false_eq_true, if_false,
      slice?_rest]
    refine .again (c :: rest) (List.append_nil _).symm ?_
    rw [List.length_append]
    refine .of_push (c :: rest) none ?_
    rw [List.append_nil, same, Bool.not_false, line_nil]
    simp [follow]
  | some pair =>
    -- The piece ends with the mark, whose second character is still in the line.
    obtain ⟨inside, more⟩ := pair
    have whole : c :: rest = inside ++ more := (Cut.closeComment_append closing).symm
    have stop : seek (done ++ c :: rest) done.length + 2 = done.length + inside.length :=
      seek_of_closed closing
    have within : seek (done ++ c :: rest) done.length < (done ++ c :: rest).length := by
      rw [whole] at stop ⊢
      simp only [List.length_append]
      omega
    have cut : slice? (done ++ c :: rest) done.length (done.length + inside.length) = some inside := by
      rw [whole]
      exact slice?_append done inside more
    rw [line_closed closing, ← follow_append, whole] at same
    simp only [within, decide_true, if_true, stop, cut]
    exact .again inside whole (.of_push inside none same)

theorem At.signRound (stands : sweep.At start done (c :: rest)) (outside : sweep.inComment = false)
    (none : sweep.word = []) (noPart : isWordPart c = false) :
    Comes start done (c :: rest) (sweep.signRound (done ++ c :: rest) c) := by
  have same := stands.same
  rw [outside, none, List.nil_append] at same
  rw [Sweep.signRound, stands.index, getElem?_append_succ]
  by_cases lineComment : c = '/' ∧ rest.head? = some '/'
  · rw [if_pos lineComment, slice?_rest]
    obtain ⟨rfl, slash⟩ := lineComment
    obtain ⟨rest, rfl⟩ := List.head?_eq_some_iff.mp slash
    refine .stop ?_
    have last : (sweep.push ('/' :: '/' :: rest) commentStyle).flush =
        sweep.push ('/' :: '/' :: rest) commentStyle := flush_of_nil none
    rw [same, line_lineComment, result, last, push, outside]
    rfl
  rw [if_neg lineComment]
  by_cases opening : c = '/' ∧ rest.head? = some '*'
  · rw [if_pos opening]
    obtain ⟨rfl, star⟩ := opening
    obtain ⟨rest, rfl⟩ := List.head?_eq_some_iff.mp star
    rw [line_opening, ← follow_append] at same
    exact .again ['/', '*'] rfl (.of_push ['/', '*'] none same)
  · have alone : c = '/' → rest.head? ≠ some '/' ∧ rest.head? ≠ some '*' :=
      fun slash => ⟨fun next => lineComment ⟨slash, next⟩, fun next => opening ⟨slash, next⟩⟩
    rw [if_neg opening]
    rw [line_sign noPart alone, ← follow_append, ← outside] at same
    exact .again [c] rfl (.of_push [c] none same)

/-- No round fails, and each one takes some of the line or ends with its colours. -/
theorem At.round (stands : sweep.At start done (c :: rest)) :
    Comes start done (c :: rest) (sweep.round (done ++ c :: rest)) := by
  cases inComment : sweep.inComment with
  | true =>
    rw [Sweep.round, if_pos inComment]
    exact stands.commentRound inComment
  | false =>
    have outside : ¬ sweep.inComment = true := by simp [inComment]
    have here : (done ++ c :: rest)[sweep.index]? = some c := by
      rw [stands.index, getElem?_append_length, List.head?_cons]
    simp only [Sweep.round, if_neg outside, here]
    cases goes : goesOn sweep.word c with
    | true =>
      rw [if_pos rfl]
      refine .again [c] rfl
        ⟨by simp [stands.index], stands.begun.concat goes, fun still => absurd still outside, ?_⟩
      rw [List.append_assoc, List.append_assoc]
      exact stands.same
    | false =>
      have noPart : isWordPart c = false := (Bool.or_eq_false_iff.mp goes).1
      have flushed := stands.flush (by simpa using goes)
      rw [if_neg (by decide)]
      exact flushed.signRound (by simpa using inComment) (flush_word sweep) noPart

theorem At.comes (stands : sweep.At start done rest) (whole : text = done ++ rest)
    (within : sweep.index < text.length) : Comes start done rest (sweep.round text) := by
  cases rest with
  | nil =>
    rw [whole, stands.index, List.append_nil] at within
    exact absurd within (Nat.lt_irrefl _)
  | cons c rest =>
    rw [whole]
    exact stands.round

/-- All rounds together give the colours of the line, from wherever in it they set out. -/
theorem At.rounds (stands : sweep.At start done rest) (whole : text = done ++ rest) :
    ∃ last, sweep.rounds text = some last ∧ last.result = line start text := by
  -- The induction is on the rounds; what has been passed over grows with each of them.
  fun_induction Sweep.rounds text sweep generalizing done rest with
  | case1 sweep within next turn forward ih =>
    have comes := stands.comes whole within
    rw [turn] at comes
    cases comes with
    | again chunk split moved => exact ih moved (by rw [whole, split, List.append_assoc])
  | case2 sweep within last turn =>
    have comes := stands.comes whole within
    rw [turn] at comes
    cases comes with
    | stop ends => exact ⟨last, rfl, whole ▸ ends⟩
  | case3 sweep within turn =>
    have comes := stands.comes whole within
    rw [turn] at comes
    cases comes
  | case4 sweep ended =>
    have none : rest = [] := by
      rw [whole, stands.index, List.length_append] at ended
      exact List.length_eq_zero_iff.mp (by omega)
    subst none
    rw [List.append_nil] at whole
    exact ⟨sweep, rfl, whole ▸ stands.result_eq⟩

end Sweep

/-- Nothing is asked for that the line does not have, and the sweep finds the colours of the line. -/
theorem sweepLine_eq (inComment : Bool) (text : List Char) :
    sweepLine inComment text = some (line inComment text) := by
  have stands : (Sweep.mk 0 [] inComment []).At inComment [] text :=
    ⟨rfl, trivial, fun _ => rfl, by simp [follow]⟩
  obtain ⟨last, swept, result⟩ := stands.rounds (List.nil_append text).symm
  rw [sweepLine, swept, Option.map_some, result]

/-- A line is coloured in one sweep that ends and never asks for characters beyond the line's end,
whatever its characters are and whether a comment is open before it or not. The texts of the pieces make
up the line, and a comment is open behind it exactly if it ends inside one. -/
theorem sweepLine_covers (inComment : Bool) (text : List Char) :
    sweepLine inComment text = some (line inComment text) ∧
      (line inComment text).1.flatMap (·.text.toList) = text ∧
      ((line inComment text).2 = true ↔ EndsInside inComment text) :=
  ⟨sweepLine_eq inComment text, flatMap_text_line inComment text, line_snd_iff inComment text⟩

end SyntaxExplorer.Highlight
