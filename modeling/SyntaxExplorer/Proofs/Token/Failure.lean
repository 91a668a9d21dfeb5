import SyntaxExplorer.Proofs.Token.Covering

namespace SyntaxExplorer

variable {c d : Char} {text front : List Char} {place : Location} {tokens : List Token}
  {error : LexError}

/-- The classes of characters that lexemes begin with. -/
theorem HasShape.starts {kind : TokenKind} {more : List Char} (shape : HasShape kind (c :: more)) :
    isWordStart c = true ∨ c.isDigit = true ∨ c ∈ operatorSigns ∨ c ∈ punctuationMarks := by
  generalize whole : c :: more = text at shape
  cases shape with
  | keyword reserved =>
    subst whole
    exact Or.inl (keyword_isWord reserved).1
  | identifier start => exact Or.inl ((List.cons.inj whole).1 ▸ start)
  | number start => exact Or.inr (Or.inl ((List.cons.inj whole).1 ▸ start))
  | sign known => exact Or.inr (Or.inr (Or.inl ((List.cons.inj whole).1 ▸ known)))
  | pair known =>
    exact Or.inr (Or.inr (Or.inl ((List.cons.inj whole).1 ▸ (sign_of_pair known).1)))
  | punctuation known => exact Or.inr (Or.inr (Or.inr ((List.cons.inj whole).1 ▸ known)))
  | lineComment | blockComment =>
    obtain ⟨rfl, -⟩ := List.cons.inj whole
    exact Or.inr (Or.inr (Or.inl (by decide)))

namespace Cut

/-- A comment stays open exactly if no closing mark is left. -/
theorem closeComment_eq_none_iff : closeComment text = none ↔ ¬ ['*', '/'] <:+: text := by
  induction text with
  | nil => simp [closeComment]
  | cons c text ih =>
    have mark : ['*', '/'] <+: c :: text ↔ c = '*' ∧ text.head? = some '/' := by
      cases text <;> simp [List.cons_prefix_cons, eq_comm]
    rw [closeComment, List.infix_cons_iff, mark]
    by_cases here : c = '*' ∧ text.head? = some '/'
    · simp [here]
    · simp [here, ih]

/-- What no lexeme can be cut from begins a comment without an end, or with a character of no class. -/
theorem first_error_cases {cause : LexError.Cause} (failed : first c text = .error cause) :
    (cause = .unclosedComment ∧ c = '/' ∧
        ∃ inside, text = '*' :: inside ∧ closeComment inside = none) ∨
      (cause = .unexpectedCharacter c ∧ isWordStart c = false ∧ c.isDigit = false ∧
        c ∉ operatorSigns ∧ c ∉ punctuationMarks) := by
  rw [first] at failed
  split at failed
  · cases failed
  split at failed
  · rename_i opening
    obtain ⟨inside, rfl⟩ := List.head?_eq_some_iff.mp opening.2
    rw [List.tail_cons, blockComment] at failed
    cases closed : closeComment inside with
    | some _ => simp [closed] at failed
    | none =>
      rw [closed] at failed
      exact Or.inl ⟨(Except.error.inj failed).symm, opening.1, inside, rfl, closed⟩
  split at failed
  · cases failed
  split at failed
  · cases failed
  split at failed
  · cases failed
  split at failed
  · cases failed
  · rename_i noWord noDigit noSign noMark
    exact Or.inr ⟨(Except.error.inj failed).symm, by simpa using noWord, by simpa using noDigit,
      noSign, noMark⟩

/-- Only what opens a comment can lack an end. -/
theorem first_eq_unclosed_iff :
    first c text = .error .unclosedComment ↔
      c = '/' ∧ ∃ inside, text = '*' :: inside ∧ ¬ ['*', '/'] <:+: inside := by
  simp only [← closeComment_eq_none_iff]
  constructor
  · intro failed
    rcases first_error_cases failed with ⟨-, opening⟩ | ⟨other, -⟩
    · exact opening
    · cases other
  · rintro ⟨rfl, inside, rfl, unclosed⟩
    rw [first_blockComment, blockComment, unclosed]

/-- The character at fault is one that no lexeme begins with, so nothing behind it matters. -/
theorem first_eq_unexpected_iff :
    first c text = .error (.unexpectedCharacter d) ↔
      c = d ∧ ∀ kind more, ¬ HasShape kind (c :: more) := by
  constructor
  · intro failed
    rcases first_error_cases failed with ⟨other, -⟩ | ⟨same, noWord, noDigit, noSign, noMark⟩
    · cases other
    · refine ⟨(LexError.Cause.unexpectedCharacter.inj same).symm, fun kind more shape => ?_⟩
      rcases shape.starts with word | digit | sign | mark
      · simp [word] at noWord
      · simp [digit] at noDigit
      · exact noSign sign
      · exact noMark mark
  · rintro ⟨rfl, shapeless⟩
    cases outcome : first c text with
    | ok cut => exact absurd (first_eq_ok_iff.mp outcome).2.shape (shapeless _ _)
    | error cause =>
      rcases first_error_cases outcome with ⟨-, rfl, -⟩ | ⟨rfl, -⟩
      · exact absurd (.sign (by decide)) (shapeless .operator [])
      · rfl

/-- A lexeme is cut off alike where the text behind it begins in the same way, or ends. -/
theorem first_append_of_next {cut : Cut} (found : first c text = .ok cut)
    (next : front = [] ∨ front.head? = cut.rest.head?) :
    first c (cut.more ++ front) = .ok { cut with rest := front } := by
  obtain ⟨-, lexeme⟩ := first_eq_ok_iff.mp found
  refine first_eq_ok_iff.mpr ⟨rfl, lexeme.shape, ?_⟩
  rcases next with rfl | next
  · exact stopsBefore_end _ _
  · rw [next]
    exact lexeme.stops

end Cut

namespace Scanner

/-- The scanner takes those tokens from the text before the character, whatever stands behind the
character, and the same ones where the text ends before it. -/
structure TakesBefore (place : Location) (front : List Char) (c : Char) (taken : List Token) :
    Prop where
  alone : (Scanner.tokens ⟨front, place⟩).1 = .ok taken
  going : ∀ more, (Scanner.tokens ⟨front ++ c :: more, place⟩).1 =
    (Scanner.tokens ⟨c :: more, place.after front⟩).1.map (taken ++ ·)

theorem takesBefore_nil (place : Location) (c : Char) : TakesBefore place [] c [] where
  alone := tokens_nil place
  going more := by
    rw [List.nil_append, Location.after_nil]
    cases (Scanner.tokens ⟨c :: more, place⟩).1 <;> rfl

theorem TakesBefore.blank (blank : isBlank d = true)
    (behind : TakesBefore (place.next d) front c tokens) :
    TakesBefore place (d :: front) c tokens where
  alone := by rw [tokens_blank blank, behind.alone]
  going more := by rw [List.cons_append, tokens_blank blank, behind.going, Location.after_cons]

/-- The lexeme needs no more of what stands behind it than the next character. -/
theorem TakesBefore.lexeme {cut : Cut} {rest : List Char} (solid : isBlank d = false)
    (found : Cut.first d text = .ok cut) (left : cut.rest = front ++ c :: rest)
    (behind : TakesBefore (place.after (d :: cut.more)) front c tokens) :
    TakesBefore place (d :: (cut.more ++ front)) c
      (⟨⟨cut.kind, String.ofList (d :: cut.more)⟩, place⟩ :: tokens) where
  alone := by
    have next : front = [] ∨ front.head? = cut.rest.head? := by
      rw [left]
      cases front with
      | nil => exact Or.inl rfl
      | cons e front => exact Or.inr rfl
    rw [tokens_lexeme solid (Cut.first_append_of_next found next), behind.alone]
    rfl
  going more := by
    have next : (front ++ c :: more).head? = cut.rest.head? := by
      rw [left]
      cases front <;> rfl
    rw [List.cons_append, List.append_assoc,
      tokens_lexeme solid (Cut.first_append_of_next found (Or.inr next)), behind.going,
      ← List.cons_append, Location.after_append]
    cases (Scanner.tokens ⟨c :: more, (place.after (d :: cut.more)).after front⟩).1 <;> rfl

/-- Scanning that fails takes tokens up to a character, fails there and blames its place. -/
theorem exists_takesBefore (text : List Char) (place : Location)
    (failed : (Scanner.tokens ⟨text, place⟩).1 = .error error) :
    ∃ front c rest taken, text = front ++ c :: rest ∧ isBlank c = false ∧
      Cut.first c rest = .error error.cause ∧ error.location = place.after front ∧
      TakesBefore place front c taken := by
  -- On what is left of the text, as the scanner goes on: the end, a blank, or a lexeme.
  cases text with
  | nil => simp [tokens_nil] at failed
  | cons d text =>
    by_cases blank : isBlank d = true
    · rw [tokens_blank blank] at failed
      obtain ⟨front, c, rest, taken, rfl, solid, stuck, blamed, behind⟩ :=
        exists_takesBefore text (place.next d) failed
      exact ⟨d :: front, c, rest, taken, rfl, solid, stuck, blamed, behind.blank blank⟩
    · have solidHere : isBlank d = false := by simpa using blank
      cases found : Cut.first d text with
      | error cause =>
        rw [tokens_error solidHere found] at failed
        obtain rfl := Except.error.inj failed
        exact ⟨[], d, text, [], rfl, solidHere, found, rfl, takesBefore_nil place d⟩
      | ok cut =>
        have shorter := Cut.rest_length_le found
        rw [tokens_lexeme solidHere found] at failed
        have failedLater : (Scanner.tokens ⟨cut.rest, place.after (d :: cut.more)⟩).1 =
            .error error := by
          cases outcome : (Scanner.tokens ⟨cut.rest, place.after (d :: cut.more)⟩).1 with
          | ok later =>
            rw [outcome] at failed
            cases failed
          | error fault =>
            rw [outcome] at failed
            exact failed
        obtain ⟨front, c, rest, taken, left, solid, stuck, blamed, behind⟩ :=
          exists_takesBefore cut.rest (place.after (d :: cut.more)) failedLater
        have whole : d :: text = d :: (cut.more ++ front) ++ c :: rest := by
          rw [← Cut.first_append found, left, List.cons_append, List.append_assoc]
        refine ⟨d :: (cut.more ++ front), c, rest, _, whole, solid, stuck, ?_,
          behind.lexeme solidHere found left⟩
        rw [blamed, ← Location.after_append, List.cons_append]
termination_by text.length
decreasing_by all_goals grind

end Scanner

/-- Pieces of different lengths from the start of a text end at different places. -/
theorem Location.behind_take_inj {one two : Nat} (withinOne : one ≤ text.length)
    (withinTwo : two ≤ text.length) (same : behind (text.take one) = behind (text.take two)) :
    one = two := by
  have apart {one two : Nat} (less : one < two) (within : two ≤ text.length)
      (same : behind (text.take one) = behind (text.take two)) : False := by
    have further := List.take_append_drop one (text.take two)
    rw [List.take_take, Nat.min_eq_left (Nat.le_of_lt less)] at further
    cases between : (text.take two).drop one with
    | nil =>
      have length := congrArg List.length between
      simp only [List.length_drop, List.length_take, List.length_nil] at length
      omega
    | cons c more =>
      rw [between] at further
      rw [← further, behind_append] at same
      have ahead := precedes_after_cons (behind (text.take one)) c more
      rw [← same] at ahead
      exact not_precedes_self _ ahead
  rcases Nat.lt_trichotomy one two with less | equal | greater
  · exact (apart less withinTwo same).elim
  · exact equal
  · exact (apart greater withinOne same.symm).elim

namespace LexError

/-- The character at the index is the only one at the error's place. -/
structure IsAt (error : LexError) (text : List Char) (index : Nat) : Prop where
  within : index < text.length
  placed : ∀ other ≤ text.length,
    Location.behind (text.take other) = error.location ↔ other = index

/-- The character begins no lexeme, and is at fault in every text that is the same up to it. -/
structure IsUnexpectedAt (error : LexError) (text : List Char) (index : Nat) (c : Char) : Prop where
  cause : error.cause = .unexpectedCharacter c
  here : text[index]? = some c
  solid : isBlank c = false
  shapeless : ∀ kind more, ¬ HasShape kind (c :: more)
  decided : ∀ source : String, source.toList.take (index + 1) = text.take (index + 1) →
    tokenize source = .error error

/-- A comment begins there, and no mark behind its opening closes it. -/
structure IsUnclosedAt (error : LexError) (text : List Char) (index : Nat) : Prop where
  cause : error.cause = .unclosedComment
  opening : (text.drop index).take 2 = ['/', '*']
  unclosed : ¬ ['*', '/'] <:+: text.drop (index + 2)

theorem isAt_append (cause : LexError.Cause) (front : List Char) (c : Char) (rest : List Char) :
    IsAt ⟨cause, .behind front⟩ (front ++ c :: rest) front.length where
  within := by
    rw [List.length_append, List.length_cons]
    omega
  placed other bound := by
    have here : (front ++ c :: rest).take front.length = front := List.take_left
    constructor
    · intro same
      refine Location.behind_take_inj bound ?_ (same.trans (congrArg Location.behind here.symm))
      rw [List.length_append]
      exact Nat.le_add_right _ _
    · rintro rfl
      rw [here]

theorem isUnclosedAt_append {inside : List Char} (unclosed : ¬ ['*', '/'] <:+: inside) :
    IsUnclosedAt ⟨.unclosedComment, .behind front⟩ (front ++ '/' :: '*' :: inside)
      front.length where
  cause := rfl
  opening := by
    rw [List.drop_left]
    rfl
  unclosed := by
    rw [← List.drop_drop, List.drop_left]
    exact unclosed

end LexError

/-- What stands behind the character does not come into it. -/
theorem Scanner.TakesBefore.isUnexpectedAt {rest : List Char}
    (before : TakesBefore .start front c tokens) (solid : isBlank c = false)
    (shapeless : ∀ kind more, ¬ HasShape kind (c :: more)) :
    LexError.IsUnexpectedAt ⟨.unexpectedCharacter c, .behind front⟩ (front ++ c :: rest)
      front.length c where
  cause := rfl
  here := by
    rw [List.getElem?_append_right (Nat.le_refl _), Nat.sub_self]
    rfl
  solid := solid
  shapeless := shapeless
  decided source agrees := by
    have shared : (front ++ c :: rest).take (front.length + 1) = front ++ [c] :=
      List.take_length_add_append 1
    obtain ⟨more, whole⟩ : ∃ more, source.toList = front ++ c :: more := by
      refine ⟨source.toList.drop (front.length + 1), ?_⟩
      have parts := List.take_append_drop (front.length + 1) source.toList
      rw [agrees, shared, List.append_assoc] at parts
      exact parts.symm
    have fault : Cut.first c more = .error (.unexpectedCharacter c) :=
      Cut.first_eq_unexpected_iff.mpr ⟨rfl, shapeless⟩
    rw [tokenize, Scanner.ofString, whole, before.going, Scanner.tokens_error solid fault,
      Location.after_start]
    rfl

/-- Where a text has no tokens it has them up to one place, that of the error. There stands a character
that no lexeme begins with, which is at fault whatever follows it, or a comment that is not closed. -/
theorem tokenize_error_stops {source : String} (failed : tokenize source = .error error) :
    ∃ index, error.IsAt source.toList index ∧
      (∃ tokens, tokenize (String.ofList (source.toList.take index)) = .ok tokens) ∧
      ((∃ c, error.IsUnexpectedAt source.toList index c) ∨
        error.IsUnclosedAt source.toList index) := by
  obtain ⟨front, c, rest, taken, whole, solid, stuck, blamed, before⟩ :=
    Scanner.exists_takesBefore source.toList .start failed
  obtain ⟨cause, location⟩ := error
  rw [Location.after_start] at blamed
  obtain rfl : location = .behind front := blamed
  rw [whole]
  refine ⟨front.length, LexError.isAt_append cause front c rest, ⟨taken, ?_⟩, ?_⟩
  · rw [List.take_left, tokenize, Scanner.ofString, String.toList_ofList]
    exact before.alone
  · cases cause with
    | unclosedComment =>
      obtain ⟨rfl, inside, rfl, unclosed⟩ := Cut.first_eq_unclosed_iff.mp stuck
      exact Or.inr (LexError.isUnclosedAt_append unclosed)
    | unexpectedCharacter d =>
      obtain ⟨rfl, shapeless⟩ := Cut.first_eq_unexpected_iff.mp stuck
      exact Or.inl ⟨c, before.isUnexpectedAt solid shapeless⟩

/-- On the second line, behind a blank, stands a character that begins no lexeme. -/
theorem tokenize_error_stops_secondLine :
    let error : LexError := ⟨.unexpectedCharacter '@', ⟨2, 2⟩⟩
    let text := ['1', '\n', ' ', '@', '2']
    tokenize "1\n @2" = .error error ∧
      ∃ index, error.IsAt text index ∧
        (∃ tokens, tokenize (String.ofList (text.take index)) = .ok tokens) ∧
        ((∃ c, error.IsUnexpectedAt text index c) ∨ error.IsUnclosedAt text index) := by
  intro error text
  have failed : tokenize "1\n @2" = .error error := by
    have whole : "1\n @2".toList = ['1', '\n', ' ', '@', '2'] := rfl
    have digit : Cut.first '1' ['\n', ' ', '@', '2'] =
        .ok ⟨.number, [], ['\n', ' ', '@', '2']⟩ := rfl
    have unknown : Cut.first '@' ['2'] = .error (.unexpectedCharacter '@') := rfl
    rw [tokenize, Scanner.ofString, whole, Scanner.tokens_lexeme rfl digit, Scanner.tokens_blank rfl,
      Scanner.tokens_blank rfl, Scanner.tokens_error rfl unknown]
    rfl
  exact ⟨failed, tokenize_error_stops failed⟩

end SyntaxExplorer
