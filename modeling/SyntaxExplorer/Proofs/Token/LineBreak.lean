import SyntaxExplorer.Proofs.Token.Layout

namespace SyntaxExplorer

/-- The place so many lines further down. -/
def Location.below (place : Location) (lines : Nat) : Location :=
  ⟨place.line + lines, place.column⟩

/-- The token so many lines further down. -/
def Token.below (token : Token) (lines : Nat) : Token :=
  { token with location := token.location.below lines }

/-- The error so many lines further down. -/
def LexError.below (error : LexError) (lines : Nat) : LexError :=
  { error with location := error.location.below lines }

theorem Location.next_below (place : Location) (c : Char) (lines : Nat) :
    (place.below lines).next c = (place.next c).below lines := by
  unfold next below
  split
  · exact congrArg (Location.mk · 1) (Nat.add_right_comm place.line lines 1)
  · rfl

theorem Location.after_below (place : Location) (text : List Char) (lines : Nat) :
    (place.below lines).after text = (place.after text).below lines := by
  induction text generalizing place with
  | nil => rfl
  | cons c text ih => rw [after_cons, after_cons, next_below, ih]

/-- Behind a line feed the first column of a later line begins. -/
theorem Location.after_feed (text : List Char) :
    (start.after text).next '\n' = start.below (1 + text.count '\n') := by
  have line := after_line start text
  have shape : (start.after text).next '\n' = ⟨(start.after text).line + 1, 1⟩ := rfl
  have first : start.line = 1 := rfl
  rw [shape, line, first, below, first, Location.mk.injEq]
  exact ⟨by omega, rfl⟩

/-- No lexeme is cut short by a line feed. -/
theorem stopsBefore_feed (kind : TokenKind) (text : List Char) : StopsBefore kind text (some '\n') := by
  have noPair (c : Char) : (c, '\n') ∉ operatorPairs := by simp [operatorPairs]
  cases kind with
  | punctuation => exact trivial
  | operator =>
    rintro c - d ⟨⟩
    exact ⟨noPair c, fun _ => by decide⟩
  | keyword | identifier | number =>
    rintro d ⟨⟩
    decide
  | comment =>
    rintro inside - d ⟨⟩
    rfl

variable {c : Char} {text : List Char} {tokens : List Token} {place : Location}

namespace Cut

/-- What is cut off from the front of a text is cut off when a line feed and more stand behind it. -/
theorem first_append_feed {cut : Cut} (found : first c text = .ok cut) (more : List Char) :
    first c (text ++ '\n' :: more) = .ok { cut with rest := cut.rest ++ '\n' :: more } := by
  obtain ⟨rfl, lexeme⟩ := first_eq_ok_iff.mp found
  refine first_eq_ok_iff.mpr ⟨List.append_assoc .., lexeme.shape, ?_⟩
  cases rest : cut.rest with
  | nil => exact stopsBefore_feed cut.kind (c :: cut.more)
  | cons d others =>
    have stops := lexeme.stops
    rw [rest] at stops
    exact stops

end Cut

namespace Scanner

/-- A text that has tokens is scanned to its end, and then what stands behind the line feed is. -/
theorem tokens_append_feed (text : List Char) (place : Location) (tokens : List Token)
    (scanned : (Scanner.tokens ⟨text, place⟩).1 = .ok tokens) (more : List Char) :
    (Scanner.tokens ⟨text ++ '\n' :: more, place⟩).1 =
      (Scanner.tokens ⟨more, (place.after text).next '\n'⟩).1.map (tokens ++ ·) := by
  -- On what is left of the text, as the scanner goes on: the end, a blank, or a lexeme.
  cases text with
  | nil =>
    rw [tokens_nil] at scanned
    obtain rfl := Except.ok.inj scanned
    rw [List.nil_append, tokens_blank rfl, Location.after_nil]
    cases (Scanner.tokens ⟨more, place.next '\n'⟩).1 <;> rfl
  | cons c text =>
    by_cases blank : isBlank c = true
    · rw [tokens_blank blank] at scanned
      rw [List.cons_append, tokens_blank blank, Location.after_cons]
      exact tokens_append_feed text (place.next c) tokens scanned more
    · have solid : isBlank c = false := by simpa using blank
      cases found : Cut.first c text with
      | error cause =>
        rw [tokens_error solid found] at scanned
        cases scanned
      | ok cut =>
        have shorter := Cut.rest_length_le found
        have whole := Cut.first_append found
        rw [tokens_lexeme solid found] at scanned
        obtain ⟨later, scannedLater, rfl⟩ : ∃ later,
            (Scanner.tokens ⟨cut.rest, place.after (c :: cut.more)⟩).1 = .ok later ∧
              ⟨⟨cut.kind, String.ofList (c :: cut.more)⟩, place⟩ :: later = tokens := by
          cases outcome : (Scanner.tokens ⟨cut.rest, place.after (c :: cut.more)⟩).1 with
          | error error =>
            rw [outcome] at scanned
            cases scanned
          | ok later =>
            rw [outcome] at scanned
            exact ⟨later, rfl, Except.ok.inj scanned⟩
        have others := tokens_append_feed cut.rest (place.after (c :: cut.more)) later scannedLater more
        have stop : (place.after (c :: cut.more)).after cut.rest = place.after (c :: text) := by
          rw [← Location.after_append, List.cons_append, whole]
        rw [List.cons_append, tokens_lexeme solid (Cut.first_append_feed found more), others, stop]
        cases (Scanner.tokens ⟨more, (place.after (c :: text)).next '\n'⟩).1 <;> rfl
termination_by text.length

/-- Further down, a text has the same tokens or the same error, further down. -/
theorem tokens_below (text : List Char) (place : Location) (lines : Nat) :
    (Scanner.tokens ⟨text, place.below lines⟩).1 =
      ((Scanner.tokens ⟨text, place⟩).1.map (List.map (·.below lines))).mapError (·.below lines) := by
  cases text with
  | nil =>
    rw [tokens_nil, tokens_nil]
    rfl
  | cons c text =>
    by_cases blank : isBlank c = true
    · rw [tokens_blank blank, tokens_blank blank, Location.next_below]
      exact tokens_below text (place.next c) lines
    · have solid : isBlank c = false := by simpa using blank
      cases found : Cut.first c text with
      | error cause =>
        rw [tokens_error solid found, tokens_error solid found]
        rfl
      | ok cut =>
        have shorter := Cut.rest_length_le found
        have others := tokens_below cut.rest (place.after (c :: cut.more)) lines
        rw [tokens_lexeme solid found, tokens_lexeme solid found, Location.after_below, others]
        cases (Scanner.tokens ⟨cut.rest, place.after (c :: cut.more)⟩).1 <;> rfl
termination_by text.length

end Scanner

/-- The second text begins on the line behind all lines of the first. -/
theorem tokenize_append_eq {first : String} (scanned : tokenize first = .ok tokens) (second : String) :
    tokenize (first ++ "\n" ++ second) =
      ((tokenize second).map (tokens ++ List.map (·.below (1 + first.toList.count '\n')) ·)).mapError
        (·.below (1 + first.toList.count '\n')) := by
  have text : (first ++ "\n" ++ second).toList = first.toList ++ '\n' :: second.toList := by
    rw [String.toList_append, String.toList_append, List.append_assoc]
    rfl
  rw [tokenize, Scanner.ofString, text, Scanner.tokens_append_feed _ _ _ scanned, Location.after_feed,
    Scanner.tokens_below, tokenize, Scanner.ofString]
  cases (Scanner.tokens ⟨second.toList, .start⟩).1 <;> rfl

/-- Behind a text that has tokens and a line feed, a second text has its own tokens, or its own error,
as many lines further down as there are lines above it. -/
theorem tokenize_append_line {first : String} (scanned : tokenize first = .ok tokens)
    (second : String) :
    (∀ later, tokenize second = .ok later →
      tokenize (first ++ "\n" ++ second) =
        .ok (tokens ++ later.map (·.below (1 + first.toList.count '\n')))) ∧
    (∀ error, tokenize second = .error error →
      tokenize (first ++ "\n" ++ second) = .error (error.below (1 + first.toList.count '\n'))) := by
  have both := tokenize_append_eq scanned second
  constructor
  · intro later scannedLater
    rw [both, scannedLater]
    rfl
  · intro error failed
    rw [both, failed]
    rfl

/-- A comment that ends the first text takes nothing of the second, which has its own lines. -/
theorem tokenize_append_line_openComment :
    let name : Token := ⟨⟨.identifier, "x"⟩, ⟨1, 1⟩⟩
    let block : Token := ⟨⟨.comment, "/*\n*/"⟩, ⟨1, 2⟩⟩
    let line : Token := ⟨⟨.comment, "//"⟩, ⟨2, 3⟩⟩
    tokenize "x/*\n*///" = .ok [name, block, line] ∧
      tokenize "=\n1" = .ok [⟨⟨.operator, "="⟩, ⟨1, 1⟩⟩, ⟨⟨.number, "1"⟩, ⟨2, 1⟩⟩] ∧
      tokenize ("x/*\n*///" ++ "\n" ++ "=\n1") =
        .ok [name, block, line, ⟨⟨.operator, "="⟩, ⟨3, 1⟩⟩, ⟨⟨.number, "1"⟩, ⟨4, 1⟩⟩] ∧
      tokenize "=\n @" = .error ⟨.unexpectedCharacter '@', ⟨2, 2⟩⟩ ∧
      tokenize ("x/*\n*///" ++ "\n" ++ "=\n @") = .error ⟨.unexpectedCharacter '@', ⟨4, 2⟩⟩ := by
  intro name block line
  have first : tokenize "x/*\n*///" = .ok [name, block, line] := by
    have text : "x/*\n*///".toList = ['x', '/', '*', '\n', '*', '/', '/', '/'] := rfl
    have word : Cut.first 'x' ['/', '*', '\n', '*', '/', '/', '/'] =
        .ok ⟨.identifier, [], ['/', '*', '\n', '*', '/', '/', '/']⟩ := rfl
    have closed : Cut.first '/' ['*', '\n', '*', '/', '/', '/'] =
        .ok ⟨.comment, ['*', '\n', '*', '/'], ['/', '/']⟩ := rfl
    have unended : Cut.first '/' ['/'] = .ok ⟨.comment, ['/'], []⟩ := rfl
    rw [tokenize, Scanner.ofString, text, Scanner.tokens_lexeme rfl word,
      Scanner.tokens_lexeme rfl closed, Scanner.tokens_lexeme rfl unended, Scanner.tokens_nil]
    rfl
  have second : tokenize "=\n1" = .ok [⟨⟨.operator, "="⟩, ⟨1, 1⟩⟩, ⟨⟨.number, "1"⟩, ⟨2, 1⟩⟩] := by
    have text : "=\n1".toList = ['=', '\n', '1'] := rfl
    have sign : Cut.first '=' ['\n', '1'] = .ok ⟨.operator, [], ['\n', '1']⟩ := rfl
    have digit : Cut.first '1' [] = .ok ⟨.number, [], []⟩ := rfl
    rw [tokenize, Scanner.ofString, text, Scanner.tokens_lexeme rfl sign, Scanner.tokens_blank rfl,
      Scanner.tokens_lexeme rfl digit, Scanner.tokens_nil]
    rfl
  have broken : tokenize "=\n @" = .error ⟨.unexpectedCharacter '@', ⟨2, 2⟩⟩ := by
    have text : "=\n @".toList = ['=', '\n', ' ', '@'] := rfl
    have sign : Cut.first '=' ['\n', ' ', '@'] = .ok ⟨.operator, [], ['\n', ' ', '@']⟩ := rfl
    have unknown : Cut.first '@' [] = .error (.unexpectedCharacter '@') := rfl
    rw [tokenize, Scanner.ofString, text, Scanner.tokens_lexeme rfl sign, Scanner.tokens_blank rfl,
      Scanner.tokens_blank rfl, Scanner.tokens_error rfl unknown]
    rfl
  exact ⟨first, second, (tokenize_append_line first _).1 _ second, broken,
    (tokenize_append_line first _).2 _ broken⟩

end SyntaxExplorer
