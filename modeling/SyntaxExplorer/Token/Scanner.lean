import SyntaxExplorer.Token.Basic

namespace SyntaxExplorer

/-- Why a text has no further token. -/
inductive LexError.Cause
  | unexpectedCharacter (c : Char)
  | unclosedComment
  deriving DecidableEq, Repr

/-- A cause and the place of the first character that no token takes. -/
structure LexError where
  cause : LexError.Cause
  location : Location
  deriving DecidableEq, Repr

namespace LexError

def Cause.reason : Cause → String
  | unexpectedCharacter c => "Unexpected character '" ++ c.toString ++ "'"
  | unclosedComment => "Unclosed multi-line comment"

def message (error : LexError) : String :=
  "Lexer error at " ++ error.location.description ++ ": " ++ error.cause.reason

end LexError

/-- What a lexeme takes from a text after its first character, and what it leaves. -/
structure Cut where
  kind : TokenKind
  more : List Char
  rest : List Char

namespace Cut

/-- The run of characters of one class. -/
def run (kind : TokenKind) (holds : Char → Bool) (text : List Char) : Cut :=
  ⟨kind, text.takeWhile holds, text.dropWhile holds⟩

/-- A word that begins with `c` is a keyword if it is reserved and an identifier if not. -/
def word (c : Char) (text : List Char) : Cut :=
  let cut := run .identifier isWordPart text
  { cut with kind := if String.ofList (c :: cut.more) ∈ keywords then .keyword else .identifier }

/-- An operator that begins with `c` has two characters where the first two form one. -/
def operator (c : Char) (text : List Char) : Cut :=
  match text with
  | [] => ⟨.operator, [], []⟩
  | d :: rest =>
    if (c, d) ∈ operatorPairs then ⟨.operator, [d], rest⟩ else ⟨.operator, [], d :: rest⟩

/-- The text of a block comment after its opening, up to and with the first closing mark, and the
text after that. -/
def closeComment : List Char → Option (List Char × List Char)
  | [] => none
  | c :: text =>
    if c = '*' ∧ text.head? = some '/' then some ([c, '/'], text.tail)
    else (closeComment text).map fun (inside, rest) => (c :: inside, rest)

/-- A block comment whose opening is `/` and the star in front of `text`. -/
def blockComment (text : List Char) : Except LexError.Cause Cut :=
  match closeComment text with
  | some (inside, rest) => .ok ⟨.comment, '*' :: inside, rest⟩
  | none => .error .unclosedComment

/-- The lexeme that begins with `c`, which is not blank. The two openings of comments come before
the operator that they begin with. -/
def first (c : Char) (text : List Char) : Except LexError.Cause Cut :=
  if c = '/' ∧ text.head? = some '/' then .ok (run .comment (· ≠ '\n') text)
  else if c = '/' ∧ text.head? = some '*' then blockComment text.tail
  else if isWordStart c then .ok (word c text)
  else if c.isDigit then .ok (run .number isNumberPart text)
  else if c ∈ operatorSigns then .ok (operator c text)
  else if c ∈ punctuationMarks then .ok ⟨.punctuation, [], text⟩
  else .error (.unexpectedCharacter c)

theorem run_append (kind : TokenKind) (holds : Char → Bool) (text : List Char) :
    (run kind holds text).more ++ (run kind holds text).rest = text :=
  List.takeWhile_append_dropWhile

theorem operator_append (c : Char) (text : List Char) :
    (operator c text).more ++ (operator c text).rest = text := by
  unfold operator
  split
  · rfl
  · split <;> rfl

theorem closeComment_append {text inside rest : List Char}
    (closed : closeComment text = some (inside, rest)) : inside ++ rest = text := by
  induction text generalizing inside with
  | nil => simp [closeComment] at closed
  | cons c text ih =>
    simp only [closeComment] at closed
    split at closed
    · rename_i mark
      obtain ⟨rfl, rfl⟩ := Prod.mk.inj (Option.some.inj closed)
      cases text with
      | nil => simp at mark
      | cons d text => simp_all
    · obtain ⟨⟨before, after⟩, later, pair⟩ := Option.map_eq_some_iff.mp closed
      obtain ⟨rfl, rfl⟩ := Prod.mk.inj pair
      simp [ih later]

theorem blockComment_append {text : List Char} {cut : Cut} (found : blockComment text = .ok cut) :
    cut.more ++ cut.rest = '*' :: text := by
  unfold blockComment at found
  split at found
  · rename_i inside rest closed
    obtain rfl := Except.ok.inj found
    simp [closeComment_append closed]
  · simp at found

/-- Nothing is lost or changed by cutting. -/
theorem first_append {c : Char} {text : List Char} {cut : Cut} (found : first c text = .ok cut) :
    cut.more ++ cut.rest = text := by
  unfold first at found
  split at found
  · exact Except.ok.inj found ▸ run_append ..
  split at found
  · rename_i opening
    rw [blockComment_append found]
    cases text with
    | nil => simp at opening
    | cons d text => simp_all
  split at found
  · exact Except.ok.inj found ▸ run_append ..
  split at found
  · exact Except.ok.inj found ▸ run_append ..
  split at found
  · exact Except.ok.inj found ▸ operator_append ..
  split at found
  · exact Except.ok.inj found ▸ rfl
  · simp at found

/-- What a lexeme leaves is no longer than what stood after its first character. -/
theorem rest_length_le {c : Char} {text : List Char} {cut : Cut} (found : first c text = .ok cut) :
    cut.rest.length ≤ text.length := by
  have whole := congrArg List.length (first_append found)
  simp only [List.length_append] at whole
  omega

end Cut

/-- The text that is left to scan and the place where it begins. -/
structure Scanner where
  rest : List Char
  location : Location

namespace Scanner

/-- A scanner at the start of a text. -/
def ofString (source : String) : Scanner :=
  ⟨source.toList, .start⟩

/-- Takes all tokens, and tells where scanning stopped. It stays on a character that begins no
token, and gives up the whole text where a comment is not closed. -/
def tokens (scanner : Scanner) : Except LexError (List Token) × Scanner :=
  match scanner with
  | ⟨[], place⟩ => (.ok [], ⟨[], place⟩)
  | ⟨c :: text, place⟩ =>
    if isBlank c then tokens ⟨text, place.next c⟩
    else match found : Cut.first c text with
      | .error .unclosedComment => (.error ⟨.unclosedComment, place⟩, ⟨[], place.after (c :: text)⟩)
      | .error cause => (.error ⟨cause, place⟩, ⟨c :: text, place⟩)
      | .ok cut =>
        have := Cut.rest_length_le found
        let lexeme := c :: cut.more
        let (later, last) := tokens ⟨cut.rest, place.after lexeme⟩
        (later.map (⟨⟨cut.kind, String.ofList lexeme⟩, place⟩ :: ·), last)
termination_by scanner.rest.length
decreasing_by all_goals grind

end Scanner

/-- All tokens of a source text. -/
def tokenize (source : String) : Except LexError (List Token) :=
  (Scanner.ofString source).tokens.1

end SyntaxExplorer
