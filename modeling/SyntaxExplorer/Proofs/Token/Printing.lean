import SyntaxExplorer.Proofs.Token.LineBreak

namespace SyntaxExplorer

namespace Lexeme

/-- The text is one that lexemes of the kind have. -/
def IsValid (lexeme : Lexeme) : Prop :=
  HasShape lexeme.kind lexeme.text.toList

/-- The texts of the lexemes with a line feed between each two. -/
def print (lexemes : List Lexeme) : String :=
  "\n".intercalate (lexemes.map Lexeme.text)

theorem print_singleton (lexeme : Lexeme) : print [lexeme] = lexeme.text :=
  String.intercalate_singleton

theorem print_cons_cons (first second : Lexeme) (others : List Lexeme) :
    print (first :: second :: others) = first.text ++ "\n" ++ print (second :: others) :=
  String.intercalate_cons_cons

end Lexeme

theorem tokenize_empty : tokenize "" = .ok [] :=
  Scanner.tokens_nil .start

/-- A valid lexeme is the only token of its text. -/
theorem tokenize_of_isValid {lexeme : Lexeme} (valid : lexeme.IsValid) :
    tokenize lexeme.text = .ok [⟨lexeme, .start⟩] := by
  obtain ⟨kind, text⟩ := lexeme
  obtain ⟨c, more, whole, solid⟩ := HasShape.begins valid
  have shape : HasShape kind (c :: more) := whole ▸ valid
  have named : String.ofList (c :: more) = text := whole ▸ String.ofList_toList
  have found : Cut.first c more = .ok ⟨kind, more, []⟩ :=
    Cut.first_eq_ok_iff.mpr ⟨(List.append_nil more).symm, shape, stopsBefore_end ..⟩
  have scanned : tokenize text = (Scanner.tokens ⟨c :: more, .start⟩).1 :=
    congrArg (fun text => (Scanner.tokens ⟨text, .start⟩).1) whole
  rw [scanned, Scanner.tokens_lexeme solid found, Scanner.tokens_nil, named]
  rfl

/-- What is printed is scanned back. -/
theorem tokenize_print {lexemes : List Lexeme} (valid : ∀ lexeme ∈ lexemes, lexeme.IsValid) :
    ∃ tokens, tokenize (Lexeme.print lexemes) = .ok tokens ∧ tokens.map Token.toLexeme = lexemes := by
  induction lexemes with
  | nil => exact ⟨[], tokenize_empty, rfl⟩
  | cons first others ih =>
    obtain ⟨validFirst, validOthers⟩ := List.forall_mem_cons.mp valid
    have scannedFirst := tokenize_of_isValid validFirst
    cases others with
    | nil => exact ⟨_, (Lexeme.print_singleton first).symm ▸ scannedFirst, rfl⟩
    | cons second others =>
      obtain ⟨tokens, scanned, same⟩ := ih validOthers
      let lines := 1 + first.text.toList.count '\n'
      refine ⟨⟨first, .start⟩ :: tokens.map (·.below lines), ?_, ?_⟩
      · rw [Lexeme.print_cons_cons, tokenize_append_eq scannedFirst, scanned]
        rfl
      · have moved : tokens.map (Token.toLexeme ∘ (·.below lines)) = tokens.map Token.toLexeme := rfl
        rw [List.map_cons, List.map_map, moved, same]

/-- All tokens of a text are valid lexemes. -/
theorem IsLayout.isValid {before text : List Char} {tokens : List Token}
    (layout : IsLayout before text tokens) : ∀ token ∈ tokens, token.toLexeme.IsValid := by
  induction layout with
  | finish => simp
  | token _ lexeme _ ih =>
    refine List.forall_mem_cons.mpr ⟨?_, ih⟩
    rw [Lexeme.IsValid, String.toList_ofList]
    exact lexeme.shape

theorem isValid_of_tokenize {source : String} {tokens : List Token}
    (scanned : tokenize source = .ok tokens) : ∀ token ∈ tokens, token.toLexeme.IsValid :=
  ((Scanner.tokens_eq_ok_iff [] source.toList tokens).mp scanned).isValid

/-- Lexemes come back when they are printed and scanned if all are valid, and only then. The tokens of
a text are, so that printing them and scanning again changes nothing but their places. -/
theorem tokenize_print_iff_isValid (lexemes : List Lexeme) :
    ((∃ tokens, tokenize (Lexeme.print lexemes) = .ok tokens ∧
        tokens.map Token.toLexeme = lexemes) ↔ ∀ lexeme ∈ lexemes, lexeme.IsValid) ∧
      ∀ source tokens, tokenize source = .ok tokens →
        (∀ token ∈ tokens, token.toLexeme.IsValid) ∧
          ∃ again, tokenize (Lexeme.print (tokens.map Token.toLexeme)) = .ok again ∧
            again.map Token.toLexeme = tokens.map Token.toLexeme := by
  refine ⟨⟨?_, tokenize_print⟩, ?_⟩
  · rintro ⟨tokens, scanned, rfl⟩
    exact List.forall_mem_map.mpr (isValid_of_tokenize scanned)
  · intro source tokens scanned
    have valid := isValid_of_tokenize scanned
    exact ⟨valid, tokenize_print (List.forall_mem_map.mpr valid)⟩

/-- A comment whose opening looks closed, and one with a carriage return at its end. -/
theorem tokenize_print_iff_isValid_comments :
    let tokens : List Token := [⟨⟨.identifier, "x"⟩, ⟨1, 1⟩⟩, ⟨⟨.comment, "/*/*/"⟩, ⟨1, 2⟩⟩,
      ⟨⟨.comment, "//\r"⟩, ⟨1, 7⟩⟩]
    tokenize "x/*/*///\r" = .ok tokens ∧ (∀ token ∈ tokens, token.toLexeme.IsValid) ∧
      ∃ again, tokenize "x\n/*/*/\n//\r" = .ok again ∧
        again.map Token.toLexeme = tokens.map Token.toLexeme := by
  intro tokens
  have scanned : tokenize "x/*/*///\r" = .ok tokens := by
    have text : "x/*/*///\r".toList = ['x', '/', '*', '/', '*', '/', '/', '/', '\r'] := rfl
    have word : Cut.first 'x' ['/', '*', '/', '*', '/', '/', '/', '\r'] =
        .ok ⟨.identifier, [], ['/', '*', '/', '*', '/', '/', '/', '\r']⟩ := rfl
    have closed : Cut.first '/' ['*', '/', '*', '/', '/', '/', '\r'] =
        .ok ⟨.comment, ['*', '/', '*', '/'], ['/', '/', '\r']⟩ := rfl
    have unended : Cut.first '/' ['/', '\r'] = .ok ⟨.comment, ['/', '\r'], []⟩ := rfl
    rw [tokenize, Scanner.ofString, text, Scanner.tokens_lexeme rfl word,
      Scanner.tokens_lexeme rfl closed, Scanner.tokens_lexeme rfl unended, Scanner.tokens_nil]
    rfl
  exact ⟨scanned, (tokenize_print_iff_isValid []).2 _ tokens scanned⟩

end SyntaxExplorer
