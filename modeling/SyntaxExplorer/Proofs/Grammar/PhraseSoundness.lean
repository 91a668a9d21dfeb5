import SyntaxExplorer.Proofs.Grammar.ClauseSoundness

namespace SyntaxExplorer.Grammar

open Rule

variable {inner : Rule SyntaxTree} {lexemes rest : List Lexeme} {tree : SyntaxTree}
  {trees : List SyntaxTree}

/-- All that the rule takes is a statement, with the comments before it. -/
def ReadsBody (rule : Rule SyntaxTree) : Prop :=
  ∀ lexemes tree rest, Takes rule lexemes tree rest →
    ∃ word, lexemes = word ++ rest ∧ IsPhrase .body word [tree] ∧ tree.Fits rest

/-- All that the rule takes is a declaration, with the comments before it. -/
def ReadsDeclaration (rule : Rule SyntaxTree) : Prop :=
  ∀ lexemes tree rest, Takes rule lexemes tree rest →
    ∃ comments word, lexemes = comments ++ word ++ rest ∧ AllComments comments ∧
      IsPhrase .declaration word [tree] ∧ tree.Fits rest

theorem skipComments_split (lexemes : List Lexeme) :
    ∃ comments, AllComments comments ∧
      lexemes = comments ++ lexemes.dropWhile (·.kind = .comment) := by
  refine ⟨lexemes.takeWhile (·.kind = .comment), ?_, List.takeWhile_append_dropWhile.symm⟩
  intro lexeme member
  exact of_decide_eq_true (List.all_eq_true.mp List.all_takeWhile lexeme member)

theorem AllComments.append {comments more : List Lexeme} (before : AllComments comments)
    (after : AllComments more) : AllComments (comments ++ more) := by
  intro lexeme member
  rcases List.mem_append.mp member with first | second
  · exact before lexeme first
  · exact after lexeme second

theorem declarations_sound {closes : Option Lexeme → Bool} (atEnd : closes none = true)
    (sound : ReadsDeclaration inner) (some : TakesSome inner) (front : TakesFront inner)
    (takes : Takes (repeating (declarations closes inner)) lexemes trees rest) :
    ∃ word, lexemes = word ++ rest ∧ IsPhrase .declarations word trees ∧
      closes rest.head? = true := by
  induction size : lexemes.length using Nat.strongRecOn generalizing lexemes trees with
  | ind size ih =>
    rw [declarations_eq atEnd some front] at takes
    obtain ⟨_, start, skipped, choice⟩ := takes_bind.mp takes
    obtain ⟨comments, allComments, split⟩ := skipComments_split lexemes
    rw [← takes_skipComments.mp skipped] at split
    rw [takes_ahead] at choice
    split at choice
    · rename_i closed
      obtain ⟨rfl, rfl⟩ := takes_succeed.mp choice
      exact ⟨comments, split, .finish allComments, closed⟩
    · obtain ⟨first, middle, read, more⟩ := takes_bind.mp choice
      obtain ⟨others, last, again, built⟩ := takes_bind.mp more
      obtain ⟨rfl, rfl⟩ := takes_pure.mp built
      have shorter := some _ _ _ read
      have whole : lexemes.length = comments.length + start.length := by
        rw [split, List.length_append]
      obtain ⟨words, rfl, derived, closed⟩ := ih _ (by omega) again rfl
      obtain ⟨skips, word, rfl, moreComments, declared, fits⟩ := sound _ _ _ read
      refine ⟨comments ++ skips ++ word ++ words, by simp [split],
        .next (allComments.append moreComments) declared derived ?_, closed⟩
      intro header next
      refine fits.1 header ?_
      rw [List.head?_append, next, Option.some_or]

theorem blockRest_sound (sound : ReadsDeclaration inner) (some : TakesSome inner)
    (front : TakesFront inner) (takes : Takes (blockRest inner) lexemes tree rest) :
    ∃ word trees, lexemes = word ++ mark "\x7d" :: rest ∧ tree = ⟨.block, none, trees⟩ ∧
      IsPhrase .declarations word trees := by
  obtain ⟨trees, middle, read, closed⟩ := takes_bind.mp takes
  obtain ⟨_, last, closing, built⟩ := takes_bind.mp closed
  obtain ⟨rfl, rfl⟩ := takes_pure.mp built
  obtain rfl := takes_expectMark.mp closing
  obtain ⟨word, rfl, derived, -⟩ := declarations_sound rfl sound some front read
  exact ⟨word, trees, rfl, rfl, derived⟩

theorem functionRest_sound {type name : String} (known : type ∈ typeNames)
    (sound : ReadsDeclaration inner) (some : TakesSome inner) (front : TakesFront inner)
    (takes : Takes (functionRest inner (keyword type) name) lexemes tree rest) :
    ∃ word, lexemes = word ++ rest ∧ tree.Fits rest ∧
      IsPhrase .declaration (keyword type :: ⟨.identifier, name⟩ :: mark "(" :: word) [tree] := by
  obtain ⟨_, start, noted, listed⟩ := takes_bind.mp takes
  obtain rfl := takes_note.mp noted
  obtain ⟨_, middle, skipped, choice⟩ := takes_bind.mp listed
  obtain ⟨parameters, rfl, matched⟩ := parametersRest_sound skipped
  rcases takes_take_eq.mp choice with ⟨later, rfl, bodied⟩ | ⟨bare, ended⟩
  · obtain ⟨body, last, read, built⟩ := takes_bind.mp bodied
    obtain ⟨rfl, rfl⟩ := takes_pure.mp built
    obtain ⟨word, trees, rfl, rfl, derived⟩ := blockRest_sound sound some front read
    refine ⟨parameters ++ mark ")" :: mark "\x7b" :: word ++ [mark "\x7d"], by simp, ?_,
      by simpa [keyword] using IsPhrase.function known matched derived⟩
    exact ⟨fun header => by simp [SyntaxTree.isHeader] at header,
      fun accepts => by simp [SyntaxTree.acceptsElse_of_kind] at accepts⟩
  · obtain ⟨rfl, rfl⟩ := takes_succeed.mp ended
    refine ⟨parameters ++ [mark ")"], by simp, ?_, by simpa [keyword] using IsPhrase.header known matched⟩
    exact ⟨fun _ => bare, fun accepts => by simp [SyntaxTree.acceptsElse_of_kind] at accepts⟩

variable {statement : Rule SyntaxTree}

theorem ifRest_sound (sound : ReadsBody statement)
    (takes : Takes (ifRest statement) lexemes tree rest) :
    ∃ word, lexemes = word ++ rest ∧ tree.Fits rest ∧
      IsPhrase .statement (keyword "if" :: word) [tree] := by
  obtain ⟨test, start, asked, more⟩ := takes_bind.mp takes
  obtain ⟨question, rfl, tested⟩ := condition_sound asked
  obtain ⟨yes, middle, read, choice⟩ := takes_bind.mp more
  obtain ⟨word, rfl, branch, fits⟩ := sound _ _ _ read
  rcases takes_take_eq.mp choice with ⟨later, rfl, other⟩ | ⟨alone, ended⟩
  · obtain ⟨no, last, read', built⟩ := takes_bind.mp other
    obtain ⟨rfl, rfl⟩ := takes_pure.mp built
    obtain ⟨words, rfl, branch', fits'⟩ := sound _ _ _ read'
    have nearest : yes.acceptsElse = false :=
      Bool.eq_false_iff.mpr fun accepts => fits.2 accepts rfl
    refine ⟨mark "(" :: question ++ mark ")" :: word ++ keyword "else" :: words, by simp, ?_,
      by simpa using IsPhrase.ifElse tested branch nearest branch'⟩
    refine ⟨fun header => by simp [SyntaxTree.isHeader] at header, ?_⟩
    rw [SyntaxTree.acceptsElse_ifElse]
    exact fits'.2
  · obtain ⟨rfl, rfl⟩ := takes_succeed.mp ended
    refine ⟨mark "(" :: question ++ mark ")" :: word, by simp, ?_,
      by simpa using IsPhrase.ifThen tested branch⟩
    exact ⟨fun header => by simp [SyntaxTree.isHeader] at header, fun _ => alone⟩

theorem whileRest_sound (sound : ReadsBody statement)
    (takes : Takes (whileRest statement) lexemes tree rest) :
    ∃ word, lexemes = word ++ rest ∧ tree.Fits rest ∧
      IsPhrase .statement (keyword "while" :: word) [tree] := by
  obtain ⟨test, start, asked, more⟩ := takes_bind.mp takes
  obtain ⟨question, rfl, tested⟩ := condition_sound asked
  obtain ⟨body, middle, read, built⟩ := takes_bind.mp more
  obtain ⟨rfl, rfl⟩ := takes_pure.mp built
  obtain ⟨word, rfl, repeated, fits⟩ := sound _ _ _ read
  refine ⟨mark "(" :: question ++ mark ")" :: word, by simp, ?_,
    by simpa using IsPhrase.whileLoop tested repeated⟩
  refine ⟨fun header => by simp [SyntaxTree.isHeader] at header, ?_⟩
  rw [SyntaxTree.acceptsElse_while]
  exact fits.2

theorem forRest_sound (sound : ReadsBody statement)
    (takes : Takes (forRest statement) lexemes tree rest) :
    ∃ word, lexemes = word ++ rest ∧ tree.Fits rest ∧
      IsPhrase .statement (keyword "for" :: word) [tree] := by
  obtain ⟨_, opened, opening, begun⟩ := takes_bind.mp takes
  obtain rfl := takes_expectMark.mp opening
  obtain ⟨init, afterInit, initial, asks⟩ := takes_bind.mp begun
  obtain ⟨start, inits, rfl, rfl, begins⟩ := forInit_sound initial
  obtain ⟨test, afterTest, tested, separated⟩ := takes_bind.mp asks
  obtain ⟨question, rfl, asked⟩ := expressionUnless_sound tested
  obtain ⟨_, separator, semicolon, steps⟩ := takes_bind.mp separated
  obtain rfl := takes_expectMark.mp semicolon
  obtain ⟨increment, afterStep, incremented, closes⟩ := takes_bind.mp steps
  obtain ⟨step, rfl, stepped⟩ := expressionUnless_sound incremented
  obtain ⟨_, closed, closing, runs⟩ := takes_bind.mp closes
  obtain rfl := takes_expectMark.mp closing
  obtain ⟨body, last, read, built⟩ := takes_bind.mp runs
  obtain ⟨rfl, rfl⟩ := takes_pure.mp built
  obtain ⟨word, rfl, repeated, fits⟩ := sound _ _ _ read
  refine ⟨mark "(" :: start ++ mark ";" :: question ++ mark ";" :: step ++ mark ")" :: word,
    by simp, ?_, by simpa using IsPhrase.forLoop begins asked stepped repeated⟩
  refine ⟨fun header => by simp [SyntaxTree.isHeader] at header, ?_⟩
  rw [SyntaxTree.acceptsElse_for]
  exact fits.2

theorem returnRest_sound (takes : Takes returnRest lexemes tree rest) :
    ∃ word, lexemes = word ++ rest ∧ tree.Fits rest ∧
      IsPhrase .statement (keyword "return" :: word) [tree] := by
  obtain ⟨value, middle, read, closed⟩ := takes_bind.mp takes
  obtain ⟨_, last, closing, built⟩ := takes_bind.mp closed
  obtain ⟨rfl, rfl⟩ := takes_pure.mp built
  obtain rfl := takes_expectMark.mp closing
  obtain ⟨word, rfl, returned⟩ := expressionUnless_sound read
  exact ⟨word ++ [mark ";"], by simp, SyntaxTree.fits_of_kind _ (by simp),
    by simpa using IsPhrase.returning returned⟩

theorem expressionStatement_sound (takes : Takes expressionStatement lexemes tree rest) :
    ∃ word, lexemes = word ++ rest ∧ tree.Fits rest ∧ IsPhrase .statement word [tree] := by
  obtain ⟨value, middle, read, closed⟩ := takes_bind.mp takes
  obtain ⟨_, last, closing, built⟩ := takes_bind.mp closed
  obtain ⟨rfl, rfl⟩ := takes_pure.mp built
  obtain rfl := takes_expectMark.mp closing
  obtain ⟨word, rfl, derived⟩ := expression_readsExpression _ _ _ read
  exact ⟨word ++ [mark ";"], by simp, derived.fits _, .expression derived⟩

theorem statementHere_sound (soundInner : ReadsDeclaration inner) (some : TakesSome inner)
    (front : TakesFront inner) (sound : ReadsBody statement)
    (takes : Takes (statementHere inner statement) lexemes tree rest) :
    ∃ word, lexemes = word ++ rest ∧ tree.Fits rest ∧ IsPhrase .statement word [tree] := by
  obtain ⟨count, here, counted, noted⟩ := takes_bind.mp takes
  obtain ⟨-, rfl⟩ := takes_left.mp counted
  obtain ⟨_, start, event, chosen⟩ := takes_bind.mp noted
  obtain rfl := takes_note.mp event
  rcases takes_take_eq.mp chosen with ⟨later, rfl, branch⟩ | ⟨-, chosen⟩
  · obtain ⟨word, rfl, fits, derived⟩ := ifRest_sound sound branch
    exact ⟨_ :: word, rfl, fits, derived⟩
  rcases takes_take_eq.mp chosen with ⟨later, rfl, branch⟩ | ⟨-, chosen⟩
  · obtain ⟨word, rfl, fits, derived⟩ := whileRest_sound sound branch
    exact ⟨_ :: word, rfl, fits, derived⟩
  rcases takes_take_eq.mp chosen with ⟨later, rfl, branch⟩ | ⟨-, chosen⟩
  · obtain ⟨word, rfl, fits, derived⟩ := forRest_sound sound branch
    exact ⟨_ :: word, rfl, fits, derived⟩
  rcases takes_take_eq.mp chosen with ⟨later, rfl, branch⟩ | ⟨-, chosen⟩
  · obtain ⟨word, rfl, fits, derived⟩ := returnRest_sound branch
    exact ⟨_ :: word, rfl, fits, derived⟩
  rcases takes_take_eq.mp chosen with ⟨later, rfl, branch⟩ | ⟨-, chosen⟩
  · obtain ⟨word, trees, rfl, rfl, derived⟩ := blockRest_sound soundInner some front branch
    exact ⟨mark "\x7b" :: word ++ [mark "\x7d"], by simp, SyntaxTree.fits_of_kind _ (by simp),
      .block derived⟩
  · exact expressionStatement_sound chosen

theorem anyStatement_sound (soundInner : ReadsDeclaration inner) (some : TakesSome inner)
    (front : TakesFront inner) (sound : ReadsBody statement)
    (takes : Takes (anyStatement inner statement) lexemes tree rest) :
    ∃ comments word, lexemes = comments ++ word ++ rest ∧ AllComments comments ∧
      IsPhrase .statement word [tree] ∧ tree.Fits rest := by
  obtain ⟨_, start, skipped, more⟩ := takes_bind.mp takes
  obtain ⟨comments, allComments, split⟩ := skipComments_split lexemes
  rw [← takes_skipComments.mp skipped] at split
  rw [takes_ahead] at more
  split at more
  · exact absurd more not_takes_fail
  · obtain ⟨word, rfl, fits, derived⟩ := statementHere_sound soundInner some front sound more
    exact ⟨comments, word, by simp [split], allComments, derived, fits⟩

theorem anyDeclaration_sound (soundInner : ReadsDeclaration inner) (some : TakesSome inner)
    (front : TakesFront inner) (sound : ReadsBody statement) :
    ReadsDeclaration (anyDeclaration inner statement) := by
  intro lexemes tree rest takes
  obtain ⟨_, start, skipped, choice⟩ := takes_bind.mp takes
  obtain ⟨comments, allComments, split⟩ := skipComments_split lexemes
  rw [← takes_skipComments.mp skipped] at split
  rcases takes_take.mp choice with ⟨lexeme, later, rfl, typed, declared⟩ | ⟨-, other⟩
  · obtain ⟨type, known, rfl⟩ := isKeywordIn_eq_true.mp typed
    obtain ⟨name, named, identified, more⟩ := takes_bind.mp declared
    obtain rfl := takes_expectIdentifier.mp identified
    rcases takes_take_eq.mp more with ⟨parameters, rfl, function⟩ | ⟨-, variable'⟩
    · obtain ⟨word, rfl, fits, derived⟩ :=
        functionRest_sound known soundInner some front function
      exact ⟨comments, _, by simp [split], allComments, derived, fits⟩
    · obtain ⟨value, middle, read, closed⟩ := takes_bind.mp variable'
      obtain ⟨_, last, closing, built⟩ := takes_bind.mp closed
      obtain ⟨rfl, rfl⟩ := takes_pure.mp built
      obtain rfl := takes_expectMark.mp closing
      obtain ⟨word, rfl, derived⟩ := variableRest_sound known read
      exact ⟨comments, _, by simp [split], allComments, .declared derived,
        SyntaxTree.fits_of_kind _ (by cases derived <;> simp)⟩
  · obtain ⟨skips, word, rfl, moreComments, derived, fits⟩ :=
      anyStatement_sound soundInner some front sound other
    exact ⟨comments ++ skips, word, by simp [split], allComments.append moreComments,
      .plain derived, fits⟩

theorem within_sound (levels : Nat) :
    ReadsDeclaration (declarationWithin levels) ∧ ReadsBody (statementWithin levels) := by
  induction levels with
  | zero =>
    exact ⟨fun _ _ _ takes => absurd takes not_takes_fail,
      fun _ _ _ takes => absurd takes not_takes_fail⟩
  | succ levels ih =>
    have some := declarationWithin_takesSome levels
    have front := (within_takesFront levels).1
    refine ⟨anyDeclaration_sound ih.1 some front ih.2, fun lexemes tree rest takes => ?_⟩
    obtain ⟨comments, word, rfl, allComments, derived, fits⟩ :=
      anyStatement_sound ih.1 some front ih.2 takes
    exact ⟨comments ++ word, rfl, .body allComments derived, fits⟩

/-- A program that is read is derived, and it is the whole input. -/
theorem program_sound (takes : Takes program lexemes tree rest) :
    rest = [] ∧ IsProgram lexemes tree := by
  obtain ⟨trees, middle, read, built⟩ := takes_bind.mp takes
  obtain ⟨rfl, rfl⟩ := takes_pure.mp built
  have sound : ReadsDeclaration declaration :=
    fun lexemes => (within_sound lexemes.length).1 lexemes
  obtain ⟨word, rfl, derived, ended⟩ :=
    declarations_sound (by simp) sound declaration_takesSome declaration_takesFront read
  have empty : rest = [] := List.head?_eq_none_iff.mp (of_decide_eq_true ended)
  subst empty
  exact ⟨rfl, trees, rfl, by rwa [List.append_nil]⟩

end SyntaxExplorer.Grammar
