import SyntaxExplorer.Proofs.Grammar.Beginnings

namespace SyntaxExplorer.Grammar

open Rule

variable {word rest : List Lexeme} {tree : SyntaxTree} {trees : List SyntaxTree}

/-- An optional expression is read up to the mark that ends it. -/
theorem expressionUnless_complete {closing : String} (optional : IsOptional word trees)
    (unopened : closing ≠ "(") :
    Takes (expressionUnless closing) (word ++ mark closing :: rest) trees (mark closing :: rest) := by
  rw [expressionUnless, takes_ahead]
  cases optional with
  | absent =>
    rw [if_pos (by simp)]
    exact takes_succeed.mpr ⟨rfl, rfl⟩
  | present derived =>
    obtain ⟨first, later, rfl, begins⟩ := derived.begins
    rw [if_neg]
    · have read := expression_complete derived (stops_mark .any closing rest)
      exact takes_bind.mpr ⟨_, _, read, takes_pure.mpr ⟨rfl, rfl⟩⟩
    · intro same
      have here : first = mark closing := by simpa using same
      have opening := (kind_ne_of_beginsExpression begins).2.2 (by rw [here]; rfl)
      rw [here] at opening
      exact unopened (congrArg Lexeme.text opening)

theorem variableRest_complete {types : List String} {type name : String}
    (derived : IsVariable types (keyword type :: ⟨.identifier, name⟩ :: word) tree) :
    Takes (variableRest (keyword type) name) (word ++ mark ";" :: rest) tree (mark ";" :: rest) := by
  refine takes_bind.mpr ⟨(), _, takes_note.mpr rfl, ?_⟩
  cases derived with
  | plain =>
    rw [List.nil_append, takes_take_of_not (by rintro _ ⟨⟩; rfl)]
    exact takes_succeed.mpr ⟨rfl, rfl⟩
  | initialized known source =>
    rw [List.cons_append, takes_take_of_holds (isOperatorIn_operator.mpr (List.mem_singleton.mpr rfl))]
    have read := expression_complete source (stops_mark .any ";" rest)
    exact takes_bind.mpr ⟨_, _, read, takes_pure.mpr ⟨rfl, rfl⟩⟩

theorem IsVariable.begins {types : List String} (derived : IsVariable types word tree) :
    ∃ type name later, type ∈ types ∧ word = keyword type :: ⟨.identifier, name⟩ :: later := by
  cases derived with
  | plain known => exact ⟨_, _, [], known, rfl⟩
  | initialized known => exact ⟨_, _, _, known, rfl⟩

/-- Matched lexemes leave the count of open parentheses as it was. -/
theorem parametersRest_complete {parameters : List Lexeme} (matched : Balanced parameters)
    {opened : Nat} (takes : Takes (repeating (parametersRest · opened)) word () rest) :
    Takes (repeating (parametersRest · opened)) (parameters ++ word) () rest := by
  induction matched generalizing opened word with
  | nil => exact takes
  | @other lexeme parameters opens closes _ ih =>
    rw [List.cons_append, parametersRest_eq, takes_take_of_not, takes_take_of_not,
      takes_take_of_holds rfl]
    · exact ih takes
    · rintro _ ⟨⟩
      exact decide_eq_false closes
    · rintro _ ⟨⟩
      exact decide_eq_false opens
  | @nested inside parameters _ _ ihInside ihLater =>
    rw [List.append_assoc, List.cons_append, List.cons_append, parametersRest_eq,
      takes_take_of_holds (decide_eq_true rfl)]
    refine ihInside ?_
    rw [parametersRest_eq, takes_take_of_not (by rintro _ ⟨⟩; decide),
      takes_take_of_holds (decide_eq_true rfl)]
    exact ihLater takes

theorem parameters_complete {parameters : List Lexeme} (matched : Balanced parameters) :
    Takes (repeating (parametersRest · 0)) (parameters ++ mark ")" :: rest) () rest := by
  refine parametersRest_complete matched ?_
  rw [parametersRest_eq, takes_take_of_not (by rintro _ ⟨⟩; decide),
    takes_take_of_holds (decide_eq_true rfl)]
  exact takes_succeed.mpr ⟨rfl, rfl⟩

theorem condition_complete {opening closing : Place} {test : SyntaxTree}
    (derived : IsExpression .any word test) :
    Takes (condition opening closing) (mark "(" :: word ++ mark ")" :: rest) test rest := by
  have read := expression_complete derived (stops_mark .any ")" rest)
  exact takes_bind.mpr ⟨(), _, takes_expectMark.mpr rfl, takes_bind.mpr ⟨_, _, read,
    takes_bind.mpr ⟨(), rest, takes_expectMark.mpr rfl, takes_pure.mpr ⟨rfl, rfl⟩⟩⟩⟩

theorem forInit_complete (derived : IsForInit word trees) :
    Takes forInit (word ++ mark ";" :: rest) ⟨.forInit, none, trees⟩ rest := by
  rw [forInit]
  cases derived with
  | absent => exact (takes_take_of_holds (decide_eq_true rfl)).mpr (takes_succeed.mpr ⟨rfl, rfl⟩)
  | declared derived =>
    obtain ⟨type, name, later, known, rfl⟩ := derived.begins
    have read := @variableRest_complete later rest _ _ _ _ derived
    rw [List.cons_append, List.cons_append,
      takes_take_of_not (by rintro _ ⟨⟩; simp [mark, keyword]),
      takes_take_of_holds (isKeywordIn_keyword.mpr known)]
    exact takes_bind.mpr ⟨name, _, takes_expectIdentifier.mpr rfl, takes_bind.mpr ⟨_, _, read,
      takes_bind.mpr ⟨(), rest, takes_expectMark.mpr rfl, takes_pure.mpr ⟨rfl, rfl⟩⟩⟩⟩
  | expression derived =>
    obtain ⟨first, later, rfl, begins⟩ := derived.begins
    obtain ⟨noKeyword, -, onlyMark⟩ := kind_ne_of_beginsExpression begins
    have noSemicolon : first ≠ mark ";" := by
      rintro rfl
      simpa [mark] using onlyMark rfl
    have read := expression_complete derived (stops_mark .any ";" rest)
    rw [takes_take_of_not (by rintro _ ⟨⟩; exact decide_eq_false noSemicolon),
      takes_take_of_not (by rintro _ ⟨⟩; exact isKeywordIn_of_kind noKeyword)]
    exact takes_bind.mpr ⟨_, _, read,
      takes_bind.mpr ⟨(), rest, takes_expectMark.mpr rfl, takes_pure.mpr ⟨rfl, rfl⟩⟩⟩

end SyntaxExplorer.Grammar
