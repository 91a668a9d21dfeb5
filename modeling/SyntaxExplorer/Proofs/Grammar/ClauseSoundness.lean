import SyntaxExplorer.Proofs.Grammar.ExpressionSoundness

namespace SyntaxExplorer.Grammar

open Rule

variable {lexemes rest : List Lexeme} {tree : SyntaxTree} {trees : List SyntaxTree}

theorem IsExpression.fits {binding : Binding} {word : List Lexeme}
    (derived : IsExpression binding word tree) (rest : List Lexeme) : tree.Fits rest := by
  apply SyntaxTree.fits_of_kind
  simp only [List.mem_cons, List.not_mem_nil, or_false, not_or]
  exact ⟨derived.kind_ne (by decide), derived.kind_ne (by decide), derived.kind_ne (by decide),
    derived.kind_ne (by decide)⟩

theorem expressionUnless_sound {closing : String}
    (takes : Takes (expressionUnless closing) lexemes trees rest) :
    ∃ word, lexemes = word ++ rest ∧ IsOptional word trees := by
  rw [expressionUnless, takes_ahead] at takes
  split at takes
  · obtain ⟨rfl, rfl⟩ := takes_succeed.mp takes
    exact ⟨[], rfl, .absent⟩
  · obtain ⟨tree, middle, read, built⟩ := takes_bind.mp takes
    obtain ⟨rfl, rfl⟩ := takes_pure.mp built
    obtain ⟨word, same, derived⟩ := expression_readsExpression _ _ _ read
    exact ⟨word, same, .present derived⟩

theorem variableRest_sound {types : List String} {type name : String} (known : type ∈ types)
    (takes : Takes (variableRest (keyword type) name) lexemes tree rest) :
    ∃ word, lexemes = word ++ rest ∧
      IsVariable types (keyword type :: ⟨.identifier, name⟩ :: word) tree := by
  obtain ⟨_, start, noted, declared⟩ := takes_bind.mp takes
  obtain rfl := takes_note.mp noted
  rcases takes_take.mp declared with ⟨lexeme, later, rfl, signed, assigned⟩ | ⟨-, ended⟩
  · obtain ⟨sign, member, rfl⟩ := isOperatorIn_eq_true.mp signed
    obtain rfl := List.mem_singleton.mp member
    obtain ⟨value, middle, read, built⟩ := takes_bind.mp assigned
    obtain ⟨rfl, rfl⟩ := takes_pure.mp built
    obtain ⟨word, rfl, derived⟩ := expression_readsExpression _ _ _ read
    exact ⟨operator "=" :: word, rfl, .initialized known derived⟩
  · obtain ⟨rfl, rfl⟩ := takes_succeed.mp ended
    exact ⟨[], rfl, .plain known⟩

/-- Lexemes that close so many parentheses which were opened before, but not one more. -/
def Closes : Nat → List Lexeme → Prop
  | 0, word => Balanced word
  | opened + 1, word =>
    ∃ inside later, word = inside ++ mark ")" :: later ∧ Balanced inside ∧ Closes opened later

theorem Closes.other {opened : Nat} {word : List Lexeme} {lexeme : Lexeme}
    (opens : lexeme ≠ mark "(") (closes : lexeme ≠ mark ")") (closed : Closes opened word) :
    Closes opened (lexeme :: word) := by
  cases opened with
  | zero => exact Balanced.other opens closes closed
  | succ opened =>
    obtain ⟨inside, later, rfl, balanced, rest⟩ := closed
    exact ⟨lexeme :: inside, later, rfl, balanced.other opens closes, rest⟩

theorem Closes.nested {opened : Nat} {word : List Lexeme} (closed : Closes (opened + 1) word) :
    Closes opened (mark "(" :: word) := by
  obtain ⟨inside, later, rfl, balanced, rest⟩ := closed
  cases opened with
  | zero => exact Balanced.nested balanced rest
  | succ opened =>
    obtain ⟨inside', later', rfl, balanced', rest'⟩ := rest
    exact ⟨mark "(" :: inside ++ mark ")" :: inside', later', by simp, balanced.nested balanced', rest'⟩

theorem parametersRest_sound {rounds opened : Nat} {done : Unit}
    (takes : Takes (parametersRest rounds opened) lexemes done rest) :
    ∃ word, lexemes = word ++ mark ")" :: rest ∧ Closes opened word := by
  induction rounds generalizing opened lexemes with
  | zero => exact absurd takes not_takes_fail
  | succ rounds ih =>
    rcases takes_take_eq.mp takes with ⟨later, rfl, more⟩ | ⟨opens, choice⟩
    · obtain ⟨word, rfl, closed⟩ := ih more
      exact ⟨mark "(" :: word, rfl, closed.nested⟩
    rcases takes_take_eq.mp choice with ⟨later, rfl, more⟩ | ⟨closes, choice⟩
    · cases opened with
      | zero =>
        obtain ⟨-, rfl⟩ := takes_succeed.mp more
        exact ⟨[], rfl, .nil⟩
      | succ opened =>
        obtain ⟨word, rfl, closed⟩ := ih more
        exact ⟨mark ")" :: word, rfl, [], word, rfl, .nil, closed⟩
    rcases takes_take.mp choice with ⟨lexeme, later, rfl, -, more⟩ | ⟨-, failed⟩
    · obtain ⟨word, rfl, closed⟩ := ih more
      exact ⟨lexeme :: word, rfl,
        closed.other (fun same => opens (by rw [same]; rfl)) fun same => closes (by rw [same]; rfl)⟩
    · exact absurd failed not_takes_fail

theorem condition_sound {opening closing : Place} {test : SyntaxTree}
    (takes : Takes (condition opening closing) lexemes test rest) :
    ∃ word, lexemes = mark "(" :: word ++ mark ")" :: rest ∧ IsExpression .any word test := by
  obtain ⟨_, start, opened, more⟩ := takes_bind.mp takes
  obtain ⟨inner, middle, read, closed⟩ := takes_bind.mp more
  obtain ⟨_, last, closing, built⟩ := takes_bind.mp closed
  obtain ⟨rfl, rfl⟩ := takes_pure.mp built
  obtain rfl := takes_expectMark.mp opened
  obtain rfl := takes_expectMark.mp closing
  obtain ⟨word, rfl, derived⟩ := expression_readsExpression _ _ _ read
  exact ⟨word, rfl, derived⟩

theorem forInit_sound (takes : Takes forInit lexemes tree rest) :
    ∃ word trees, lexemes = word ++ mark ";" :: rest ∧ tree = ⟨.forInit, none, trees⟩ ∧
      IsForInit word trees := by
  rcases takes_take_eq.mp takes with ⟨later, rfl, ended⟩ | ⟨-, choice⟩
  · obtain ⟨rfl, rfl⟩ := takes_succeed.mp ended
    exact ⟨[], [], rfl, rfl, .absent⟩
  rcases takes_take.mp choice with ⟨lexeme, later, rfl, typed, declared⟩ | ⟨-, begun⟩
  · obtain ⟨type, known, rfl⟩ := isKeywordIn_eq_true.mp typed
    obtain ⟨name, start, named, more⟩ := takes_bind.mp declared
    obtain rfl := takes_expectIdentifier.mp named
    obtain ⟨variable', middle, read, closed⟩ := takes_bind.mp more
    obtain ⟨_, last, closing, built⟩ := takes_bind.mp closed
    obtain ⟨rfl, rfl⟩ := takes_pure.mp built
    obtain rfl := takes_expectMark.mp closing
    obtain ⟨word, rfl, derived⟩ := variableRest_sound known read
    exact ⟨keyword type :: ⟨.identifier, name⟩ :: word, [variable'], rfl, rfl, .declared derived⟩
  · obtain ⟨first, middle, read, closed⟩ := takes_bind.mp begun
    obtain ⟨_, last, closing, built⟩ := takes_bind.mp closed
    obtain ⟨rfl, rfl⟩ := takes_pure.mp built
    obtain rfl := takes_expectMark.mp closing
    obtain ⟨word, rfl, derived⟩ := expression_readsExpression _ _ _ read
    exact ⟨word, [first], rfl, rfl, .expression derived⟩

end SyntaxExplorer.Grammar
