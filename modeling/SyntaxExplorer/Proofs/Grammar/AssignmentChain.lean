import SyntaxExplorer.Proofs.Grammar.Concatenation
import SyntaxExplorer.Proofs.Grammar.Relocation

namespace SyntaxExplorer

open Grammar Rule

/-- The tokens are an operation, which is all but an assignment, and it is read from them to the last
one. -/
def IsOperation (tokens : List Token) (tree : SyntaxTree) : Prop :=
  Takes (operation expression) (tokens.map Token.toLexeme) tree []

theorem isOperation_iff {tokens : List Token} {tree : SyntaxTree} :
    IsOperation tokens tree ↔
      IsExpression (.levels binaryOperators) (tokens.map Token.toLexeme) tree := by
  constructor
  · intro takes
    obtain ⟨word, whole, derived⟩ := operation_readsExpression expression_readsExpression _ _ _ takes
    rwa [whole, List.append_nil]
  · intro derived
    have stops : Stops (.levels binaryOperators) [] := nofun
    have takes := (derived.readsBack (by decide)).takes stops
    rwa [List.append_nil] at takes

/-- What stands before an equals sign, and the sign itself. -/
structure Target where
  operand : List Token
  equals : Token

namespace Target

variable {target : Target} {targets : List Target}

/-- The name that the target consists of. A name in parentheses does not count. -/
def name? (target : Target) : Option String :=
  match target.operand with
  | [token] => if token.kind = .identifier then some token.text else none
  | _ => none

/-- The operand is an operation, and an equals sign is behind it. -/
structure IsTarget (target : Target) : Prop where
  operand : ∃ tree, IsOperation target.operand tree
  equals : target.equals.toLexeme = operator "="

/-- The last target that is no name. -/
def misplaced? (targets : List Target) : Option Target :=
  targets.reverse.find? (·.name?.isNone)

/-- The tokens of the targets one behind the other, and of the value at the end. -/
def chain (targets : List Target) (source : List Token) : List Token :=
  targets.flatMap (fun target => target.operand ++ [target.equals]) ++ source

/-- The value is assigned to the last target, that assignment to the one before, and so on. -/
def assigned (targets : List Target) (value : SyntaxTree) : SyntaxTree :=
  targets.foldr (fun target value => ⟨.assignment, target.name?, [value]⟩) value

theorem name?_eq_some {name : String}
    (named : target.operand.map Token.toLexeme = [⟨.identifier, name⟩]) :
    target.name? = some name := by
  obtain ⟨operand, equals⟩ := target
  obtain ⟨⟨lexeme, location⟩, rfl, rfl⟩ := List.map_eq_singleton_iff.mp named
  rfl

theorem operand_of_name? {name : String} (named : target.name? = some name) :
    target.operand.map Token.toLexeme = [⟨.identifier, name⟩] := by
  rw [name?] at named
  split at named
  · rename_i token alone
    split at named
    · rename_i kind
      rw [alone, ← Option.some.inj named, ← kind]
      rfl
    · cases named
  · cases named

theorem chain_cons (target : Target) (targets : List Target) (source : List Token) :
    chain (target :: targets) source = target.operand ++ target.equals :: chain targets source := by
  simp [chain]

theorem misplaced?_cons (target : Target) (targets : List Target) :
    misplaced? (target :: targets) =
      (misplaced? targets).or (if target.name?.isNone then some target else none) := by
  rw [misplaced?, List.reverse_cons, List.find?_append, List.find?_singleton]
  rfl

end Target

namespace Grammar

open Target

variable {word : List Lexeme} {tree value : SyntaxTree} {target : Target} {targets : List Target}
  {source rest : List Token} {fault : Fault} {last : List Lexeme}

theorem stops_operator_equals (later : List Lexeme) :
    Stops (.levels binaryOperators) (operator "=" :: later) := by
  rintro _ ⟨⟩
  decide

/-- The operand is read up to the equals sign, and what is behind that is read before the operand is
judged. -/
theorem fails_assignment (derived : IsExpression (.levels binaryOperators) word tree)
    (later : List Lexeme) :
    Fails expression (word ++ operator "=" :: later) fault last ↔
      Fails (do
        let value ← expression
        if tree.kind = .identifier then return (⟨.assignment, tree.value, [value]⟩ : SyntaxTree)
        else failAt (later.length + 1) .invalidAssignmentTarget) later fault last := by
  have read : Takes (operation expression) (word ++ operator "=" :: later) tree
      (operator "=" :: later) :=
    (derived.readsBack (by decide)).takes (stops_operator_equals later)
  have sign : isOperatorIn ["="] (operator "=") = true :=
    isOperatorIn_operator.mpr (List.mem_singleton.mpr rfl)
  have counted : Takes left (operator "=" :: later) (later.length + 1) (operator "=" :: later) :=
    takes_left.mpr ⟨rfl, rfl⟩
  calc Fails expression (word ++ operator "=" :: later) fault last
      ↔ Fails (assignment expression) (word ++ operator "=" :: later) fault last := by
        rw [← expression_eq]
    _ ↔ _ := by
        rw [assignment, fails_bind_of_takes read, fails_bind_of_takes counted,
          fails_take_of_holds sign]

/-- What goes wrong behind an equals sign has gone wrong before the target is judged. -/
theorem fails_behind_equals (derived : IsExpression (.levels binaryOperators) word tree)
    {later : List Lexeme} (fails : Fails expression later fault last) :
    Fails expression (word ++ operator "=" :: later) fault last :=
  (fails_assignment derived later).mpr (fails_bind.mpr (.inl fails))

/-- A target that is no name is at fault once its value has been read, at its equals sign. -/
theorem fails_at_equals (derived : IsExpression (.levels binaryOperators) word tree)
    (other : tree.kind ≠ .identifier) {later : List Lexeme}
    (takes : Takes expression later value last) :
    Fails expression (word ++ operator "=" :: later)
      ⟨.invalidAssignmentTarget, later.length + 1⟩ last := by
  refine (fails_assignment derived later).mpr (fails_bind.mpr (.inr ⟨value, last, takes, ?_⟩))
  rw [if_neg other]
  exact fails_failAt.mpr ⟨rfl, rfl⟩

/-- A chain in which all targets are names is an expression. -/
theorem isExpression_chain (all : ∀ target ∈ targets, target.IsTarget)
    (final : IsExpression (.levels binaryOperators) (source.map Token.toLexeme) value)
    (named : misplaced? targets = none) :
    IsExpression .any ((chain targets source).map Token.toLexeme) (assigned targets value) := by
  induction targets with
  | nil => exact .operation final
  | cons target targets ih =>
    obtain ⟨first, others⟩ := List.forall_mem_cons.mp all
    rw [misplaced?_cons, Option.or_eq_none_iff] at named
    cases name : target.name? with
    | none =>
      rw [name] at named
      cases named.2
    | some text =>
      have source := ih others named.1
      have here : assigned (target :: targets) value =
          ⟨.assignment, some text, [assigned targets value]⟩ := by
        rw [← name]
        rfl
      rw [chain_cons, List.map_append, List.map_cons, operand_of_name? name, first.equals, here]
      exact .assignment source

/-- The last target that is no name is at fault, at its equals sign. -/
theorem fails_chain (all : ∀ target ∈ targets, target.IsTarget)
    (final : IsExpression (.levels binaryOperators) (source.map Token.toLexeme) value)
    (stops : Stops .any (rest.map Token.toLexeme)) (wrong : misplaced? targets = some target) :
    ∃ before after last, chain targets source ++ rest = before ++ target.equals :: after ∧
      Fails expression ((chain targets source ++ rest).map Token.toLexeme)
        ⟨.invalidAssignmentTarget, after.length + 1⟩ last := by
  induction targets with
  | nil => cases wrong
  | cons first targets ih =>
    obtain ⟨⟨⟨tree, read⟩, equals⟩, others⟩ := List.forall_mem_cons.mp all
    have derived := isOperation_iff.mp read
    have word : (chain (first :: targets) source ++ rest).map Token.toLexeme =
        first.operand.map Token.toLexeme ++
          operator "=" :: (chain targets source ++ rest).map Token.toLexeme := by
      rw [chain_cons, List.append_assoc, List.map_append, List.cons_append, List.map_cons, equals]
    rw [word, chain_cons]
    rw [misplaced?_cons] at wrong
    cases later : misplaced? targets with
    | some worse =>
      rw [later, Option.some_or] at wrong
      obtain rfl := Option.some.inj wrong
      obtain ⟨before, after, last, split, fails⟩ := ih others later
      refine ⟨first.operand ++ first.equals :: before, after, last, ?_, ?_⟩
      · rw [List.append_assoc, List.cons_append, split, List.append_assoc, List.cons_append]
      · exact fails_behind_equals derived fails
    | none =>
      rw [later, Option.none_or] at wrong
      split at wrong
      · rename_i nameless
        obtain rfl := Option.some.inj wrong
        have other : tree.kind ≠ .identifier := by
          intro kind
          obtain ⟨name, alone, -⟩ := derived.eq_name kind
          rw [name?_eq_some alone] at nameless
          cases nameless
        have read := expression_complete (isExpression_chain others final later) stops
        rw [← List.map_append] at read
        refine ⟨first.operand, chain targets source ++ rest, rest.map Token.toLexeme, ?_, ?_⟩
        · rw [List.append_assoc, List.cons_append]
        · have fails := fails_at_equals derived other read
          rwa [List.length_map] at fails
      · cases wrong

/-- A statement that begins like an expression fails as that expression does. -/
theorem fails_statement_of_expression {first : Lexeme} {later : List Lexeme}
    (begins : beginsExpression first = true) (fails : Fails expression (first :: later) fault last) :
    Fails (statementHere declaration statement) (first :: later) fault last := by
  obtain ⟨noKeyword, -, onlyMark⟩ := kind_ne_of_beginsExpression begins
  have noWord (text : String) : ∀ lexeme ∈ (first :: later).head?,
      decide (lexeme = keyword text) = false := by
    rintro _ ⟨⟩
    exact decide_eq_false fun same => noKeyword (same ▸ rfl)
  have noBrace : ∀ lexeme ∈ (first :: later).head?, decide (lexeme = mark "\x7b") = false := by
    rintro _ ⟨⟩
    refine decide_eq_false ?_
    rintro rfl
    simpa [mark] using onlyMark rfl
  have counted : Takes left (first :: later) (later.length + 1) (first :: later) :=
    takes_left.mpr ⟨rfl, rfl⟩
  have noted : Takes (note (.statement (later.length + 1))) (first :: later) () (first :: later) :=
    takes_note.mpr rfl
  rw [statementHere, fails_bind_of_takes counted, fails_bind_of_takes noted,
    fails_take_of_not (noWord "if"), fails_take_of_not (noWord "while"),
    fails_take_of_not (noWord "for"), fails_take_of_not (noWord "return"), fails_take_of_not noBrace]
  exact fails_bind.mpr (.inl fails)

/-- A program fails as its first statement does. -/
theorem fails_program_of_statement {first : Lexeme} {later : List Lexeme}
    (begins : beginsStatement first = true)
    (fails : Fails (statementHere declaration statement) (first :: later) fault last) :
    Fails program (first :: later) fault last := by
  obtain ⟨noComment, noType, -⟩ := kind_of_beginsStatement begins
  have here : Takes skipComments (first :: later) () (first :: later) :=
    takes_skipComments.mpr (List.dropWhile_cons_of_neg (by simpa using noComment)).symm
  have present : ¬ decide ((first :: later).head? = none) = true := by
    simp
  have first_fails : Fails declaration (first :: later) fault last := by
    rw [declaration_eq, anyDeclaration, fails_bind_of_takes here,
      fails_take_of_not (by rintro _ ⟨⟩; exact noType), anyStatement, fails_bind_of_takes here,
      fails_ahead, if_neg present]
    exact fails
  rw [fails_program, allDeclarations_eq, fails_bind_of_takes here, fails_ahead, if_neg present]
  exact fails_bind.mpr (.inl first_fails)

theorem chain_begins (all : ∀ target ∈ targets, target.IsTarget)
    (final : IsExpression (.levels binaryOperators) (source.map Token.toLexeme) value)
    (rest : List Token) :
    ∃ first later, (chain targets source ++ rest).map Token.toLexeme = first :: later ∧
      beginsExpression first = true := by
  have front : ∃ word tree behind, IsExpression (.levels binaryOperators) word tree ∧
      (chain targets source).map Token.toLexeme = word ++ behind := by
    cases targets with
    | nil => exact ⟨_, value, [], final, (List.append_nil _).symm⟩
    | cons target targets =>
      obtain ⟨tree, read⟩ := (all target List.mem_cons_self).operand
      exact ⟨_, tree, _, isOperation_iff.mp read, by rw [chain_cons, List.map_append]⟩
  obtain ⟨word, tree, behind, derived, whole⟩ := front
  obtain ⟨first, later, rfl, begins⟩ := derived.begins
  refine ⟨first, later ++ behind ++ rest.map Token.toLexeme, ?_, begins⟩
  rw [List.map_append, whole, List.append_assoc, List.cons_append, List.append_assoc]

/-- A program that begins with a chain whose operands are not all names fails in the chain. -/
theorem fails_program_chain (all : ∀ target ∈ targets, target.IsTarget)
    (final : IsExpression (.levels binaryOperators) (source.map Token.toLexeme) value)
    (stops : Stops .any (rest.map Token.toLexeme)) (wrong : misplaced? targets = some target) :
    ∃ before after last, chain targets source ++ rest = before ++ target.equals :: after ∧
      Fails program ((chain targets source ++ rest).map Token.toLexeme)
        ⟨.invalidAssignmentTarget, after.length + 1⟩ last := by
  obtain ⟨before, after, last, split, fails⟩ := fails_chain all final stops wrong
  obtain ⟨first, later, whole, begins⟩ := chain_begins all final rest
  rw [whole] at fails ⊢
  have statement := fails_statement_of_expression begins fails
  have opens : beginsStatement first = true := by
    simp [beginsStatement, begins]
  exact ⟨before, after, last, split, fails_program_of_statement opens statement⟩

end Grammar

open Target Parsing

/-- A chain of assignments as a statement. If all targets are names, it is read as assignments that are
nested to the right, and what is behind it as if it stood alone. Otherwise the error is at the equals sign
behind the last target that is no name, whatever is behind the semicolon. -/
theorem parse_assignmentChain {targets : List Target} {source : List Token} {value : SyntaxTree}
    {semicolon : Token} (all : ∀ target ∈ targets, target.IsTarget)
    (final : IsOperation source value) (ends : semicolon.toLexeme = mark ";") (rest : List Token) :
    (misplaced? targets = none → ∀ trees, parse rest = .ok ⟨.program, none, trees⟩ →
      parse (chain targets source ++ semicolon :: rest) =
        .ok ⟨.program, none, assigned targets value :: trees⟩) ∧
    ∀ target, misplaced? targets = some target →
      parse (chain targets source ++ semicolon :: rest) =
        .error ⟨.invalidAssignmentTarget, target.equals.location⟩ := by
  have derived := isOperation_iff.mp final
  constructor
  · intro named trees read
    obtain ⟨_, ⟨⟩, others⟩ := (parse_eq_ok_iff_isProgram rest _).mp read
    have whole := isExpression_chain all derived named
    have apart : (assigned targets value).isHeader = false :=
      SyntaxTree.isHeader_of_kind (whole.kind_ne (by decide))
    have program := IsPhrase.next .nil (.plain (.expression whole)) others
      fun bare => by rw [apart] at bare; cases bare
    rw [parse_eq_ok_iff_isProgram]
    refine ⟨_, rfl, ?_⟩
    rw [List.map_append, List.map_cons, ends]
    simpa using program
  · intro target wrong
    have stops : Stops .any ((semicolon :: rest).map Token.toLexeme) := by
      rw [List.map_cons, ends]
      exact stops_mark .any ";" _
    obtain ⟨before, after, last, split, fails⟩ := fails_program_chain all derived stops wrong
    rw [parse_of_fails fails, split]
    exact congrArg Except.error (locate_of_tokenAt tokenAt_cons)

/-- What is closed in itself is an operation. -/
theorem Grammar.IsExpression.asOperation {word : List Lexeme} {tree : SyntaxTree}
    (derived : IsExpression .closed word tree) : IsExpression (.levels binaryOperators) word tree :=
  .tighter (.tighter (.tighter (.tighter (.operand derived))))

/-- The target `a`, in parentheses or not, at the start of a line. -/
def bareTarget (line : Nat) : Target :=
  ⟨[⟨⟨.identifier, "a"⟩, ⟨line, 1⟩⟩], ⟨operator "=", ⟨line, 3⟩⟩⟩

def groupedTarget (line : Nat) : Target :=
  ⟨[⟨mark "(", ⟨line, 1⟩⟩, ⟨⟨.identifier, "a"⟩, ⟨line, 2⟩⟩, ⟨mark ")", ⟨line, 3⟩⟩],
    ⟨operator "=", ⟨line, 5⟩⟩⟩

/-- Of two targets in parentheses the last one is at fault, and without parentheses none is. -/
theorem parse_assignmentChain_grouped :
    let source : List Token := [⟨⟨.number, "5"⟩, ⟨9, 1⟩⟩]
    let semicolon : Token := ⟨mark ";", ⟨9, 2⟩⟩
    let wrong : List Target := [groupedTarget 1, bareTarget 2, groupedTarget 3, bareTarget 4]
    (∀ target ∈ wrong, target.IsTarget) ∧
      parse (chain wrong source ++ [semicolon]) = .error ⟨.invalidAssignmentTarget, ⟨3, 5⟩⟩ ∧
      parse (chain [bareTarget 1, bareTarget 2] source ++ [semicolon]) =
        .ok ⟨.program, none, [⟨.assignment, some "a", [⟨.assignment, some "a", [
          .leaf .literal "5"]⟩]⟩]⟩ := by
  intro source semicolon wrong
  have name : IsExpression .closed [⟨.identifier, "a"⟩] (.leaf .identifier "a") := .name
  have bare (line : Nat) : (bareTarget line).IsTarget :=
    ⟨⟨_, isOperation_iff.mpr name.asOperation⟩, rfl⟩
  have grouped (line : Nat) : (groupedTarget line).IsTarget :=
    ⟨⟨_, isOperation_iff.mpr (IsExpression.grouping (.operation name.asOperation)).asOperation⟩, rfl⟩
  have all : ∀ target ∈ wrong, target.IsTarget := by
    simp [wrong, bare, grouped]
  have named : ∀ target ∈ [bareTarget 1, bareTarget 2], target.IsTarget := by
    simp [bare]
  have final : IsOperation source (.leaf .literal "5") :=
    isOperation_iff.mpr IsExpression.number.asOperation
  have ends : semicolon.toLexeme = mark ";" := rfl
  obtain ⟨-, fails⟩ := parse_assignmentChain all final ends []
  obtain ⟨reads, -⟩ := parse_assignmentChain named final ends []
  exact ⟨all, fails (groupedTarget 3) rfl, reads rfl [] rfl⟩

end SyntaxExplorer
