import SyntaxExplorer.Proofs.Grammar.Foresight

namespace SyntaxExplorer.Grammar

open Rule

/-- The next lexeme is a name or one of the marks that end an expression, a statement or a block. -/
def Quiet (rest : List Lexeme) : Prop :=
  ∀ lexeme ∈ rest.head?, lexeme.kind = .identifier ∨ lexeme ∈ [mark ";", mark ")", mark "\x7d"]

/-- A name like any other. -/
def someName : Lexeme :=
  ⟨.identifier, "x"⟩

variable {tail : List Lexeme} {operators : List String} {bound : Nat}
  {inner operand : Rule SyntaxTree}

theorem quiet_cons {lexeme : Lexeme}
    (known : lexeme ∈ [someName, mark ";", mark ")", mark "\x7d"]) : Quiet (lexeme :: tail) := by
  rintro _ ⟨⟩
  rcases List.mem_cons.mp known with rfl | known
  · exact .inl rfl
  · exact .inr known

theorem Quiet.kind (quiet : Quiet tail) :
    ∀ lexeme ∈ tail.head?, lexeme.kind = .identifier ∨ lexeme.kind = .punctuation := by
  intro lexeme next
  rcases quiet lexeme next with name | known
  · exact .inl name
  · simp only [List.mem_cons, List.not_mem_nil, or_false] at known
    rcases known with rfl | rfl | rfl <;> exact .inr rfl

theorem Quiet.noOperator (quiet : Quiet tail) :
    ∀ lexeme ∈ tail.head?, isOperatorIn operators lexeme = false := by
  intro lexeme next
  apply isOperatorIn_of_kind
  rcases quiet.kind lexeme next with kind | kind <;> simp [kind]

theorem primary_opens : Opens [someName] Quiet (primary inner) := by
  intro tail _
  refine ⟨.leaf .identifier "x", (takes_take_of_not ?_).mpr ?_⟩
  · rintro _ ⟨⟩
    rfl
  · exact (takes_take_of_holds rfl).mpr (takes_succeed.mpr ⟨rfl, rfl⟩)

theorem primary_eager (prompt : Prompt [someName] Quiet bound inner) :
    Eager Quiet (bound + 1) (primary inner) := by
  refine .take (fun _ => []) (fun _ => .succeed _) <| .take (fun _ => []) (fun _ => .succeed _) <|
    .take (fun _ => [someName, mark ")"]) (fun _ => ?_) (.fail _)
  exact prompt.closed (fun _ => quiet_cons (by simp)) fun _ => .pure _

/-- Signs may stand before an operand. -/
theorem unary_opens (front : TakesFront operand) (opens : Opens [someName] Quiet operand) :
    Opens [someName] Quiet (repeating (unary operand)) := by
  intro tail quiet
  obtain ⟨tree, takes⟩ := opens tail quiet
  refine ⟨tree, ?_⟩
  rw [unary_eq front, takes_take_of_not]
  · exact takes
  · rintro _ ⟨⟩
    rfl

theorem unary_eager (prompt : Prompt [someName] Quiet bound operand) (some : TakesSome operand) :
    Eager Quiet bound (repeating (unary operand)) := by
  have front := prompt.front
  refine ⟨?_, ?_⟩
  · induction bound with
    | zero => exact .zero (.repeating fun _ => unary_takesFront front _)
    | succ bound ih =>
      have within : Prompt [someName] Quiet bound (repeating (unary operand)) :=
        ⟨ih (prompt.mono (Nat.le_succ _)), unary_opens front prompt.opens⟩
      rw [unary_eq front]
      refine (Eager.take (fun _ => [someName]) (fun sign => ?_) ⟨prompt.toSteady, some⟩).toSteady
      exact within.returning
  · rw [unary_eq front]
    exact .take (fun _ => .bind (.repeating fun _ => unary_takesFront front _) fun _ => .pure _) some

theorem binaryRest_prompt (prompt : Prompt [someName] Quiet bound operand) (before : SyntaxTree) :
    Prompt [] Quiet bound (repeating (binaryRest operators operand · before)) := by
  have front := prompt.front
  have opens (before : SyntaxTree) :
      Opens [] Quiet (repeating (binaryRest operators operand · before)) := by
    intro tail quiet
    refine ⟨before, ?_⟩
    rw [binaryRest_eq front, List.nil_append, takes_take_of_not quiet.noOperator]
    exact takes_succeed.mpr ⟨rfl, rfl⟩
  refine ⟨?_, opens before⟩
  induction bound generalizing before with
  | zero => exact .zero (.repeating fun _ => binaryRest_takesFront operators front _ _)
  | succ bound ih =>
    have fewer := prompt.mono (Nat.le_succ bound)
    rw [binaryRest_eq front]
    refine (Prompt.take_succeed (fun _ => [someName]) (fun sign => ?_)
      fun _ quiet => quiet.noOperator).toSteady
    exact fewer.extended fun right => ⟨ih fewer _, opens _⟩

theorem operation_prompt (prompt : Prompt [someName] Quiet bound inner) :
    Prompt [someName] Quiet (bound + 1) (operation inner) := by
  have primaries := primary_eager prompt
  unfold operation
  induction binaryOperators with
  | nil =>
    exact ⟨(unary_eager ⟨primaries.toSteady, primary_opens⟩ primaries.some).toSteady,
      unary_opens primaries.front primary_opens⟩
  | cons operators levels ih =>
    exact ih.extended fun first => binaryRest_prompt ih first

section Assignment

/-- What stands behind a target that is no name. -/
def misplaced (inner : Rule SyntaxTree) (target : SyntaxTree) : Rule SyntaxTree := do
  let left ← left
  take (isOperatorIn ["="])
    (fun _ => do
      let _ ← inner
      failAt left .invalidAssignmentTarget)
    (succeed target)

variable {target tree : SyntaxTree} {lexemes rest : List Lexeme} {fault : Fault}

theorem takes_misplaced : Takes (misplaced inner target) lexemes tree rest ↔
    (∀ lexeme ∈ lexemes.head?, isOperatorIn ["="] lexeme = false) ∧ tree = target ∧
      rest = lexemes := by
  simp [misplaced, takes_bind, takes_take, and_assoc]

theorem fails_misplaced : Fails (misplaced inner target) lexemes fault rest ↔
    ∃ lexeme later, lexemes = lexeme :: later ∧ isOperatorIn ["="] lexeme = true ∧
      (Fails inner later fault rest ∨ (∃ value, Takes inner later value rest) ∧
        fault = ⟨.invalidAssignmentTarget, lexemes.length⟩) := by
  simp [misplaced, fails_bind, fails_take, and_assoc]

/-- It fails behind the equals sign only. -/
theorem equals_of_fails {read : List Lexeme} (front : TakesFront inner)
    (fails : Fails (misplaced inner target) (read ++ rest) fault rest) :
    ∃ lexeme late, read = lexeme :: late ∧ isOperatorIn ["="] lexeme = true ∧
      (Fails inner (late ++ rest) fault rest ∨ (∃ value, Takes inner (late ++ rest) value rest) ∧
        fault = ⟨.invalidAssignmentTarget, read.length + rest.length⟩) := by
  obtain ⟨lexeme, later, whole, equals, reason⟩ := fails_misplaced.mp fails
  cases read with
  | nil =>
    obtain rfl : rest = lexeme :: later := whole
    have shorter : (lexeme :: later).length ≤ later.length := by
      rcases reason with fails | ⟨⟨value, takes⟩, -⟩
      · exact (front.suffix_of_fails fails).length_le
      · exact (front.suffix takes).length_le
    exact absurd shorter (Nat.not_succ_le_self _)
  | cons first late =>
    obtain ⟨rfl, rfl⟩ := List.cons.inj whole
    rw [List.length_append] at reason
    exact ⟨first, late, rfl, equals, reason⟩

theorem misplaced_prompt (prompt : Prompt [someName] Quiet bound inner) (target : SyntaxTree) :
    Prompt [] Quiet (bound + 1) (misplaced inner target) where
  front := .bind .left fun _ =>
    .take (fun _ => .bind prompt.front fun _ => .failAt _ _) (.succeed target)
  keeps {read rest tree later} _ takes next := by
    obtain ⟨no, rfl, whole⟩ := takes_misplaced.mp takes
    obtain rfl : read = [] := by simpa using whole
    refine takes_misplaced.mpr ⟨?_, rfl, rfl⟩
    rcases next with same | quiet
    · rwa [List.nil_append, same]
    · exact quiet.noOperator
  again {read rest fault} less fails := by
    obtain ⟨lexeme, late, rfl, equals, fails | ⟨⟨value, takes⟩, rfl⟩⟩ :=
      equals_of_fails prompt.front fails
    · obtain ⟨back, left, same⟩ := prompt.again (Nat.lt_of_succ_lt_succ less) fails
      exact ⟨back, left, fun later next =>
        fails_misplaced.mpr ⟨lexeme, late ++ later, rfl, equals, .inl (same later next)⟩⟩
    · refine ⟨(lexeme :: late).length, rfl, fun later next => fails_misplaced.mpr ?_⟩
      have still := prompt.keeps (Nat.lt_of_succ_lt_succ less) takes (.inl next)
      refine ⟨lexeme, late ++ later, rfl, equals, .inr ⟨⟨value, still⟩, ?_⟩⟩
      rw [List.length_append]
  resumes {read rest fault} _ less fails := by
    obtain ⟨lexeme, late, rfl, equals, fails | ⟨-, rfl⟩⟩ := equals_of_fails prompt.front fails
    · -- Once the expression is completed, the target is at fault.
      have finish {word tail : List Lexeme} (finishes : Finishes inner word tail) :
          Finishes (misplaced inner target) (lexeme :: word) tail := by
        rcases finishes with ⟨value, takes⟩ | ⟨left, stopped, fails⟩
        · exact .inr ⟨_, tail, fails_misplaced.mpr
            ⟨lexeme, word, rfl, equals, .inr ⟨⟨value, takes⟩, rfl⟩⟩⟩
        · exact .inr ⟨left, stopped, fails_misplaced.mpr ⟨lexeme, word, rfl, equals, .inl fails⟩⟩
      by_cases none : late = []
      · subst none
        exact .inr ⟨[someName], fun tail quiet => finish (.inl (prompt.opens tail quiet))⟩
      · rcases prompt.resumes none (Nat.lt_of_succ_lt_succ less) fails with
          target | ⟨more, finishes⟩
        · exact .inl target
        · exact .inr ⟨more, fun tail quiet => finish (finishes tail quiet)⟩
    · exact .inl rfl
  opens tail quiet := ⟨target, takes_misplaced.mpr ⟨quiet.noOperator, rfl, rfl⟩⟩

end Assignment

/-- Behind a target an equals sign is taken with an expression. If the target is no name, that is told
only when the expression has been read. -/
theorem assignmentRest_prompt (prompt : Prompt [someName] Quiet bound inner) (target : SyntaxTree) :
    Prompt [] Quiet (bound + 1) (do
      let left ← left
      take (isOperatorIn ["="])
        (fun _ => do
          let value ← inner
          if target.kind = .identifier then return ⟨.assignment, target.value, [value]⟩
          else failAt left .invalidAssignmentTarget)
        (succeed target)) := by
  by_cases named : target.kind = .identifier
  · simp only [if_pos named]
    refine Prompt.counted (.take_succeed (fun _ => [someName]) (fun _ => ?_)
      fun _ quiet => quiet.noOperator)
    exact prompt.returning
  · simp only [if_neg named]
    exact misplaced_prompt prompt target

theorem someName_isExpression : IsExpression .any [someName] (.leaf .identifier "x") :=
  .operation (.tighter (.tighter (.tighter (.tighter (.operand .name)))))

theorem expression_opens : Opens [someName] Quiet expression :=
  fun _ quiet => ⟨_, expression_complete someName_isExpression quiet.noOperator⟩

theorem expression_prompt (bound : Nat) : Prompt [someName] Quiet bound expression := by
  refine ⟨?_, expression_opens⟩
  induction bound with
  | zero => exact .zero expression_takesFront
  | succ bound ih =>
    have within : Prompt [someName] Quiet bound expression := ⟨ih, expression_opens⟩
    rw [expression_eq]
    exact ((operation_prompt within).extended (assignmentRest_prompt within)).toSteady

end SyntaxExplorer.Grammar
