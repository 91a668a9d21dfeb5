import SyntaxExplorer.Proofs.Grammar.Derivation
import SyntaxExplorer.Proofs.Grammar.Rounds

namespace SyntaxExplorer.Grammar

open Rule

/-- The rule for the expressions of a binding. -/
def reader : Binding → Rule SyntaxTree
  | .any => expression
  | .levels levels => levels.foldr binary (repeating (unary (primary expression)))
  | .closed => primary expression

theorem reader_takesFront (binding : Binding) : TakesFront (reader binding) := by
  cases binding with
  | any => exact expression_takesFront
  | closed => exact primary_takesFront expression_takesFront
  | levels levels =>
    induction levels with
    | nil => exact .repeating fun _ => unary_takesFront (primary_takesFront expression_takesFront) _
    | cons operators levels ih => exact binary_takesFront operators ih

/-- An expression of the binding ends before these lexemes. -/
def Stops (binding : Binding) (rest : List Lexeme) : Prop :=
  ∀ lexeme ∈ rest.head?, isOperatorIn binding.operators lexeme = false

theorem isOperatorIn_operator {operators : List String} {sign : String} :
    isOperatorIn operators (operator sign) = true ↔ sign ∈ operators := by
  rw [isOperatorIn, operator, decide_eq_true rfl, Bool.true_and, decide_eq_true_eq]

theorem isOperatorIn_of_kind {operators : List String} {lexeme : Lexeme}
    (other : lexeme.kind ≠ .operator) : isOperatorIn operators lexeme = false := by
  simp [isOperatorIn, other]

theorem isOperatorIn_mono {operators more : List String} {lexeme : Lexeme}
    (included : ∀ sign ∈ operators, sign ∈ more) (none : isOperatorIn more lexeme = false) :
    isOperatorIn operators lexeme = false := by
  simp only [isOperatorIn, Bool.and_eq_false_iff, decide_eq_false_iff_not] at none ⊢
  rcases none with kind | unknown
  · exact Or.inl kind
  · exact Or.inr fun known => unknown (included _ known)

theorem stops_mark (binding : Binding) (text : String) (rest : List Lexeme) :
    Stops binding (mark text :: rest) := by
  rintro _ ⟨⟩
  exact isOperatorIn_of_kind (by simp [mark])

variable {binding : Binding} {word rest : List Lexeme} {tree : SyntaxTree}

/-- What reading the word of an expression comes to. On a level it is not the end: whatever the
rest of the level makes of the tree, the rule for the level makes of the word. -/
def ReadsBack : Binding → List Lexeme → SyntaxTree → Prop
  | .levels (operators :: levels), word, tree =>
    ∀ rest result final, Stops (.levels levels) rest →
      Takes (repeating (binaryRest operators (reader (.levels levels)) · tree)) rest result final →
      Takes (reader (.levels (operators :: levels))) (word ++ rest) result final
  | binding, word, tree =>
    ∀ rest, Stops binding rest → Takes (reader binding) (word ++ rest) tree rest

theorem ReadsBack.takes (reads : ReadsBack binding word tree) (stops : Stops binding rest) :
    Takes (reader binding) (word ++ rest) tree rest := by
  match binding, reads with
  | .any, reads | .closed, reads | .levels [], reads => exact reads rest stops
  | .levels (operators :: levels), reads =>
    have tighter : Stops (.levels levels) rest := by
      intro lexeme next
      refine isOperatorIn_mono (fun sign known => ?_) (stops lexeme next)
      simp only [Binding.operators, List.flatten_cons, List.mem_append]
      exact Or.inr known
    refine reads rest tree rest tighter ?_
    rw [binaryRest_eq (reader_takesFront _), takes_take_of_not]
    · exact takes_succeed.mpr ⟨rfl, rfl⟩
    · intro lexeme next
      refine isOperatorIn_mono (fun sign known => ?_) (stops lexeme next)
      simp only [Binding.operators, List.flatten_cons, List.mem_append]
      exact Or.inl known

theorem IsExpression.closed_begins (derived : IsExpression .closed word tree) :
    ∃ first later, word = first :: later ∧ first.kind ≠ .operator := by
  cases derived with
  | number | name => exact ⟨_, _, rfl, by simp⟩
  | grouping => exact ⟨mark "(", _, rfl, by simp [mark]⟩

theorem readsBack_number (text : String) :
    ReadsBack .closed [⟨.number, text⟩] (.leaf .literal text) :=
  fun _ _ => (takes_take_of_holds rfl).mpr (takes_succeed.mpr ⟨rfl, rfl⟩)

theorem readsBack_name (text : String) :
    ReadsBack .closed [⟨.identifier, text⟩] (.leaf .identifier text) := by
  intro rest _
  refine (takes_take_of_not ?_).mpr ((takes_take_of_holds rfl).mpr (takes_succeed.mpr ⟨rfl, rfl⟩))
  rintro _ ⟨⟩
  rfl

theorem ReadsBack.grouping (reads : ReadsBack .any word tree) :
    ReadsBack .closed (mark "(" :: word ++ [mark ")"]) ⟨.grouping, none, [tree]⟩ := by
  intro rest _
  have inner : Takes expression (word ++ mark ")" :: rest) tree (mark ")" :: rest) :=
    reads.takes (stops_mark .any ")" rest)
  have closing : Takes (expectMark ")" .afterExpression) (mark ")" :: rest) () rest :=
    takes_expectMark.mpr rfl
  have opened : Takes (primary expression) (mark "(" :: (word ++ mark ")" :: rest))
      ⟨.grouping, none, [tree]⟩ rest := by
    rw [primary, takes_take_of_not (by rintro _ ⟨⟩; rfl), takes_take_of_not (by rintro _ ⟨⟩; rfl),
      takes_take_of_holds (decide_eq_true rfl)]
    exact takes_bind.mpr ⟨tree, _, inner, takes_bind.mpr ⟨(), rest, closing, takes_pure.mpr ⟨rfl, rfl⟩⟩⟩
  simpa [reader] using opened

theorem ReadsBack.operand (derived : IsExpression .closed word tree)
    (reads : ReadsBack .closed word tree) : ReadsBack (.levels []) word tree := by
  intro rest _
  obtain ⟨first, later, rfl, other⟩ := derived.closed_begins
  have front := primary_takesFront expression_takesFront
  rw [reader, List.foldr_nil, unary_eq front, takes_take_of_not]
  · exact reads rest (fun lexeme _ => by simp [Binding.operators, isOperatorIn])
  · rintro _ ⟨⟩
    exact isOperatorIn_of_kind other

theorem ReadsBack.unary {sign : String} (known : sign ∈ unaryOperators)
    (reads : ReadsBack (.levels []) word tree) :
    ReadsBack (.levels []) (operator sign :: word) ⟨.unary, some sign, [tree]⟩ := by
  intro rest stops
  have front := primary_takesFront expression_takesFront
  rw [reader, List.foldr_nil, unary_eq front, List.cons_append,
    takes_take_of_holds (isOperatorIn_operator.mpr known)]
  exact takes_bind.mpr ⟨tree, rest, reads rest stops, takes_pure.mpr ⟨rfl, rfl⟩⟩

theorem ReadsBack.tighter {operators : List String} {levels : List (List String)}
    (reads : ReadsBack (.levels levels) word tree) :
    ReadsBack (.levels (operators :: levels)) word tree :=
  fun rest _ _ stops more => takes_bind.mpr ⟨tree, rest, reads.takes stops, more⟩

/-- An operator of the level goes on where the left operand ended, since no tighter level has it. -/
theorem ReadsBack.binary {operators : List String} {levels : List (List String)} {sign : String}
    {before after : List Lexeme} {left right : SyntaxTree} (known : sign ∈ operators)
    (apart : sign ∉ levels.flatten) (first : ReadsBack (.levels (operators :: levels)) before left)
    (second : ReadsBack (.levels levels) after right) :
    ReadsBack (.levels (operators :: levels)) (before ++ operator sign :: after)
      ⟨.binary, some sign, [left, right]⟩ := by
  intro rest result final stops more
  rw [List.append_assoc, List.cons_append]
  apply first
  · rintro _ ⟨⟩
    exact Bool.eq_false_iff.mpr fun held => apart (isOperatorIn_operator.mp held)
  · rw [binaryRest_eq (reader_takesFront _), takes_take_of_holds (isOperatorIn_operator.mpr known)]
    exact takes_bind.mpr ⟨right, rest, second.takes stops, more⟩

theorem ReadsBack.operation (reads : ReadsBack (.levels binaryOperators) word tree) :
    ReadsBack .any word tree := by
  intro rest stops
  have whole : Takes (Grammar.operation expression) (word ++ rest) tree rest :=
    reads.takes fun lexeme next =>
      isOperatorIn_mono (fun _ known => List.mem_cons_of_mem _ known) (stops lexeme next)
  have noEquals : ∀ lexeme ∈ rest.head?, isOperatorIn ["="] lexeme = false :=
    fun lexeme next => isOperatorIn_mono (by simp [Binding.operators]) (stops lexeme next)
  rw [reader, expression_eq]
  exact takes_bind.mpr ⟨tree, rest, whole, takes_bind.mpr ⟨rest.length, rest,
    takes_left.mpr ⟨rfl, rfl⟩, (takes_take_of_not noEquals).mpr (takes_succeed.mpr ⟨rfl, rfl⟩)⟩⟩

theorem ReadsBack.assignment {name : String} (reads : ReadsBack .any word tree) :
    ReadsBack .any (⟨.identifier, name⟩ :: operator "=" :: word)
      ⟨.assignment, some name, [tree]⟩ := by
  intro rest stops
  have target : ReadsBack (.levels binaryOperators) [⟨.identifier, name⟩] (.leaf .identifier name) :=
    ((readsBack_name name).operand .name).tighter.tighter.tighter.tighter
  have named : Takes (Grammar.operation expression)
      (⟨.identifier, name⟩ :: operator "=" :: (word ++ rest)) (.leaf .identifier name)
      (operator "=" :: (word ++ rest)) := by
    refine target.takes ?_
    rintro _ ⟨⟩
    decide
  rw [reader, expression_eq]
  refine takes_bind.mpr ⟨_, _, named, takes_bind.mpr ⟨_, _, takes_left.mpr ⟨rfl, rfl⟩, ?_⟩⟩
  rw [takes_take_of_holds (isOperatorIn_operator.mpr (List.mem_singleton.mpr rfl))]
  exact takes_bind.mpr ⟨tree, rest, reads rest stops, takes_pure.mpr ⟨rfl, rfl⟩⟩

/-- No operator stands in two places of a binding, so each level stops at its own operators only. -/
theorem IsExpression.readsBack (derived : IsExpression binding word tree)
    (distinct : binding.operators.Nodup) : ReadsBack binding word tree := by
  have all : (Binding.operators .any).Nodup := by decide
  induction derived with
  | number => exact readsBack_number _
  | name => exact readsBack_name _
  | grouping _ ih => exact (ih all).grouping
  | operand closed ih => exact (ih List.nodup_nil).operand closed
  | unary known _ ih => exact (ih distinct).unary known
  | tighter _ ih =>
    rw [Binding.operators, List.flatten_cons, List.nodup_append] at distinct
    exact (ih distinct.2.1).tighter
  | @binary operators levels sign before after left right known _ _ ihFirst ihSecond =>
    have parts := distinct
    rw [Binding.operators, List.flatten_cons, List.nodup_append] at parts
    have apart : sign ∉ levels.flatten := fun again => parts.2.2 sign known sign again rfl
    exact .binary known apart (ihFirst distinct) (ihSecond parts.2.1)
  | operation _ ih => exact (ih (List.nodup_cons.mp all).2).operation
  | assignment _ ih => exact (ih all).assignment

/-- An expression is read up to a lexeme that is no operator of an expression. -/
theorem expression_complete (derived : IsExpression .any word tree) (stops : Stops .any rest) :
    Takes expression (word ++ rest) tree rest :=
  (derived.readsBack (by decide)).takes stops

end SyntaxExplorer.Grammar
