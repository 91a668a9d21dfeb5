import SyntaxExplorer.Proofs.Grammar.Derivation

namespace SyntaxExplorer.SyntaxTree

open Grammar

/-- The precedence of a binary operator, by the level in which it stands. -/
def precedenceOf (sign : String) : Nat :=
  1 + binaryOperators.findIdx (sign ∈ ·)

/-- The precedence of what stands at the top of an expression. -/
def precedence (tree : SyntaxTree) : Nat :=
  match tree.kind with
  | .assignment => 0
  | .binary => precedenceOf tree.valueText
  | .unary => 5
  | _ => 6

/-- An expression, in which no operator has an operand that binds too loosely for it. -/
inductive IsExpressionTree : SyntaxTree → Prop
  | literal (text : String) : IsExpressionTree (.leaf .literal text)
  | identifier (name : String) : IsExpressionTree (.leaf .identifier name)
  | grouping {inner} (within : IsExpressionTree inner) :
      IsExpressionTree ⟨.grouping, none, [inner]⟩
  | unary {sign inner} (known : sign ∈ unaryOperators) (operand : IsExpressionTree inner)
      (tight : 5 ≤ inner.precedence) : IsExpressionTree ⟨.unary, some sign, [inner]⟩
  | binary {sign left right} (known : sign ∈ binaryOperators.flatten)
      (first : IsExpressionTree left) (second : IsExpressionTree right)
      (tight : precedenceOf sign ≤ left.precedence)
      (tighter : precedenceOf sign < right.precedence) :
      IsExpressionTree ⟨.binary, some sign, [left, right]⟩
  | assignment {value} (name : String) (source : IsExpressionTree value) :
      IsExpressionTree ⟨.assignment, some name, [value]⟩

/-- There is at most one tree, and it has the property. -/
def AtMostOne (holds : SyntaxTree → Prop) (trees : List SyntaxTree) : Prop :=
  trees.length ≤ 1 ∧ ∀ tree ∈ trees, holds tree

/-- A variable of one of the types, perhaps with an expression to begin with. -/
inductive IsVariableTree (types : List String) : SyntaxTree → Prop
  | plain {type} (name : String) (known : type ∈ types) :
      IsVariableTree types ⟨.variableDeclaration, some name, [.leaf .type type]⟩
  | initialized {type value} (name : String) (known : type ∈ types)
      (source : IsExpressionTree value) :
      IsVariableTree types
        ⟨.variableDeclaration, some name, [.leaf .type type, ⟨.initialization, none, [value]⟩]⟩

/-- Where a tree stands: among declarations, or under another statement. -/
inductive Role
  | declaration
  | statement

/-- A declaration or a statement with everything below it in order. A branch before an `else` does
not end in an `if` that would take the `else` itself. -/
inductive WellFormed : Role → SyntaxTree → Prop
  | header {type} (name : String) (known : type ∈ typeNames) :
      WellFormed .declaration
        ⟨.functionDeclaration, some name, [.leaf .type type, ⟨.parameters, none, []⟩]⟩
  | function {type inner} (name : String) (known : type ∈ typeNames)
      (within : ∀ tree ∈ inner, WellFormed .declaration tree) :
      WellFormed .declaration
        ⟨.functionDeclaration, some name,
          [.leaf .type type, ⟨.parameters, none, []⟩, ⟨.block, none, inner⟩]⟩
  | declared {tree} (formed : IsVariableTree typeNames tree) : WellFormed .declaration tree
  | plain {tree} (formed : WellFormed .statement tree) : WellFormed .declaration tree
  | ifThen {test yes} (asked : IsExpressionTree test) (branch : WellFormed .statement yes) :
      WellFormed .statement ⟨.ifStatement, none, [test, yes]⟩
  | ifElse {test yes no} (asked : IsExpressionTree test) (branch : WellFormed .statement yes)
      (nearest : yes.acceptsElse = false) (other : WellFormed .statement no) :
      WellFormed .statement ⟨.ifStatement, none, [test, yes, no]⟩
  | whileLoop {test body} (asked : IsExpressionTree test) (repeated : WellFormed .statement body) :
      WellFormed .statement ⟨.whileStatement, none, [test, body]⟩
  | forLoop {init test step body}
      (begins : AtMostOne (fun tree => IsVariableTree loopVariableTypes tree ∨ IsExpressionTree tree)
        init)
      (asked : AtMostOne IsExpressionTree test) (stepped : AtMostOne IsExpressionTree step)
      (repeated : WellFormed .statement body) :
      WellFormed .statement ⟨.forStatement, none, [⟨.forInit, none, init⟩,
        ⟨.forCondition, none, test⟩, ⟨.forIncrement, none, step⟩, body]⟩
  | returning {value} (returned : AtMostOne IsExpressionTree value) :
      WellFormed .statement ⟨.returnStatement, none, value⟩
  | block {inner} (within : ∀ tree ∈ inner, WellFormed .declaration tree) :
      WellFormed .statement ⟨.block, none, inner⟩
  | expression {tree} (evaluated : IsExpressionTree tree) : WellFormed .statement tree

/-- A program of well-formed declarations. -/
def IsProgramTree (tree : SyntaxTree) : Prop :=
  tree.kind = .program ∧ tree.value = none ∧ ∀ child ∈ tree.children, WellFormed .declaration child

/-- At most one tree is none or one. -/
theorem atMostOne_iff {holds : SyntaxTree → Prop} {trees : List SyntaxTree} :
    AtMostOne holds trees ↔ trees = [] ∨ ∃ tree, trees = [tree] ∧ holds tree := by
  constructor
  · intro few
    obtain ⟨short, all⟩ := few
    cases trees with
    | nil => exact Or.inl rfl
    | cons tree trees =>
      have none : trees = [] := List.length_eq_zero_iff.mp (by simpa using short)
      exact Or.inr ⟨tree, by rw [none], all tree (List.mem_cons_self ..)⟩
  · intro either
    rcases either with rfl | ⟨tree, rfl, here⟩
    · exact ⟨by simp, by simp⟩
    · exact ⟨by simp, by simpa using here⟩

end SyntaxExplorer.SyntaxTree
