import Mathlib.Data.List.Perm.Basic
import Mathlib.Logic.Relation
import SyntaxExplorer.Proofs.Grammar.Accounts
import SyntaxExplorer.Proofs.Tree.LoopNesting

namespace SyntaxExplorer

namespace SyntaxTree

/-- The children of one node, anywhere in the tree, are put into another order. -/
inductive Rearranges : SyntaxTree → SyntaxTree → Prop
  | here {kind value children others} (permuted : children.Perm others) :
      Rearranges ⟨kind, value, children⟩ ⟨kind, value, others⟩
  | within {kind value before behind child other} (inside : Rearranges child other) :
      Rearranges ⟨kind, value, before ++ child :: behind⟩ ⟨kind, value, before ++ other :: behind⟩

variable {one two : SyntaxTree}

/-- What combines the results of the children in any order is the same for rearranged trees. -/
theorem Rearranges.fold_eq {α : Type} {combine : NodeKind → Option String → List α → α}
    (unordered : ∀ kind value results others, results.Perm others →
      combine kind value results = combine kind value others)
    (step : Rearranges one two) : fold combine one = fold combine two := by
  induction step with
  | here permuted =>
    rw [fold_node, fold_node]
    exact unordered _ _ _ _ (permuted.map _)
  | within _ ih =>
    rw [fold_node, fold_node, List.map_append, List.map_append, List.map_cons, List.map_cons, ih]

theorem Rearranges.size_eq (step : Rearranges one two) : one.size = two.size :=
  step.fold_eq fun _ _ _ _ permuted => congrArg (1 + ·) (permuted.foldr_eq 0)

theorem Rearranges.depth_eq (step : Rearranges one two) : one.depth = two.depth :=
  step.fold_eq fun _ _ _ _ permuted => congrArg (1 + ·) (permuted.foldr_eq 0)

theorem Rearranges.count_eq (step : Rearranges one two) (holds : NodeKind → Bool) :
    one.count holds = two.count holds :=
  step.fold_eq fun kind _ _ _ permuted =>
    congrArg ((if holds kind then 1 else 0) + ·) (permuted.foldr_eq 0)

theorem Rearranges.loopNesting_eq (step : Rearranges one two) : one.loopNesting = two.loopNesting :=
  step.fold_eq fun kind _ _ _ permuted =>
    congrArg ((if kind.isLoop then 1 else 0) + ·) (permuted.foldr_eq 0)

/-- What is counted on the way from the leaves up is what a list of all nodes has. -/
theorem countP_preorder (holds : NodeKind → Bool) (tree : SyntaxTree) :
    tree.preorder.countP (holds ·.kind) = tree.count holds := by
  rw [← countP_labels, labels, List.countP_map]
  rfl

end SyntaxTree

namespace Report

open SyntaxTree

/-- Every token has one of the kinds, and no more than one. -/
theorem totalTokens_analyze (tokens : List Token) (tree : SyntaxTree) :
    (analyze tokens tree).totalTokens = tokens.length := by
  induction tokens with
  | nil =>
    rw [analyze_eq]
    rfl
  | cons token tokens ih =>
    have counts (kind : TokenKind) : (token :: tokens).countP (·.kind = kind) =
        tokens.countP (·.kind = kind) + if token.kind = kind then 1 else 0 := by
      simp only [List.countP_cons, decide_eq_true_eq]
    simp only [totalTokens, analyze_eq, TokenKind.all, List.map_cons, List.map_nil, List.foldr_cons,
      List.foldr_nil, counts, List.length_cons] at ih ⊢
    cases token.kind <;> simp only [reduceCtorEq, if_true, if_false] <;> omega

/-- Tokens count in any order. -/
theorem analyze_of_perm {tokens others : List Token} (permuted : tokens.Perm others)
    (tree : SyntaxTree) : analyze tokens tree = analyze others tree := by
  have counts (kind : TokenKind) :
      tokens.countP (·.kind = kind) = others.countP (·.kind = kind) := permuted.countP_eq _
  simp only [analyze_eq, counts]

theorem analyze_of_rearranges (tokens : List Token) {one two : SyntaxTree}
    (step : Rearranges one two) : analyze tokens one = analyze tokens two := by
  simp only [analyze_eq, step.size_eq, step.depth_eq, step.count_eq, step.loopNesting_eq]

theorem analyze_of_rearranged (tokens : List Token) {one two : SyntaxTree}
    (steps : Relation.ReflTransGen Rearranges one two) : analyze tokens one = analyze tokens two := by
  induction steps with
  | refl => rfl
  | tail _ step ih => exact ih.trans (analyze_of_rearranges tokens step)

/-- The numbers of a report, of any tokens and any tree: how many tokens have a kind and how many there are
in all; how many nodes there are of the kinds that declare, branch, repeat and return; and how many loops
are passed at most on a way from the root to a node, none only where there is no loop. The order of the
tokens, and that of the children of any nodes, make no difference. -/
theorem analyze_counts (tokens : List Token) (tree : SyntaxTree) :
    (∀ kind, (analyze tokens tree).tokenCount kind = (tokens.filter (·.kind = kind)).length) ∧
    (analyze tokens tree).totalTokens = tokens.length ∧
    (analyze tokens tree).functions = tree.preorder.countP (·.kind = .functionDeclaration) ∧
    (analyze tokens tree).declaredVariables = tree.preorder.countP (·.kind = .variableDeclaration) ∧
    (analyze tokens tree).branches = tree.preorder.countP (·.kind = .ifStatement) ∧
    (analyze tokens tree).returns = tree.preorder.countP (·.kind = .returnStatement) ∧
    (analyze tokens tree).loops =
      tree.preorder.countP (fun node => node.kind = .whileStatement || node.kind = .forStatement) ∧
    IsGreatest {loops | ∃ path ∈ tree.paths, tree.loopsAlong path = loops}
      (analyze tokens tree).maxLoopNesting ∧
    ((analyze tokens tree).maxLoopNesting = 0 ↔ (analyze tokens tree).loops = 0) ∧
    (analyze tokens tree).maxLoopNesting ≤ (analyze tokens tree).loops ∧
    (analyze tokens tree).maxLoopNesting ≤ (analyze tokens tree).treeDepth ∧
    ∀ others two, tokens.Perm others → Relation.ReflTransGen Rearranges tree two →
      analyze others two = analyze tokens tree := by
  have counted (holds : NodeKind → Bool) := (countP_preorder holds tree).symm
  have total := totalTokens_analyze tokens tree
  have unordered (others : List Token) (two : SyntaxTree) (permuted : tokens.Perm others)
      (steps : Relation.ReflTransGen Rearranges tree two) :
      analyze others two = analyze tokens tree := by
    rw [analyze_of_perm permuted, analyze_of_rearranged others steps]
  rw [analyze_eq tokens tree] at total unordered ⊢
  exact ⟨fun kind => List.countP_eq_length_filter, total, counted _, counted _, counted _, counted _,
    counted NodeKind.isLoop, loopNesting_isGreatest tree, loopNesting_eq_zero_iff tree,
    loopNesting_le_count tree, loopNesting_le_depth tree, unordered⟩

/-- A loop at the root, whose deepest way down leads to its second child. -/
def loopsInLoop (first second : List SyntaxTree) : SyntaxTree :=
  ⟨.whileStatement, none, [⟨.forStatement, none, first⟩, ⟨.whileStatement, none, second⟩]⟩

/-- Loops in a loop, and what stays when the tokens change places and the children below the root do. -/
theorem analyze_counts_loopsInLoop :
    let name : SyntaxTree := .leaf .identifier "x"
    let loop : SyntaxTree := ⟨.forStatement, none, []⟩
    let tokens : List Token := [⟨⟨.identifier, "x"⟩, ⟨1, 1⟩⟩, ⟨⟨.comment, "//"⟩, ⟨1, 2⟩⟩]
    (analyze tokens (loopsInLoop [] [name, loop])).maxLoopNesting = 3 ∧
      (analyze tokens (loopsInLoop [] [name, loop])).loops = 4 ∧
      tokens.Perm tokens.reverse ∧
      Relation.ReflTransGen Rearranges (loopsInLoop [] [name, loop]) (loopsInLoop [] [loop, name]) ∧
      analyze tokens.reverse (loopsInLoop [] [loop, name]) =
        analyze tokens (loopsInLoop [] [name, loop]) := by
  intro name loop tokens
  have permuted : tokens.Perm tokens.reverse := (List.reverse_perm tokens).symm
  have step : Rearranges (loopsInLoop [] [name, loop]) (loopsInLoop [] [loop, name]) :=
    @Rearranges.within .whileStatement none [⟨.forStatement, none, []⟩] [] _ _
      (.here (List.Perm.swap loop name []))
  obtain ⟨-, -, -, -, -, -, -, -, -, -, -, unordered⟩ :=
    analyze_counts tokens (loopsInLoop [] [name, loop])
  exact ⟨rfl, rfl, permuted, .single step, unordered _ _ permuted (.single step)⟩

end Report

end SyntaxExplorer
