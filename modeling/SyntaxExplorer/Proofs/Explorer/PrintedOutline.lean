import SyntaxExplorer.Proofs.Explorer.Numbering
import SyntaxExplorer.Proofs.Grammar.Values

namespace SyntaxExplorer

open SyntaxTree

namespace TreeRow

/-- What a line of the outline tells of the row's node. -/
def entry (row : TreeRow) : Entry :=
  ⟨row.level, row.tree.kind, row.tree.value⟩

/-- The row as a line of the outline. -/
def printed (row : TreeRow) : String :=
  indentation row.level ++ row.tree.label ++ "\n"

mutual

/-- The rows of a tree in which nothing is collapsed tell what its outline tells. -/
theorem map_entry_ofTree (number level : Nat) (tree : SyntaxTree) :
    (ofTree (fun _ => false) number level tree).map entry = tree.entries level := by
  obtain ⟨kind, value, children⟩ := tree
  have below := map_entry_ofTrees (number + 1) (level + 1) children
  rw [ofTree, entries, List.map_cons, ← below]
  rfl

theorem map_entry_ofTrees (number level : Nat) (trees : List SyntaxTree) :
    (ofTrees (fun _ => false) number level trees).map entry = entriesAll level trees := by
  cases trees with
  | nil => rfl
  | cons tree trees =>
    have first := map_entry_ofTree number level tree
    have later := map_entry_ofTrees (number + tree.size) level trees
    rw [ofTrees, entriesAll, List.map_append, first, later]

end

end TreeRow

namespace TreeView

open TreeRow

theorem map_entry_fresh (tree : SyntaxTree) : (fresh.rows tree).map entry = tree.entries 0 := by
  rw [rows_eq]
  exact map_entry_ofTree 0 0 tree

theorem outline_eq_rows (tree : SyntaxTree) :
    tree.outline = String.join ((fresh.rows tree).map printed) := by
  rw [outline, linesAt_eq_map, ← map_entry_fresh, List.map_map, List.map_map]
  rfl

theorem length_fresh_rows (tree : SyntaxTree) : (fresh.rows tree).length = tree.size := by
  have lines := congrArg List.length (linesAt_eq_map tree 0)
  rw [length_linesAt, ← map_entry_fresh, List.length_map, List.length_map] at lines
  exact lines.symm

theorem level_fresh_rows (tree : SyntaxTree) :
    1 + ((fresh.rows tree).map TreeRow.level).foldr max 0 = tree.depth := by
  have deepest := foldr_max_entries 0 tree
  rw [← map_entry_fresh, List.map_map, Nat.zero_add] at deepest
  exact deepest

end TreeView

open TreeView

/-- The outline has a line for each row of a view in which nothing is collapsed. These rows are as many as
the tree has nodes, and they reach as deep as the tree. Trees whose values have no line feeds are told
apart by their outlines, and the values of a source's tree have none. -/
theorem outline_faithful :
    (∀ tree : SyntaxTree, tree.outline = String.join ((fresh.rows tree).map TreeRow.printed) ∧
      (fresh.rows tree).length = tree.size ∧
      1 + ((fresh.rows tree).map TreeRow.level).foldr max 0 = tree.depth) ∧
    (∀ one two : SyntaxTree, one.IsLinear → two.IsLinear → one.outline = two.outline → one = two) ∧
    ∀ source compilation, compile source = .ok compilation → compilation.tree.IsLinear := by
  refine ⟨?_, ?_, ?_⟩
  · intro tree
    exact ⟨outline_eq_rows tree, length_fresh_rows tree, level_fresh_rows tree⟩
  · intro one two linear linearToo same
    exact outline_injective linear linearToo same
  · intro source compilation compiled
    exact isLinear_of_compile compiled

/-- The tokens of a name behind a comment of two lines. -/
def commentedName : List Token :=
  [⟨⟨.comment, "/*\n*/"⟩, ⟨1, 1⟩⟩, ⟨⟨.identifier, "x"⟩, ⟨2, 3⟩⟩, ⟨⟨.punctuation, ";"⟩, ⟨2, 4⟩⟩]

/-- A name behind a comment of two lines, and trees with an empty value and with none. -/
theorem outline_faithful_emptyValue :
    let empty : SyntaxTree := .leaf .literal ""
    let bare : SyntaxTree := ⟨.literal, none, []⟩
    let named : SyntaxTree := ⟨.program, none, [.leaf .identifier "x"]⟩
    empty.IsLinear ∧ bare.IsLinear ∧ empty.outline ≠ bare.outline ∧
      (∃ compilation, compile "/*\n*/x;" = .ok compilation ∧ compilation.tree = named) ∧
      named.IsLinear := by
  intro empty bare named
  have scanned : tokenize "/*\n*/x;" = .ok commentedName := by
    have whole : "/*\n*/x;".toList = ['/', '*', '\n', '*', '/', 'x', ';'] := rfl
    have closed : Cut.first '/' ['*', '\n', '*', '/', 'x', ';'] =
        .ok ⟨.comment, ['*', '\n', '*', '/'], ['x', ';']⟩ := rfl
    have word : Cut.first 'x' [';'] = .ok ⟨.identifier, [], [';']⟩ := rfl
    have mark : Cut.first ';' [] = .ok ⟨.punctuation, [], []⟩ := rfl
    rw [tokenize, Scanner.ofString, whole, Scanner.tokens_lexeme rfl closed,
      Scanner.tokens_lexeme rfl word, Scanner.tokens_lexeme rfl mark, Scanner.tokens_nil]
    rfl
  have parsed : parse commentedName = .ok named := rfl
  have compiled : compile "/*\n*/x;" =
      .ok ⟨commentedName, named, .analyze commentedName named⟩ := by
    rw [compile, scanned]
    simp only [parsed]
  have linear : empty.IsLinear := Grammar.hasValues_leaf.mpr (by simp)
  have linearToo : bare.IsLinear := Grammar.hasValues_none.mpr (by simp)
  obtain ⟨-, reads, ofSource⟩ := outline_faithful
  refine ⟨linear, linearToo, fun same => ?_, ⟨_, compiled, rfl⟩, ofSource _ _ compiled⟩
  have values := congrArg SyntaxTree.value (reads empty bare linear linearToo same)
  cases values

end SyntaxExplorer
