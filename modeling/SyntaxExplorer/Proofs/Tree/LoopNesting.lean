import Mathlib.Data.List.MinMax
import Mathlib.Order.Bounds.Defs
import Mathlib.Order.Nat
import SyntaxExplorer.Proofs.Tree.Paths

namespace SyntaxExplorer.SyntaxTree

/-- The nodes on the way along a path, from the root to the node that it leads to. -/
def along : SyntaxTree → List Nat → List SyntaxTree
  | tree, [] => [tree]
  | tree, step :: path => tree :: (tree.children[step]?.elim [] (·.along path))

/-- The number of loops on the way along a path, both ends included. -/
def loopsAlong (tree : SyntaxTree) (path : List Nat) : Nat :=
  (tree.along path).countP (·.kind.isLoop)

variable {tree child : SyntaxTree} {children : List SyntaxTree} {kind : NodeKind}
  {value : Option String} {path : List Nat} {index : Nat}

/-- One loop or none, by the kind of a node. -/
theorem loopsAlong_nil :
    loopsAlong ⟨kind, value, children⟩ [] = if kind.isLoop then 1 else 0 := by
  rw [loopsAlong, along, List.countP_singleton]

theorem loopsAlong_cons (here : children[index]? = some child) :
    loopsAlong ⟨kind, value, children⟩ (index :: path) =
      (if kind.isLoop then 1 else 0) + child.loopsAlong path := by
  rw [loopsAlong, along, here, List.countP_cons, Option.elim_some, Nat.add_comm]
  rfl

theorem loopNesting_le_of_mem (member : child ∈ children) :
    child.loopNesting ≤ (children.map loopNesting).foldr max 0 :=
  List.le_max_of_le (List.mem_map_of_mem member) (Nat.le_refl _)

/-- No way down has more loops. -/
theorem loopsAlong_le (member : path ∈ tree.paths) : tree.loopsAlong path ≤ tree.loopNesting := by
  induction path generalizing tree with
  | nil =>
    obtain ⟨kind, value, children⟩ := tree
    rw [loopsAlong_nil, loopNesting_node]
    exact Nat.le_add_right _ _
  | cons step path ih =>
    obtain ⟨kind, value, children⟩ := tree
    obtain ⟨child, here, later⟩ := cons_mem_paths_iff.mp member
    have deepest := loopNesting_le_of_mem (List.mem_of_getElem? here)
    have below := ih later
    rw [loopsAlong_cons here, loopNesting_node]
    omega

/-- Some way down has as many loops. It goes through a child where loops are nested most deeply. -/
theorem exists_loopsAlong (tree : SyntaxTree) :
    ∃ path ∈ tree.paths, tree.loopsAlong path = tree.loopNesting := by
  induction tree using SyntaxTree.induction with
  | node kind value children ih =>
    rw [loopNesting_node]
    cases children with
    | nil => exact ⟨[], nil_mem_paths _, loopsAlong_nil⟩
    | cons first others =>
      have some : (first :: others).map loopNesting ≠ [] := List.cons_ne_nil _ _
      have greatest := List.maximum_mem (List.foldr_max_of_ne_nil some).symm
      obtain ⟨child, member, deepest⟩ := List.mem_map.mp greatest
      obtain ⟨path, inside, loops⟩ := ih child member
      obtain ⟨index, here⟩ := List.getElem?_of_mem member
      refine ⟨index :: path, cons_mem_paths_iff.mpr ⟨child, here, inside⟩, ?_⟩
      rw [loopsAlong_cons here, loops, deepest]
      rfl

theorem loopNesting_isGreatest (tree : SyntaxTree) :
    IsGreatest {loops | ∃ path ∈ tree.paths, tree.loopsAlong path = loops} tree.loopNesting := by
  refine ⟨exists_loopsAlong tree, ?_⟩
  rintro loops ⟨path, member, rfl⟩
  exact loopsAlong_le member

theorem foldr_max_le_foldr_add (numbers : List Nat) :
    numbers.foldr max 0 ≤ numbers.foldr (· + ·) 0 := by
  induction numbers with
  | nil => exact Nat.le_refl 0
  | cons number numbers ih =>
    rw [List.foldr_cons, List.foldr_cons]
    omega

theorem foldr_max_mono {one two : SyntaxTree → Nat} (below : ∀ child ∈ children, one child ≤ two child) :
    (children.map one).foldr max 0 ≤ (children.map two).foldr max 0 := by
  refine List.max_le_of_forall_le _ _ ?_
  intro number member
  obtain ⟨child, inside, rfl⟩ := List.mem_map.mp member
  exact List.le_max_of_le (List.mem_map_of_mem inside) (below child inside)

theorem loopNesting_le_count (tree : SyntaxTree) : tree.loopNesting ≤ tree.count NodeKind.isLoop := by
  induction tree using SyntaxTree.induction with
  | node kind value children ih =>
    have below := foldr_max_mono ih
    have sum := foldr_max_le_foldr_add (children.map (count NodeKind.isLoop))
    rw [loopNesting_node, count_node]
    omega

theorem loopNesting_le_depth (tree : SyntaxTree) : tree.loopNesting ≤ tree.depth := by
  induction tree using SyntaxTree.induction with
  | node kind value children ih =>
    have below := foldr_max_mono ih
    rw [loopNesting_node, depth_node]
    split <;> omega

/-- Loops that are nowhere nested are not there at all. -/
theorem loopNesting_eq_zero_iff (tree : SyntaxTree) :
    tree.loopNesting = 0 ↔ tree.count NodeKind.isLoop = 0 := by
  constructor
  · induction tree using SyntaxTree.induction with
    | node kind value children ih =>
      intro none
      rw [loopNesting_node] at none
      rw [count_node]
      have below : ∀ number ∈ children.map (count NodeKind.isLoop), number = 0 := by
        intro number member
        obtain ⟨child, inside, rfl⟩ := List.mem_map.mp member
        have deepest := loopNesting_le_of_mem inside
        exact ih child inside (by omega)
      rw [← List.sum_eq_foldr, List.sum_eq_zero_iff_forall_eq_nat.mpr below]
      omega
  · intro none
    have bound := loopNesting_le_count tree
    omega

end SyntaxExplorer.SyntaxTree
