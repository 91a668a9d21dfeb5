import SyntaxExplorer.Proofs.Tree.Paths

namespace SyntaxExplorer

open SyntaxTree

namespace TreeRow

variable {collapsed : Nat → Bool} {number level index : Nat} {tree child : SyntaxTree}
  {trees children : List SyntaxTree} {kind : NodeKind} {value : Option String} {path : List Nat}
  {row : TreeRow}

/-- The row is that of the node at a path, in a tree whose root has some number and level, and none of
the nodes on the way to it is collapsed. -/
structure IsVisibleAt (row : TreeRow) (collapsed : Nat → Bool) (number level : Nat)
    (tree : SyntaxTree) (path : List Nat) : Prop where
  node : tree.at? path = some row.tree
  numbered : row.number = number + tree.number path
  deep : row.level = level + path.length
  flag : row.collapsed = collapsed row.number
  uncovered : ∀ steps < path.length, collapsed (number + tree.number (path.take steps)) = false

theorem isVisibleAt_nil :
    row.IsVisibleAt collapsed number level tree [] ↔
      row = ⟨number, level, tree, collapsed number⟩ := by
  constructor
  · rintro ⟨node, place, depth, flag, -⟩
    obtain ⟨rowNumber, rowLevel, rowTree, rowCollapsed⟩ := row
    rw [number_nil] at place
    rw [at?] at node
    obtain rfl : tree = rowTree := Option.some.inj node
    obtain rfl : rowNumber = number := place
    obtain rfl : rowLevel = level := depth
    obtain rfl : rowCollapsed = collapsed rowNumber := flag
    rfl
  · rintro rfl
    refine ⟨by rw [at?], ?_, rfl, rfl, fun steps within => by cases within⟩
    rw [number_nil, Nat.add_zero]

/-- A node below a child is visible if the child's own part of the tree shows it and the root is open. -/
theorem isVisibleAt_cons (here : children[index]? = some child) :
    row.IsVisibleAt collapsed number level ⟨kind, value, children⟩ (index :: path) ↔
      collapsed number = false ∧
        row.IsVisibleAt collapsed (number + 1 + (preorderAll (children.take index)).length)
          (level + 1) child path := by
  have found : at? ⟨kind, value, children⟩ (index :: path) = child.at? path := by
    rw [at?, here, Option.bind_some]
  have place {path : List Nat} (member : path ∈ child.paths) :
      number + SyntaxTree.number ⟨kind, value, children⟩ (index :: path) =
        number + 1 + (preorderAll (children.take index)).length + child.number path := by
    rw [number_cons here member]
    omega
  constructor
  · rintro ⟨node, rowNumber, rowLevel, flag, uncovered⟩
    rw [found] at node
    have member : path ∈ child.paths := mem_paths_iff.mpr ⟨row.tree, node⟩
    rw [List.length_cons] at rowLevel uncovered
    refine ⟨?_, node, rowNumber.trans (place member), by omega, flag, fun steps within => ?_⟩
    · have root := uncovered 0 (Nat.zero_lt_succ _)
      rwa [List.take_zero, number_nil] at root
    · have above := uncovered (steps + 1) (Nat.succ_lt_succ within)
      rwa [List.take_succ_cons, place (take_mem_paths member steps)] at above
  · rintro ⟨root, node, rowNumber, rowLevel, flag, uncovered⟩
    have member : path ∈ child.paths := mem_paths_iff.mpr ⟨row.tree, node⟩
    refine ⟨found.trans node, rowNumber.trans (place member).symm, ?_, flag, fun steps within => ?_⟩
    · rw [List.length_cons]
      omega
    · cases steps with
      | zero => rwa [List.take_zero, number_nil]
      | succ steps =>
        rw [List.take_succ_cons, place (take_mem_paths member steps)]
        exact uncovered steps (Nat.lt_of_succ_lt_succ within)

/-- The rows of trees side by side are those of each, numbered behind all nodes of those before it. -/
theorem mem_ofTrees :
    row ∈ ofTrees collapsed number level trees ↔
      ∃ index child, trees[index]? = some child ∧
        row ∈ ofTree collapsed (number + (preorderAll (trees.take index)).length) level child := by
  induction trees generalizing number with
  | nil => simp [ofTrees]
  | cons tree trees ih =>
    have shift (index : Nat) : number + (preorderAll ((tree :: trees).take (index + 1))).length =
        number + tree.size + (preorderAll (trees.take index)).length := by
      rw [List.take_succ_cons, length_preorderAll_cons, Nat.add_assoc]
    rw [ofTrees, List.mem_append, ih]
    constructor
    · rintro (first | ⟨index, child, here, later⟩)
      · exact ⟨0, tree, rfl, first⟩
      · exact ⟨index + 1, child, here, by rwa [shift]⟩
    · rintro ⟨index, child, here, member⟩
      cases index with
      | zero =>
        obtain rfl : tree = child := Option.some.inj here
        exact Or.inl member
      | succ index =>
        rw [shift] at member
        exact Or.inr ⟨index, child, here, member⟩

/-- The rows are those of the visible nodes. -/
theorem mem_ofTree_iff :
    row ∈ ofTree collapsed number level tree ↔
      ∃ path, row.IsVisibleAt collapsed number level tree path := by
  induction tree using SyntaxTree.induction generalizing number level with
  | node kind value children ih =>
    rw [mem_ofTree, mem_ofTrees]
    constructor
    · rintro (root | ⟨opened, index, child, here, member⟩)
      · exact ⟨[], isVisibleAt_nil.mpr root⟩
      · obtain ⟨path, visible⟩ := (ih child (List.mem_of_getElem? here)).mp member
        exact ⟨index :: path, (isVisibleAt_cons here).mpr ⟨opened, visible⟩⟩
    · rintro ⟨path, visible⟩
      cases path with
      | nil => exact Or.inl (isVisibleAt_nil.mp visible)
      | cons index path =>
        have node := visible.node
        rw [at?] at node
        obtain ⟨child, here, -⟩ := Option.bind_eq_some_iff.mp node
        obtain ⟨opened, below⟩ := (isVisibleAt_cons here).mp visible
        have member := (ih child (List.mem_of_getElem? here)).mpr ⟨path, below⟩
        exact Or.inr ⟨opened, index, child, here, member⟩

mutual

theorem pairwise_ofTree (collapsed : Nat → Bool) (number level : Nat) (tree : SyntaxTree) :
    (ofTree collapsed number level tree).Pairwise (·.number < ·.number) := by
  obtain ⟨kind, value, children⟩ := tree
  rw [ofTree, List.pairwise_cons]
  cases collapsed number with
  | true => exact ⟨fun row member => absurd member List.not_mem_nil, .nil⟩
  | false =>
    refine ⟨fun row member => ?_, pairwise_ofTrees collapsed (number + 1) (level + 1) children⟩
    have range := range_of_mem_ofTrees member
    exact range.1

theorem pairwise_ofTrees (collapsed : Nat → Bool) (number level : Nat) (trees : List SyntaxTree) :
    (ofTrees collapsed number level trees).Pairwise (·.number < ·.number) := by
  cases trees with
  | nil => exact .nil
  | cons tree trees =>
    rw [ofTrees, List.pairwise_append]
    refine ⟨pairwise_ofTree collapsed number level tree,
      pairwise_ofTrees collapsed (number + tree.size) level trees, fun row first other later => ?_⟩
    have before := range_of_mem_ofTree first
    have behind := range_of_mem_ofTrees later
    have positive := row.tree.size_pos
    omega

end

/-- The number of nodes that are hidden, as the collapsed rows tell. -/
def hidden (rows : List TreeRow) : Nat :=
  ((rows.filter (·.collapsed)).map descendants).foldr (· + ·) 0

theorem hidden_cons (row : TreeRow) (rows : List TreeRow) :
    hidden (row :: rows) = (if row.collapsed then row.descendants else 0) + hidden rows := by
  rw [hidden, List.filter_cons]
  cases row.collapsed with
  | true => rfl
  | false => exact (Nat.zero_add _).symm

theorem hidden_append (front back : List TreeRow) :
    hidden (front ++ back) = hidden front + hidden back := by
  induction front with
  | nil => exact (Nat.zero_add _).symm
  | cons row front ih => rw [List.cons_append, hidden_cons, hidden_cons, ih, Nat.add_assoc]

mutual

theorem length_add_hidden_ofTree (collapsed : Nat → Bool) (number level : Nat) (tree : SyntaxTree) :
    (ofTree collapsed number level tree).length + hidden (ofTree collapsed number level tree) =
      tree.size := by
  obtain ⟨kind, value, children⟩ := tree
  have positive := size_pos ⟨kind, value, children⟩
  rw [ofTree, List.length_cons, hidden_cons]
  cases collapsed number with
  | true =>
    have none : hidden [] = 0 := rfl
    simp only [if_true, descendants, List.length_nil, none]
    omega
  | false =>
    have below := length_add_hidden_ofTrees collapsed (number + 1) (level + 1) children
    simp only [Bool.false_eq_true, if_false, size_eq_succ]
    omega

theorem length_add_hidden_ofTrees (collapsed : Nat → Bool) (number level : Nat)
    (trees : List SyntaxTree) :
    (ofTrees collapsed number level trees).length + hidden (ofTrees collapsed number level trees) =
      (preorderAll trees).length := by
  cases trees with
  | nil => rfl
  | cons tree trees =>
    have first := length_add_hidden_ofTree collapsed number level tree
    have later := length_add_hidden_ofTrees collapsed (number + tree.size) level trees
    rw [ofTrees, List.length_append, hidden_append, length_preorderAll_cons]
    omega

end

end TreeRow

namespace TreeView

/-- The rows of a tree are those of the nodes above which no node is collapsed. Each has the number that
its path has among all paths, whatever is collapsed, and they ascend as the paths do; all paths are
listed in the order of the outline. Together with the nodes that the collapsed rows hide they are all
nodes of the tree. -/
theorem rows_listVisible (view : TreeView) (tree : SyntaxTree) :
    (∀ row, row ∈ view.rows tree ↔ ∃ path, row.IsVisibleAt view.collapsed 0 0 tree path) ∧
      (view.rows tree).Pairwise (·.number < ·.number) ∧
      ((∀ path, path ∈ tree.paths ↔ ∃ node, tree.at? path = some node) ∧
        tree.paths.Pairwise (· < ·)) ∧
      (view.rows tree).length + TreeRow.hidden (view.rows tree) = tree.size := by
  rw [rows_eq]
  exact ⟨fun _ => TreeRow.mem_ofTree_iff, TreeRow.pairwise_ofTree view.collapsed 0 0 tree,
    ⟨fun _ => mem_paths_iff, pairwise_paths tree⟩,
    TreeRow.length_add_hidden_ofTree view.collapsed 0 0 tree⟩

end TreeView

end SyntaxExplorer
