import SyntaxExplorer.Proofs.Explorer.Numbering

namespace SyntaxExplorer

namespace SyntaxTree

variable {node : SyntaxTree}

mutual

/-- All nodes below a node are counted behind it. -/
theorem index_add_size_le {index : Nat} (tree : SyntaxTree)
    (here : tree.preorder[index]? = some node) :
    index + node.size ≤ tree.size := by
  obtain ⟨kind, value, children⟩ := tree
  cases index with
  | zero =>
    obtain rfl : ⟨kind, value, children⟩ = node := Option.some.inj here
    exact Nat.le_of_eq (Nat.zero_add _)
  | succ index =>
    have below : index + node.size ≤ (preorderAll children).length :=
      index_add_size_le_all children here
    rw [size_eq_succ]
    omega

theorem index_add_size_le_all {index : Nat} (trees : List SyntaxTree)
    (here : (preorderAll trees)[index]? = some node) :
    index + node.size ≤ (preorderAll trees).length := by
  cases trees with
  | nil => cases here
  | cons tree trees =>
    rw [length_preorderAll_cons]
    rw [preorderAll] at here
    by_cases first : index < tree.preorder.length
    · rw [List.getElem?_append_left first] at here
      have within := index_add_size_le tree here
      omega
    · rw [List.getElem?_append_right (Nat.not_lt.mp first)] at here
      have within := index_add_size_le_all trees here
      rw [length_preorder] at first within
      omega

end

end SyntaxTree

namespace TreeRow

open SyntaxTree

variable {collapsed one two : Nat → Bool} {row : TreeRow}

theorem mem_ofTree {number level : Nat} {kind : NodeKind} {value : Option String}
    {children : List SyntaxTree} :
    row ∈ ofTree collapsed number level ⟨kind, value, children⟩ ↔
      row = ⟨number, level, ⟨kind, value, children⟩, collapsed number⟩ ∨
        (collapsed number = false ∧ row ∈ ofTrees collapsed (number + 1) (level + 1) children) := by
  rw [ofTree, List.mem_cons]
  cases collapsed number <;> simp

section Numbers

mutual

/-- A row's number is the index of its node among all nodes, whichever of them are collapsed. -/
theorem preorder_of_mem_ofTree (number level : Nat) (tree : SyntaxTree)
    (member : row ∈ ofTree collapsed number level tree) :
    ∃ index, row.number = number + index ∧ tree.preorder[index]? = some row.tree := by
  obtain ⟨kind, value, children⟩ := tree
  rcases mem_ofTree.mp member with rfl | ⟨-, below⟩
  · exact ⟨0, rfl, rfl⟩
  · obtain ⟨index, place, here⟩ := preorder_of_mem_ofTrees (number + 1) (level + 1) children below
    exact ⟨index + 1, by omega, here⟩

theorem preorder_of_mem_ofTrees (number level : Nat) (trees : List SyntaxTree)
    (member : row ∈ ofTrees collapsed number level trees) :
    ∃ index, row.number = number + index ∧ (preorderAll trees)[index]? = some row.tree := by
  cases trees with
  | nil => simp [ofTrees] at member
  | cons tree trees =>
    rw [ofTrees, List.mem_append] at member
    rw [preorderAll]
    rcases member with first | later
    · obtain ⟨index, place, here⟩ := preorder_of_mem_ofTree number level tree first
      have within := (List.getElem?_eq_some_iff.mp here).1
      exact ⟨index, place, (List.getElem?_append_left within).trans here⟩
    · obtain ⟨index, place, here⟩ :=
        preorder_of_mem_ofTrees (number + tree.size) level trees later
      refine ⟨tree.size + index, by omega, ?_⟩
      rw [← length_preorder, List.getElem?_append_right (Nat.le_add_right _ _),
        Nat.add_sub_cancel_left, here]

end

theorem range_of_mem_ofTree {number level : Nat} {tree : SyntaxTree}
    (member : row ∈ ofTree collapsed number level tree) :
    number ≤ row.number ∧ row.number + row.tree.size ≤ number + tree.size := by
  obtain ⟨index, place, here⟩ := preorder_of_mem_ofTree number level tree member
  have within := index_add_size_le tree here
  omega

theorem range_of_mem_ofTrees {number level : Nat} {trees : List SyntaxTree}
    (member : row ∈ ofTrees collapsed number level trees) :
    number ≤ row.number ∧ row.number + row.tree.size ≤ number + (preorderAll trees).length := by
  obtain ⟨index, place, here⟩ := preorder_of_mem_ofTrees number level trees member
  have within := index_add_size_le_all trees here
  omega

end Numbers

section Levels

theorem ofTree_eq (collapsed : Nat → Bool) (number level : Nat) (tree : SyntaxTree) :
    ofTree collapsed number level tree =
      ⟨number, level, tree, collapsed number⟩ ::
        if collapsed number then [] else
          ofTrees collapsed (number + 1) (level + 1) tree.children := by
  obtain ⟨kind, value, children⟩ := tree
  rw [ofTree]

mutual

/-- No row of a tree lies above its root. -/
theorem level_le_of_mem_ofTree (number level : Nat) (tree : SyntaxTree)
    (member : row ∈ ofTree collapsed number level tree) : level ≤ row.level := by
  obtain ⟨kind, value, children⟩ := tree
  rcases mem_ofTree.mp member with rfl | ⟨-, below⟩
  · exact Nat.le_refl _
  · have deeper := level_le_of_mem_ofTrees (number + 1) (level + 1) children below
    omega

theorem level_le_of_mem_ofTrees (number level : Nat) (trees : List SyntaxTree)
    (member : row ∈ ofTrees collapsed number level trees) : level ≤ row.level := by
  cases trees with
  | nil => simp [ofTrees] at member
  | cons tree trees =>
    rw [ofTrees, List.mem_append] at member
    rcases member with first | later
    · exact level_le_of_mem_ofTree number level tree first
    · exact level_le_of_mem_ofTrees (number + tree.size) level trees later

end

theorem level_of_mem_head?_ofTrees {number level : Nat} {trees : List SyntaxTree}
    (member : row ∈ (ofTrees collapsed number level trees).head?) : row.level = level := by
  cases trees with
  | nil => simp [ofTrees] at member
  | cons tree trees =>
    rw [ofTrees, ofTree_eq] at member
    obtain rfl := Option.some.inj member
    rfl

end Levels

section Collapsing

mutual

/-- The rows of a tree depend on what is collapsed among its own nodes only. -/
theorem ofTree_congr (number level : Nat) (tree : SyntaxTree)
    (agree : ∀ k, number ≤ k → k < number + tree.size → one k = two k) :
    ofTree one number level tree = ofTree two number level tree := by
  obtain ⟨kind, value, children⟩ := tree
  rw [size_eq_succ] at agree
  have root : one number = two number := agree number (Nat.le_refl _) (by omega)
  have below : ofTrees one (number + 1) (level + 1) children =
      ofTrees two (number + 1) (level + 1) children :=
    ofTrees_congr _ _ children fun k above within => agree k (by omega) (by omega)
  rw [ofTree, ofTree, root, below]

theorem ofTrees_congr (number level : Nat) (trees : List SyntaxTree)
    (agree : ∀ k, number ≤ k → k < number + (preorderAll trees).length → one k = two k) :
    ofTrees one number level trees = ofTrees two number level trees := by
  cases trees with
  | nil => rfl
  | cons tree trees =>
    rw [length_preorderAll_cons] at agree
    have first : ofTree one number level tree = ofTree two number level tree :=
      ofTree_congr _ _ tree fun k above within => agree k above (by omega)
    have later : ofTrees one (number + tree.size) level trees =
        ofTrees two (number + tree.size) level trees :=
      ofTrees_congr _ _ trees fun k above within => agree k (by omega) (by omega)
    rw [ofTrees, ofTrees, first, later]

end

/-- The same nodes are collapsed but for those of the row's part of the tree. -/
def AgreeOutside (row : TreeRow) (one two : Nat → Bool) : Prop :=
  ∀ k, k < row.number ∨ row.number + row.tree.size ≤ k → one k = two k

mutual

/-- The rows of a tree are those of a row's node with some rows before them and some behind, and
these stay whatever is collapsed at the node and below it. The first row behind lies no deeper than
the node. -/
theorem ofTree_split {index : Nat} (number level : Nat) (tree : SyntaxTree)
    (here : (ofTree collapsed number level tree)[index]? = some row) :
    ∃ front back, front.length = index ∧ (∀ next ∈ back.head?, next.level ≤ row.level) ∧
      ∀ other, row.AgreeOutside other collapsed →
        ofTree other number level tree =
          front ++ ofTree other row.number row.level row.tree ++ back := by
  obtain ⟨kind, value, children⟩ := tree
  have member := List.mem_of_getElem? here
  rw [ofTree] at here
  cases index with
  | zero =>
    obtain rfl := Option.some.inj here
    exact ⟨[], [], rfl, by simp, fun other _ => (List.append_nil _).symm⟩
  | succ index =>
    rw [List.getElem?_cons_succ] at here
    cases root : collapsed number with
    | true => simp [root] at here
    | false =>
      rw [root] at here
      obtain ⟨front, back, length, ends, split⟩ :=
        ofTrees_split (number + 1) (level + 1) children here
      have above := (range_of_mem_ofTrees (List.mem_of_getElem? here)).1
      refine ⟨⟨number, level, ⟨kind, value, children⟩, false⟩ :: front, back,
        congrArg (· + 1) length, ends, fun other agree => ?_⟩
      have opened : other number = false := (agree number (Or.inl (by omega))).trans root
      rw [ofTree, opened, split other agree]
      rfl

theorem ofTrees_split {index : Nat} (number level : Nat) (trees : List SyntaxTree)
    (here : (ofTrees collapsed number level trees)[index]? = some row) :
    ∃ front back, front.length = index ∧ (∀ next ∈ back.head?, next.level ≤ row.level) ∧
      ∀ other, row.AgreeOutside other collapsed →
        ofTrees other number level trees =
          front ++ ofTree other row.number row.level row.tree ++ back := by
  cases trees with
  | nil => simp [ofTrees] at here
  | cons tree trees =>
    rw [ofTrees] at here
    by_cases first : index < (ofTree collapsed number level tree).length
    · -- What is behind the first tree is numbered behind the row's part of it.
      rw [List.getElem?_append_left first] at here
      have member := List.mem_of_getElem? here
      obtain ⟨front, back, length, ends, split⟩ := ofTree_split number level tree here
      have range := range_of_mem_ofTree member
      refine ⟨front, back ++ ofTrees collapsed (number + tree.size) level trees, length,
        fun next first => ?_, fun other agree => ?_⟩
      · cases back with
        | nil =>
          rw [level_of_mem_head?_ofTrees first]
          exact level_le_of_mem_ofTree number level tree member
        | cons other back => exact ends next first
      have later : ofTrees other (number + tree.size) level trees =
          ofTrees collapsed (number + tree.size) level trees :=
        ofTrees_congr _ _ trees fun k above _ => agree k (Or.inr (by omega))
      rw [ofTrees, split other agree, later, List.append_assoc]
    · rw [List.getElem?_append_right (Nat.not_lt.mp first)] at here
      obtain ⟨front, back, length, ends, split⟩ :=
        ofTrees_split (number + tree.size) level trees here
      have range := range_of_mem_ofTrees (List.mem_of_getElem? here)
      refine ⟨ofTree collapsed number level tree ++ front, back, ?_, ends, fun other agree => ?_⟩
      · rw [List.length_append, length]
        omega
      · have earlier : ofTree other number level tree = ofTree collapsed number level tree :=
          ofTree_congr _ _ tree fun k _ below => agree k (Or.inl (by omega))
        rw [ofTrees, split other agree, earlier]
        simp only [List.append_assoc]

end

mutual

/-- Where less is collapsed there are no fewer rows. -/
theorem length_ofTree_mono (fewer : ∀ k, two k = true → one k = true) (number level : Nat)
    (tree : SyntaxTree) :
    (ofTree one number level tree).length ≤ (ofTree two number level tree).length := by
  obtain ⟨kind, value, children⟩ := tree
  rw [ofTree, ofTree, List.length_cons, List.length_cons]
  refine Nat.succ_le_succ ?_
  cases hidden : one number with
  | true => exact Nat.zero_le _
  | false =>
    have shown : two number = false := by
      cases root : two number with
      | false => rfl
      | true => rw [fewer number root] at hidden; cases hidden
    rw [shown]
    exact length_ofTrees_mono fewer _ _ children

theorem length_ofTrees_mono (fewer : ∀ k, two k = true → one k = true) (number level : Nat)
    (trees : List SyntaxTree) :
    (ofTrees one number level trees).length ≤ (ofTrees two number level trees).length := by
  cases trees with
  | nil => exact Nat.le_refl _
  | cons tree trees =>
    rw [ofTrees, ofTrees, List.length_append, List.length_append]
    exact Nat.add_le_add (length_ofTree_mono fewer _ _ tree) (length_ofTrees_mono fewer _ _ trees)

end

theorem length_ofTree_pos (collapsed : Nat → Bool) (number level : Nat) (tree : SyntaxTree) :
    0 < (ofTree collapsed number level tree).length := by
  obtain ⟨kind, value, children⟩ := tree
  exact Nat.zero_lt_succ _

end Collapsing

end TreeRow

end SyntaxExplorer
