import SyntaxExplorer.Explorer.TreePane

namespace SyntaxExplorer

namespace SyntaxTree

theorem length_preorderAll_cons (tree : SyntaxTree) (trees : List SyntaxTree) :
    (preorderAll (tree :: trees)).length = tree.size + (preorderAll trees).length := by
  rw [preorderAll, List.length_append, length_preorder]

theorem size_eq_succ (kind : NodeKind) (value : Option String) (children : List SyntaxTree) :
    size ⟨kind, value, children⟩ = (preorderAll children).length + 1 := by
  rw [← length_preorder, preorder, List.length_cons]

end SyntaxTree

namespace TreeRow

mutual

/-- The visible nodes of a tree whose root has some number and level. Each node's number is what the sizes
of the trees before it come to. -/
def ofTree (collapsed : Nat → Bool) (number level : Nat) : SyntaxTree → List TreeRow
  | ⟨kind, value, children⟩ =>
    ⟨number, level, ⟨kind, value, children⟩, collapsed number⟩ ::
      if collapsed number then [] else ofTrees collapsed (number + 1) (level + 1) children

/-- The visible nodes of trees side by side. -/
def ofTrees (collapsed : Nat → Bool) (number level : Nat) : List SyntaxTree → List TreeRow
  | [] => []
  | tree :: trees =>
    ofTree collapsed number level tree ++ ofTrees collapsed (number + tree.size) level trees

end

end TreeRow

namespace Listing

open SyntaxTree TreeRow

mutual

/-- Listing a tree takes as many numbers as the tree has nodes, however many of them it shows. -/
theorem collect_eq (listing : Listing) (collapsed : Nat → Bool) (level : Nat) (tree : SyntaxTree) :
    listing.collect collapsed level tree =
      ⟨listing.next + tree.size,
        listing.rows ++ (ofTree collapsed listing.next level tree).toArray⟩ := by
  obtain ⟨next, rows⟩ := listing
  obtain ⟨kind, value, children⟩ := tree
  have size := size_eq_succ kind value children
  rw [collect, ofTree]
  cases flag : collapsed next with
  | true =>
    have numbers : next + 1 + (SyntaxTree.size ⟨kind, value, children⟩ - 1) =
        next + SyntaxTree.size ⟨kind, value, children⟩ := by omega
    simp only [push, flag, if_true, numbers]
    simp
  | false =>
    have numbers : next + 1 + (preorderAll children).length =
        next + SyntaxTree.size ⟨kind, value, children⟩ := by omega
    simp only [push, flag, Bool.false_eq_true, if_false, collectAll_eq, numbers]
    simp

theorem collectAll_eq (listing : Listing) (collapsed : Nat → Bool) (level : Nat)
    (trees : List SyntaxTree) :
    listing.collectAll collapsed level trees =
      ⟨listing.next + (preorderAll trees).length,
        listing.rows ++ (ofTrees collapsed listing.next level trees).toArray⟩ := by
  cases trees with
  | nil => simp [collectAll, ofTrees, preorderAll]
  | cons tree trees =>
    rw [collectAll, collect_eq, collectAll_eq, ofTrees, length_preorderAll_cons, Nat.add_assoc]
    simp

end

end Listing

namespace TreeView

theorem rows_eq (view : TreeView) (tree : SyntaxTree) :
    view.rows tree = TreeRow.ofTree view.collapsed 0 0 tree := by
  rw [rows, Listing.collect_eq]
  simp

/-- Whether the node of some number, among nodes in preorder, has children. -/
def isInner (nodes : List SyntaxTree) (number : Nat) : Bool :=
  nodes[number]?.any (!·.children.isEmpty)

end TreeView

namespace InnerNumbers

open SyntaxTree TreeView

/-- Whether a number is that of a node with children, where nodes are numbered from some number on. -/
def innerFrom (first : Nat) (nodes : List SyntaxTree) (number : Nat) : Bool :=
  decide (first ≤ number) && isInner nodes (number - first)

theorem innerFrom_append (first number : Nat) (front back : List SyntaxTree) :
    innerFrom first (front ++ back) number =
      (innerFrom first front number || innerFrom (first + front.length) back number) := by
  rw [innerFrom, innerFrom, innerFrom, isInner, isInner, isInner, List.getElem?_append]
  by_cases within : number - first < front.length
  · have before : ¬ first + front.length ≤ number := by omega
    simp [within, before]
  · have reached : first + front.length ≤ number ↔ first ≤ number := by omega
    simp [within, reached, Nat.sub_sub]

theorem note_numbers (inner : InnerNumbers) (node : SyntaxTree) (number : Nat) :
    (inner.note node.children).numbers number =
      (inner.numbers number || innerFrom inner.next [node] number) := by
  have alone : innerFrom inner.next [node] number =
      (number == inner.next && !node.children.isEmpty) := by
    rw [innerFrom, isInner]
    by_cases here : number = inner.next
    · simp [here]
    · by_cases behind : inner.next ≤ number
      · have none : [node][number - inner.next]? = none := by
          rw [List.getElem?_eq_none_iff, List.length_singleton]
          omega
        simp [here, none]
      · simp [here, behind]
  rw [note, alone]
  cases node.children.isEmpty <;> simp [Bool.or_comm]

mutual

/-- The nodes with children are noted by the numbers that all nodes are listed by. -/
theorem collect_eq (inner : InnerNumbers) (tree : SyntaxTree) :
    inner.collect tree =
      ⟨inner.next + tree.size, fun number =>
        inner.numbers number || innerFrom inner.next tree.preorder number⟩ := by
  obtain ⟨kind, value, children⟩ := tree
  have numbers : inner.next + 1 + (preorderAll children).length =
      inner.next + SyntaxTree.size ⟨kind, value, children⟩ := by
    rw [size_eq_succ]
    omega
  have own (number : Nat) : (inner.note children).numbers number = _ :=
    inner.note_numbers ⟨kind, value, children⟩ number
  have next : (inner.note children).next = inner.next + 1 := rfl
  rw [collect, collectAll_eq, next, numbers, preorder, ← List.singleton_append]
  simp only [own, innerFrom_append, List.length_singleton, Bool.or_assoc]

theorem collectAll_eq (inner : InnerNumbers) (trees : List SyntaxTree) :
    inner.collectAll trees =
      ⟨inner.next + (preorderAll trees).length, fun number =>
        inner.numbers number || innerFrom inner.next (preorderAll trees) number⟩ := by
  cases trees with
  | nil => simp [collectAll, preorderAll, innerFrom, isInner]
  | cons tree trees =>
    rw [collectAll, collect_eq, collectAll_eq, preorderAll]
    simp only [innerFrom_append, length_preorder, List.length_append, Nat.add_assoc, Bool.or_assoc]

end

end InnerNumbers

namespace TreeView

/-- The nodes that are collapsed are those with children, the root apart. -/
theorem collapseAll_eq (view : TreeView) (tree : SyntaxTree) :
    view.collapseAll tree = clampCursor
      { view with collapsed := fun number => number != 0 && isInner tree.preorder number } tree := by
  rw [collapseAll, InnerNumbers.collect_eq]
  simp [expandAll, InnerNumbers.innerFrom]

end TreeView

end SyntaxExplorer
