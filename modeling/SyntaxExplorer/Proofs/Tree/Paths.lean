import SyntaxExplorer.Proofs.Explorer.TreeRows

namespace SyntaxExplorer.SyntaxTree

/-- The node at the end of a path. Each step is the index of a child. -/
def at? : SyntaxTree → List Nat → Option SyntaxTree
  | tree, [] => some tree
  | tree, step :: path => tree.children[step]?.bind (·.at? path)

mutual

/-- The paths to all nodes, a node before its children. -/
def paths : SyntaxTree → List (List Nat)
  | ⟨_, _, children⟩ => [] :: pathsAll 0 children

/-- The paths to all nodes of trees side by side. The first tree is the child with some index. -/
def pathsAll (first : Nat) : List SyntaxTree → List (List Nat)
  | [] => []
  | tree :: trees => tree.paths.map (first :: ·) ++ pathsAll (first + 1) trees

end

/-- The number of the node at a path: its index among all nodes. -/
def number (tree : SyntaxTree) (path : List Nat) : Nat :=
  tree.paths.idxOf path

variable {tree child : SyntaxTree} {trees children : List SyntaxTree} {kind : NodeKind}
  {value : Option String} {path : List Nat} {first index : Nat}

section Listing

theorem mem_pathsAll :
    path ∈ pathsAll first trees ↔
      ∃ index tree rest, trees[index]? = some tree ∧ path = (first + index) :: rest ∧
        rest ∈ tree.paths := by
  induction trees generalizing first with
  | nil => simp [pathsAll]
  | cons tree trees ih =>
    rw [pathsAll, List.mem_append, List.mem_map, ih]
    constructor
    · rintro (⟨rest, member, rfl⟩ | ⟨index, other, rest, here, rfl, member⟩)
      · exact ⟨0, tree, rest, rfl, rfl, member⟩
      · exact ⟨index + 1, other, rest, here, by rw [Nat.add_right_comm, Nat.add_assoc], member⟩
    · rintro ⟨index, other, rest, here, rfl, member⟩
      cases index with
      | zero =>
        obtain rfl : tree = other := Option.some.inj here
        exact Or.inl ⟨rest, member, rfl⟩
      | succ index =>
        exact Or.inr ⟨index, other, rest, here, by rw [Nat.add_right_comm, Nat.add_assoc], member⟩

theorem nil_mem_paths (tree : SyntaxTree) : [] ∈ tree.paths := by
  obtain ⟨kind, value, children⟩ := tree
  exact List.mem_cons_self

theorem cons_mem_paths_iff :
    index :: path ∈ paths ⟨kind, value, children⟩ ↔
      ∃ child, children[index]? = some child ∧ path ∈ child.paths := by
  rw [paths, List.mem_cons, or_iff_right (List.cons_ne_nil index path), mem_pathsAll]
  constructor
  · rintro ⟨place, child, rest, here, same, member⟩
    obtain ⟨rfl, rfl⟩ := List.cons.inj same
    rw [Nat.zero_add]
    exact ⟨child, here, member⟩
  · rintro ⟨child, here, member⟩
    exact ⟨index, child, path, here, by rw [Nat.zero_add], member⟩

/-- The paths that are listed are those that lead to a node. -/
theorem mem_paths_iff : path ∈ tree.paths ↔ ∃ node, tree.at? path = some node := by
  induction path generalizing tree with
  | nil => exact ⟨fun _ => ⟨tree, by rw [at?]⟩, fun _ => nil_mem_paths tree⟩
  | cons step path ih =>
    obtain ⟨kind, value, children⟩ := tree
    rw [cons_mem_paths_iff, at?]
    constructor
    · rintro ⟨child, here, member⟩
      obtain ⟨node, found⟩ := ih.mp member
      exact ⟨node, Option.bind_eq_some_iff.mpr ⟨child, here, found⟩⟩
    · rintro ⟨node, found⟩
      obtain ⟨child, here, later⟩ := Option.bind_eq_some_iff.mp found
      exact ⟨child, here, ih.mpr ⟨node, later⟩⟩

/-- On the way to a node there are only nodes. -/
theorem take_mem_paths (member : path ∈ tree.paths) (steps : Nat) :
    path.take steps ∈ tree.paths := by
  induction path generalizing tree steps with
  | nil =>
    rw [List.take_nil]
    exact member
  | cons step path ih =>
    cases steps with
    | zero => exact nil_mem_paths tree
    | succ steps =>
      obtain ⟨kind, value, children⟩ := tree
      obtain ⟨child, here, later⟩ := cons_mem_paths_iff.mp member
      exact cons_mem_paths_iff.mpr ⟨child, here, ih later steps⟩

mutual

/-- The order of the outline is that of the paths, in which a shorter one stands before all that go on
from it. So none is listed twice. -/
theorem pairwise_paths (tree : SyntaxTree) : tree.paths.Pairwise (· < ·) := by
  obtain ⟨kind, value, children⟩ := tree
  rw [paths, List.pairwise_cons]
  refine ⟨fun path member => ?_, pairwise_pathsAll 0 children⟩
  obtain ⟨index, child, rest, -, rfl, -⟩ := mem_pathsAll.mp member
  exact List.nil_lt_cons _ _

theorem pairwise_pathsAll (first : Nat) (trees : List SyntaxTree) :
    (pathsAll first trees).Pairwise (· < ·) := by
  cases trees with
  | nil => exact .nil
  | cons tree trees =>
    rw [pathsAll, List.pairwise_append, List.pairwise_map]
    refine ⟨?_, pairwise_pathsAll (first + 1) trees, fun path here later member => ?_⟩
    · exact (pairwise_paths tree).imp fun before => List.cons_lt_cons_self.mpr before
    · obtain ⟨rest, -, rfl⟩ := List.mem_map.mp here
      obtain ⟨index, other, further, -, rfl, -⟩ := mem_pathsAll.mp member
      exact List.cons_lt_cons_iff.mpr (Or.inl (by omega))

end

mutual

theorem length_paths (tree : SyntaxTree) : tree.paths.length = tree.size := by
  obtain ⟨kind, value, children⟩ := tree
  rw [paths, size_eq_succ, List.length_cons, length_pathsAll]

theorem length_pathsAll (first : Nat) (trees : List SyntaxTree) :
    (pathsAll first trees).length = (preorderAll trees).length := by
  cases trees with
  | nil => rfl
  | cons tree trees =>
    have front := length_paths tree
    have back := length_pathsAll (first + 1) trees
    rw [pathsAll, length_preorderAll_cons, List.length_append, List.length_map, front, back]

end

end Listing

section Numbers

theorem idxOf_map_cons (step : Nat) (path : List Nat) (paths : List (List Nat)) :
    (paths.map (step :: ·)).idxOf (step :: path) = paths.idxOf path := by
  induction paths with
  | nil => rfl
  | cons other paths ih =>
    have same : (step :: other == step :: path) = (other == path) := by
      rw [List.cons_beq_cons, beq_self_eq_true, Bool.true_and]
    rw [List.map_cons, List.idxOf_cons, List.idxOf_cons, same, ih]

/-- Among trees side by side a node stands behind all nodes of the trees before its own. -/
theorem idxOf_pathsAll (first : Nat) (here : trees[index]? = some child)
    (member : path ∈ child.paths) :
    (pathsAll first trees).idxOf ((first + index) :: path) =
      (preorderAll (trees.take index)).length + child.number path := by
  induction trees generalizing first index with
  | nil => simp at here
  | cons tree trees ih =>
    rw [pathsAll, List.idxOf_append]
    cases index with
    | zero =>
      obtain rfl : tree = child := Option.some.inj here
      have among : first :: path ∈ tree.paths.map (first :: ·) := List.mem_map_of_mem member
      rw [Nat.add_zero, if_pos among, idxOf_map_cons, List.take_zero]
      exact (Nat.zero_add _).symm
    | succ index =>
      have elsewhere : (first + (index + 1)) :: path ∉ tree.paths.map (first :: ·) := by
        intro among
        obtain ⟨rest, -, same⟩ := List.mem_map.mp among
        have steps := (List.cons.inj same).1
        omega
      have shift : first + (index + 1) = first + 1 + index := by omega
      have later := ih (first + 1) here
      rw [if_neg elsewhere, shift, later, List.length_map, length_paths, List.take_succ_cons,
        length_preorderAll_cons]
      omega

theorem number_nil (tree : SyntaxTree) : tree.number [] = 0 := by
  obtain ⟨kind, value, children⟩ := tree
  rw [number, paths, List.idxOf_cons_self]

/-- A node's number counts the root, all nodes of the children before its own, and what its own child's
part of the tree lists before it. -/
theorem number_cons (here : children[index]? = some child) (member : path ∈ child.paths) :
    number ⟨kind, value, children⟩ (index :: path) =
      1 + (preorderAll (children.take index)).length + child.number path := by
  have root : ([] == index :: path) = false := rfl
  have below := idxOf_pathsAll 0 here member
  rw [Nat.zero_add] at below
  rw [number, paths, List.idxOf_cons, root, cond_false, below]
  omega

end Numbers

end SyntaxExplorer.SyntaxTree
