import SyntaxExplorer.Proofs.Explorer.Toggling
import SyntaxExplorer.Proofs.Explorer.VisibleNodes

namespace SyntaxExplorer

namespace TreeRow

open SyntaxTree

variable {collapsed : Nat → Bool} {number level : Nat} {trees : List SyntaxTree} {row : TreeRow}

/-- The rows of trees side by side of which each is collapsed that has children. -/
def shut (number level : Nat) : List SyntaxTree → List TreeRow
  | [] => []
  | tree :: trees =>
    ⟨number, level, tree, !tree.children.isEmpty⟩ :: shut (number + tree.size) level trees

/-- The rows of a node's children, each of them collapsed that has children itself. -/
def shutChildren (row : TreeRow) : List TreeRow :=
  shut (row.number + 1) (row.level + 1) row.tree.children

/-- Where the rows with children are the collapsed ones, no row is below another. -/
theorem ofTrees_eq_shut
    (marked : ∀ row ∈ ofTrees collapsed number level trees, row.collapsed = row.hasChildren) :
    ofTrees collapsed number level trees = shut number level trees := by
  induction trees generalizing number with
  | nil => rfl
  | cons tree trees ih =>
    rw [ofTrees, ofTree_eq] at marked ⊢
    have flag : collapsed number = !tree.children.isEmpty := marked _ List.mem_cons_self
    have later : ofTrees collapsed (number + tree.size) level trees =
        shut (number + tree.size) level trees :=
      ih fun row member => marked row (List.mem_append_right _ member)
    have below : (if collapsed number then [] else
        ofTrees collapsed (number + 1) (level + 1) tree.children) = [] := by
      cases children : tree.children with
      | nil => rw [ofTrees, ite_self]
      | cons first others => rw [flag, children]; rfl
    rw [below, flag, later]
    rfl

/-- The nodes below a row are numbered behind it and before what is behind its part of the tree. -/
theorem range_of_mem_children {child : TreeRow}
    (member : child ∈ ofTrees collapsed (row.number + 1) level row.tree.children) :
    row.number < child.number ∧ child.number + child.tree.size ≤ row.number + row.tree.size := by
  obtain ⟨number, depth, ⟨kind, value, children⟩, flag⟩ := row
  have range := range_of_mem_ofTrees member
  have size := size_eq_succ kind value children
  dsimp only at range ⊢
  omega

mutual

/-- The nodes that a collapsed row hides are numbered before all rows behind it. -/
theorem pairwise_hides_ofTree (collapsed : Nat → Bool) (number level : Nat) (tree : SyntaxTree) :
    (ofTree collapsed number level tree).Pairwise fun row other =>
      row.collapsed = true → row.number + row.tree.size ≤ other.number := by
  obtain ⟨kind, value, children⟩ := tree
  rw [ofTree, List.pairwise_cons]
  cases collapsed number with
  | true => exact ⟨fun row member => absurd member List.not_mem_nil, .nil⟩
  | false =>
    refine ⟨fun row member closed => Bool.noConfusion closed, ?_⟩
    exact pairwise_hides_ofTrees collapsed (number + 1) (level + 1) children

theorem pairwise_hides_ofTrees (collapsed : Nat → Bool) (number level : Nat)
    (trees : List SyntaxTree) :
    (ofTrees collapsed number level trees).Pairwise fun row other =>
      row.collapsed = true → row.number + row.tree.size ≤ other.number := by
  cases trees with
  | nil => exact .nil
  | cons tree trees =>
    rw [ofTrees, List.pairwise_append]
    refine ⟨pairwise_hides_ofTree collapsed number level tree,
      pairwise_hides_ofTrees collapsed (number + tree.size) level trees,
      fun row first other later closed => ?_⟩
    have before := (range_of_mem_ofTree first).2
    have behind := (range_of_mem_ofTrees later).1
    omega

end

mutual

/-- Where nothing is collapsed the rows are all nodes, numbered one after the other. -/
theorem map_ofTree_open (number level : Nat) (tree : SyntaxTree) :
    (ofTree (fun _ => false) number level tree).map (fun row => (row.tree, row.number)) =
      tree.preorder.zipIdx number := by
  obtain ⟨kind, value, children⟩ := tree
  have below := map_ofTrees_open (number + 1) (level + 1) children
  rw [ofTree, preorder, List.zipIdx_cons, ← below]
  rfl

theorem map_ofTrees_open (number level : Nat) (trees : List SyntaxTree) :
    (ofTrees (fun _ => false) number level trees).map (fun row => (row.tree, row.number)) =
      (preorderAll trees).zipIdx number := by
  cases trees with
  | nil => rfl
  | cons tree trees =>
    have first := map_ofTree_open number level tree
    have later := map_ofTrees_open (number + tree.size) level trees
    rw [ofTrees, preorderAll, List.map_append, List.zipIdx_append, length_preorder, first, later]

end

end TreeRow

namespace TreeView

open TreeRow

variable {view start : TreeView} {tree : SyntaxTree} {row : TreeRow}

/-- A row's node is found by the row's number. -/
theorem preorder_of_mem_rows (member : row ∈ view.rows tree) :
    tree.preorder[row.number]? = some row.tree := by
  rw [rows_eq] at member
  obtain ⟨index, place, here⟩ := preorder_of_mem_ofTree 0 0 tree member
  rwa [place, Nat.zero_add]

theorem collapsed_of_mem_rows (member : row ∈ view.rows tree) :
    row.collapsed = view.collapsed row.number := by
  rw [rows_eq] at member
  obtain ⟨path, visible⟩ := mem_ofTree_iff.mp member
  exact visible.flag

theorem isInner_of_mem_rows (member : row ∈ view.rows tree) :
    isInner tree.preorder row.number = row.hasChildren := by
  rw [isInner, preorder_of_mem_rows member, Option.any_some]
  rfl

/-- Below a collapsed row all nodes with children are collapsed, and no others. -/
def ShutBelow (view : TreeView) (tree : SyntaxTree) : Prop :=
  ∀ row ∈ view.rows tree, row.collapsed = true → ∀ number, row.number < number →
    number < row.number + row.tree.size → view.collapsed number = isInner tree.preorder number

/-- What comes of a view when its cursor and its offset are moved anywhere and nodes are opened, but none
is closed: a toggle finds a collapsed row, or nothing to toggle. -/
inductive Opens (tree : SyntaxTree) (start : TreeView) : TreeView → Prop
  | start : Opens tree start start
  | up {view : TreeView} (before : Opens tree start view) : Opens tree start view.moveUp
  | down {view : TreeView} (before : Opens tree start view) : Opens tree start (view.moveDown tree)
  | place {view : TreeView} (before : Opens tree start view) (cursor scroll : Nat) :
      Opens tree start { view with cursor := cursor, scroll := scroll }
  | toggle {view : TreeView} (before : Opens tree start view)
      (opens : ∀ row, view.target tree = some row → row.collapsed = true) :
      Opens tree start (view.toggle tree)

theorem collapsed_collapseAll (view : TreeView) (tree : SyntaxTree) (number : Nat) :
    (view.collapseAll tree).collapsed number = (number != 0 && isInner tree.preorder number) := by
  rw [collapseAll_eq]
  rfl

theorem shutBelow_collapseAll (view : TreeView) (tree : SyntaxTree) :
    (view.collapseAll tree).ShutBelow tree := by
  intro row _ _ number behind _
  have other : (number != 0) = true := bne_iff_ne.mpr (by omega)
  rw [collapsed_collapseAll, other, Bool.true_and]

/-- The rows below a collapsed row are those of its node's children, once it is open. -/
theorem ShutBelow.ofTrees_children (shutBelow : view.ShutBelow tree)
    (here : (view.rows tree)[view.cursor]? = some row) (closed : row.collapsed = true) :
    ofTrees view.collapsed (row.number + 1) (row.level + 1) row.tree.children =
      row.shutChildren := by
  obtain ⟨around, fit, -, opened⟩ := exists_surroundings here
  refine ofTrees_eq_shut fun child member => ?_
  have shown : child ∈ (view.flip row.number).rows tree := by
    rw [opened, Surroundings.rows, flipped, closed, fit.below]
    simp [member]
  have range := range_of_mem_children member
  have positive := child.tree.size_pos
  have kept : (view.flip row.number).collapsed child.number = view.collapsed child.number :=
    if_neg (by omega)
  have inner := shutBelow row (List.mem_of_getElem? here) closed child.number range.1 (by omega)
  rw [collapsed_of_mem_rows shown, kept, inner, isInner_of_mem_rows shown]

/-- Opening a row brings in the rows of its node's children. -/
theorem ShutBelow.exists_toggle (shutBelow : view.ShutBelow tree)
    (found : view.target tree = some row) (closed : row.collapsed = true) :
    ∃ front back, front.length = view.cursor ∧ view.rows tree = front ++ row :: back ∧
      (view.toggle tree).rows tree = front ++ row.flipped :: (row.shutChildren ++ back) := by
  obtain ⟨here, -⟩ := target_eq_some_iff.mp found
  obtain ⟨around, fit, before, after⟩ := exists_surroundings here
  refine ⟨around.front, around.back, fit.place, ?_, ?_⟩
  · rw [before, Surroundings.rows, closed]
    rfl
  · rw [toggle_of_target found, after, ← shutBelow.ofTrees_children here closed, ← fit.below,
      Surroundings.rows, flipped, closed]
    rfl

/-- A collapsed row before another hides none of the nodes at that one and behind it. -/
theorem number_of_split {front back : List TreeRow} (split : view.rows tree = front ++ row :: back)
    {other : TreeRow} (closed : other.collapsed = true) :
    (other ∈ front → other.number + other.tree.size ≤ row.number) ∧
      (other ∈ back → row.number < other.number) := by
  have hides := pairwise_hides_ofTree view.collapsed 0 0 tree
  have ascends := pairwise_ofTree view.collapsed 0 0 tree
  rw [← rows_eq, split, List.pairwise_append] at hides ascends
  constructor
  · intro member
    exact hides.2.2 other member row List.mem_cons_self closed
  · intro member
    exact (List.pairwise_cons.mp ascends.2.1).1 other member

/-- The rows that an opened row brings in hide nodes that it hid before. -/
theorem ShutBelow.toggle (shutBelow : view.ShutBelow tree)
    (opens : ∀ row, view.target tree = some row → row.collapsed = true) :
    (view.toggle tree).ShutBelow tree := by
  cases found : view.target tree with
  | none => rwa [toggle_of_no_target found]
  | some row =>
    have closed := opens row found
    obtain ⟨here, -⟩ := target_eq_some_iff.mp found
    obtain ⟨front, back, -, before, after⟩ := shutBelow.exists_toggle found closed
    have below := shutBelow.ofTrees_children here closed
    intro other member hides number behind within
    have apart := number_of_split before hides
    have kept (elsewhere : number ≠ row.number) :
        (view.toggle tree).collapsed number = view.collapsed number := by
      rw [toggle_of_target found]
      exact if_neg elsewhere
    rw [after, ← below] at member
    simp only [List.mem_append, List.mem_cons] at member
    rcases member with earlier | rfl | child | later
    · have beyond := apart.1 earlier
      rw [kept (by omega)]
      exact shutBelow other (by simp [before, earlier]) hides number behind within
    · rw [flipped, closed] at hides
      cases hides
    · have range := range_of_mem_children child
      rw [kept (by omega)]
      exact shutBelow row (List.mem_of_getElem? here) closed number (by omega) (by omega)
    · have beyond := apart.2 later
      rw [kept (by omega)]
      exact shutBelow other (by simp [before, later]) hides number behind within

theorem ShutBelow.opens (shutBelow : start.ShutBelow tree) (later : Opens tree start view) :
    view.ShutBelow tree := by
  induction later with
  | start => exact shutBelow
  | up _ ih => exact ih
  | down _ ih => exact ih
  | place _ _ _ ih => exact ih
  | toggle _ opens ih => exact ih.toggle opens

theorem rows_collapseAll (view : TreeView) (tree : SyntaxTree) :
    (view.collapseAll tree).rows tree = ⟨0, 0, tree, false⟩ :: shut 1 1 tree.children := by
  have whole : (view.collapseAll tree).rows tree =
      ⟨0, 0, tree, false⟩ :: ofTrees (view.collapseAll tree).collapsed 1 1 tree.children := by
    rw [rows_eq, ofTree_eq, collapsed_collapseAll]
    rfl
  rw [whole, ofTrees_eq_shut fun row member => ?_]
  have shown : row ∈ (view.collapseAll tree).rows tree := whole ▸ List.mem_cons_of_mem _ member
  have range := range_of_mem_ofTrees member
  have other : (row.number != 0) = true := bne_iff_ne.mpr (by omega)
  rw [collapsed_of_mem_rows shown, collapsed_collapseAll, other, Bool.true_and,
    isInner_of_mem_rows shown]

/-- When all is collapsed, the rows are those of the root and of its children, and the cursor is on one of
them. From then on, whatever was opened, opening a row brings in the rows of its node's children, and
those of them that have children are collapsed. When all is expanded, the rows are those of all nodes. -/
theorem collapseAll_opens (view : TreeView) (tree : SyntaxTree) :
    (view.collapseAll tree).rows tree = ⟨0, 0, tree, false⟩ :: shut 1 1 tree.children ∧
      (view.collapseAll tree).cursor < ((view.collapseAll tree).rows tree).length ∧
      (∀ later, Opens tree (view.collapseAll tree) later →
        ∀ row, later.target tree = some row → row.collapsed = true →
          ∃ front back, front.length = later.cursor ∧ later.rows tree = front ++ row :: back ∧
            (later.toggle tree).rows tree = front ++ row.flipped :: (row.shutChildren ++ back)) ∧
      (view.expandAll.rows tree).map (fun row => (row.tree, row.number)) = tree.preorder.zipIdx := by
  have everything : (view.expandAll.rows tree).map (fun row => (row.tree, row.number)) =
      tree.preorder.zipIdx := by
    rw [rows_eq]
    exact map_ofTree_open 0 0 tree
  refine ⟨rows_collapseAll view tree, (fits_collapseAll view tree).cursor, ?_, everything⟩
  intro later opens row found closed
  exact ((shutBelow_collapseAll view tree).opens opens).exists_toggle found closed

/-- The outer block is opened, and then the inner one. -/
theorem collapseAll_opens_nested :
    let outer := (fresh.collapseAll nestedTree).moveDown nestedTree
    let inner := { outer.toggle nestedTree with cursor := 3 }
    ((fresh.collapseAll nestedTree).rows nestedTree).map TreeRow.number = [0, 1, 5] ∧
      Opens nestedTree (fresh.collapseAll nestedTree) inner ∧
      ∃ row, inner.target nestedTree = some row ∧ row.collapsed = true ∧
        ∃ front back, front.length = 3 ∧ inner.rows nestedTree = front ++ row :: back ∧
          (inner.toggle nestedTree).rows nestedTree =
            front ++ row.flipped :: (row.shutChildren ++ back) ∧
          ((inner.toggle nestedTree).rows nestedTree).map TreeRow.number = [0, 1, 2, 3, 4, 5] := by
  have shut : ((fresh.collapseAll nestedTree).rows nestedTree).map TreeRow.number = [0, 1, 5] := by
    decide +kernel
  have first : (((fresh.collapseAll nestedTree).moveDown nestedTree).target nestedTree).all
      TreeRow.collapsed = true := by decide +kernel
  have second : (({ ((fresh.collapseAll nestedTree).moveDown nestedTree).toggle nestedTree with
      cursor := 3 } : TreeView).target nestedTree).any TreeRow.collapsed = true := by decide +kernel
  have numbers : ((({ ((fresh.collapseAll nestedTree).moveDown nestedTree).toggle nestedTree with
      cursor := 3 } : TreeView).toggle nestedTree).rows nestedTree).map TreeRow.number =
      [0, 1, 2, 3, 4, 5] := by decide +kernel
  intro outer inner
  have moved : Opens nestedTree (fresh.collapseAll nestedTree) outer := .down .start
  have opened : Opens nestedTree (fresh.collapseAll nestedTree) inner :=
    .place (.toggle moved ((Option.all_eq_true ..).mp first)) 3 0
  obtain ⟨row, found, closed⟩ := (Option.any_eq_true ..).mp second
  obtain ⟨-, -, opens, -⟩ := collapseAll_opens fresh nestedTree
  obtain ⟨front, back, place, before, after⟩ := opens inner opened row found closed
  exact ⟨shut, opened, row, found, closed, front, back, place, before, after, numbers⟩

end TreeView

end SyntaxExplorer
