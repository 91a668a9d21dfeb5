import SyntaxExplorer.Proofs.Explorer.Selection

namespace SyntaxExplorer

namespace TreeRow

/-- The row when its node has been opened or collapsed. -/
def flipped (row : TreeRow) : TreeRow :=
  { row with collapsed := !row.collapsed }

/-- The rows around a row: those before it, those below its node, and those behind. -/
structure Surroundings where
  front : List TreeRow
  below : List TreeRow
  back : List TreeRow

namespace Surroundings

/-- All rows. Those below a collapsed row are not shown. -/
def rows (around : Surroundings) (row : TreeRow) : List TreeRow :=
  around.front ++ row :: ((if row.collapsed then [] else around.below) ++ around.back)

/-- The rows stand around the row at some index. Those below it are the rows of its node's children, with
what is collapsed among them, and they are the longest run of deeper rows behind it. -/
structure Fit (around : Surroundings) (collapsed : Nat → Bool) (index : Nat) (row : TreeRow) :
    Prop where
  place : around.front.length = index
  below : around.below = ofTrees collapsed (row.number + 1) (row.level + 1) row.tree.children
  deeper : ∀ other ∈ around.below, row.level < other.level
  ends : ∀ next ∈ around.back.head?, next.level ≤ row.level

theorem getElem?_rows (around : Surroundings) (row : TreeRow) :
    (around.rows row)[around.front.length]? = some row := by
  rw [rows, List.getElem?_append_right (Nat.le_refl _), Nat.sub_self]
  rfl

end Surroundings

end TreeRow

namespace TreeView

open TreeRow

variable {view : TreeView} {tree : SyntaxTree} {row : TreeRow}

theorem flip_flip (view : TreeView) (number : Nat) : (view.flip number).flip number = view := by
  refine TreeView.ext (funext fun other => ?_) rfl rfl
  by_cases same : other = number
  · subst same
    simp only [flip, if_true, Bool.not_not]
  · simp only [flip, if_neg same]

theorem flip_collapsed_self (view : TreeView) (number : Nat) :
    (view.flip number).collapsed number = !view.collapsed number :=
  if_pos rfl

/-- What is collapsed below a row stays so when the row's own node is opened or collapsed. -/
theorem ofTrees_flip (view : TreeView) (row : TreeRow) :
    ofTrees (view.flip row.number).collapsed (row.number + 1) (row.level + 1) row.tree.children =
      ofTrees view.collapsed (row.number + 1) (row.level + 1) row.tree.children :=
  ofTrees_congr _ _ _ fun number above _ => if_neg (by omega)

/-- Around a row everything stays when its node is opened or collapsed. -/
theorem exists_surroundings {index : Nat} (here : (view.rows tree)[index]? = some row) :
    ∃ around : Surroundings, around.Fit view.collapsed index row ∧
      view.rows tree = around.rows row ∧
      (view.flip row.number).rows tree = around.rows row.flipped := by
  obtain ⟨front, back, length, ends, split⟩ := ofTree_split 0 0 tree (view.rows_eq tree ▸ here)
  have before : view.rows tree =
      front ++ ofTree view.collapsed row.number row.level row.tree ++ back := by
    rw [rows_eq, split view.collapsed fun _ _ => rfl]
  have after : (view.flip row.number).rows tree =
      front ++ ofTree (view.flip row.number).collapsed row.number row.level row.tree ++ back := by
    rw [rows_eq, split _ (view.agreeOutside_flip row)]
  rw [ofTree_eq, List.append_assoc] at before after
  rw [ofTrees_flip, flip_collapsed_self] at after
  -- The row at the index is the first of its node's own rows, so it is marked as they are.
  have flag : view.collapsed row.number = row.collapsed := by
    rw [before, List.getElem?_append_right (Nat.le_of_eq length), length, Nat.sub_self,
      List.cons_append, List.getElem?_cons_zero] at here
    exact congrArg TreeRow.collapsed (Option.some.inj here)
  rw [flag] at before after
  refine ⟨⟨front, _, back⟩, ⟨length, rfl, fun other member => ?_, ends⟩, before, after⟩
  exact level_le_of_mem_ofTrees _ _ _ member

/-- What can be opened or collapsed is the selected row, if its node has children. -/
theorem target_eq_some_iff :
    view.target tree = some row ↔
      (view.rows tree)[view.cursor]? = some row ∧ row.hasChildren = true :=
  Option.filter_eq_some_iff

theorem toggle_of_target (found : view.target tree = some row) :
    view.toggle tree = view.flip row.number := by
  rw [toggle, turn, found]

theorem toggle_of_no_target (none : view.target tree = none) : view.toggle tree = view := by
  rw [toggle, turn, none]

/-- The selected row can be toggled once more, as it stays where it is. -/
theorem target_flip (found : view.target tree = some row) :
    (view.flip row.number).target tree = some row.flipped := by
  obtain ⟨here, children⟩ := target_eq_some_iff.mp found
  obtain ⟨around, fit, -, after⟩ := exists_surroundings here
  refine target_eq_some_iff.mpr ⟨?_, children⟩
  have cursor : (view.flip row.number).cursor = around.front.length := fit.place.symm
  rw [after, cursor, around.getElem?_rows]

theorem toggle_toggle (found : view.target tree = some row) :
    (view.toggle tree).toggle tree = view := by
  have again := toggle_of_target (target_flip found)
  rw [toggle_of_target found, again]
  exact view.flip_flip row.number

/-- A toggle tells that it turned a node if the selected row is there and its node has children. It turns the
mark of that row round, which hides the rows below it or brings them back as they were, and changes no
other row; a second one undoes it. Otherwise nothing changes. -/
theorem toggle_turns (view : TreeView) (tree : SyntaxTree) :
    (∀ row, (view.rows tree)[view.cursor]? = some row → row.hasChildren = true →
        (view.turn tree).2 = true ∧ view.toggle tree = view.flip row.number ∧
        (∃ around : Surroundings, around.Fit view.collapsed view.cursor row ∧
          view.rows tree = around.rows row ∧
          (view.toggle tree).rows tree = around.rows row.flipped) ∧
        (view.toggle tree).toggle tree = view) ∧
      ((∀ row, (view.rows tree)[view.cursor]? = some row → row.hasChildren = false) →
        (view.turn tree).2 = false ∧ view.toggle tree = view) := by
  constructor
  · intro row here children
    have found : view.target tree = some row := target_eq_some_iff.mpr ⟨here, children⟩
    have turned := toggle_of_target found
    refine ⟨by rw [turn, found], turned, ?_, toggle_toggle found⟩
    rw [turned]
    exact exists_surroundings here
  · intro leaf
    have none : view.target tree = none := by
      refine Option.eq_none_iff_forall_ne_some.mpr fun row found => ?_
      obtain ⟨here, children⟩ := target_eq_some_iff.mp found
      rw [leaf row here] at children
      cases children
    exact ⟨by rw [turn, none], toggle_of_no_target none⟩

/-- The tree of a program with a block in a block. -/
def nestedTree : SyntaxTree :=
  ⟨.program, none, [⟨.block, none, [.leaf .identifier "a",
    ⟨.block, none, [.leaf .identifier "b"]⟩]⟩, .leaf .identifier "c"]⟩

/-- The inner block is collapsed and stays so when the outer one is collapsed and opened again; on the
first name nothing can be toggled. -/
theorem toggle_turns_nested :
    let view : TreeView := ⟨fun number => number == 3, 1, 0⟩
    let name : TreeView := ⟨fun number => number == 3, 2, 0⟩
    (∃ row, (view.rows nestedTree)[view.cursor]? = some row ∧ row.hasChildren = true ∧
      (view.rows nestedTree).map TreeRow.number = [0, 1, 2, 3, 5] ∧
      ((view.toggle nestedTree).rows nestedTree).map TreeRow.number = [0, 1, 5] ∧
      (view.toggle nestedTree).toggle nestedTree = view) ∧
      (∀ row, (name.rows nestedTree)[name.cursor]? = some row → row.hasChildren = false) ∧
      name.toggle nestedTree = name := by
  intro view name
  have leaf : ∀ row, (name.rows nestedTree)[name.cursor]? = some row → row.hasChildren = false := by
    intro row here
    obtain rfl := Option.some.inj here
    rfl
  refine ⟨⟨_, rfl, rfl, rfl, rfl, ?_⟩, leaf, ((toggle_turns name nestedTree).2 leaf).2⟩
  exact ((toggle_turns view nestedTree).1 _ rfl rfl).2.2.2

end TreeView

end SyntaxExplorer
