import SyntaxExplorer.Compilation
import SyntaxExplorer.Explorer.Pane
import SyntaxExplorer.Tree.Basic

namespace SyntaxExplorer

open Terminal

/-- A visible node: its number, how far down it lies, and whether it is collapsed. -/
structure TreeRow where
  number : Nat
  level : Nat
  tree : SyntaxTree
  collapsed : Bool

namespace TreeRow

def hasChildren (row : TreeRow) : Bool :=
  !row.tree.children.isEmpty

/-- The number of nodes below the row's node. -/
def descendants (row : TreeRow) : Nat :=
  row.tree.size - 1

end TreeRow

/-- The number for the next node, and the rows so far. -/
structure Listing where
  next : Nat
  rows : Array TreeRow

namespace Listing

/-- One more row, which takes the next number. -/
def push (listing : Listing) (collapsed : Nat → Bool) (level : Nat) (tree : SyntaxTree) : Listing :=
  ⟨listing.next + 1, listing.rows.push ⟨listing.next, level, tree, collapsed listing.next⟩⟩

mutual

/-- Lists the visible nodes of a tree. Below a collapsed node there are none, but their numbers are passed
over. -/
def collect (listing : Listing) (collapsed : Nat → Bool) (level : Nat) : SyntaxTree → Listing
  | ⟨kind, value, children⟩ =>
    let shown := listing.push collapsed level ⟨kind, value, children⟩
    if collapsed listing.next then
      { shown with next := shown.next + (SyntaxTree.size ⟨kind, value, children⟩ - 1) }
    else shown.collectAll collapsed (level + 1) children

def collectAll (listing : Listing) (collapsed : Nat → Bool) (level : Nat) :
    List SyntaxTree → Listing
  | [] => listing
  | tree :: trees => (listing.collect collapsed level tree).collectAll collapsed level trees

end

end Listing

/-- A number for the next node, and the numbers of nodes with children so far. -/
structure InnerNumbers where
  next : Nat
  numbers : Nat → Bool

namespace InnerNumbers

/-- The next number is given to a node, and noted if the node has children. -/
def note (inner : InnerNumbers) (children : List SyntaxTree) : InnerNumbers where
  next := inner.next + 1
  numbers :=
    if children.isEmpty then inner.numbers
    else fun number => number == inner.next || inner.numbers number

mutual

/-- Numbers the nodes of a tree, whether they are visible or not. -/
def collect (inner : InnerNumbers) : SyntaxTree → InnerNumbers
  | ⟨_, _, children⟩ => (inner.note children).collectAll children

def collectAll (inner : InnerNumbers) : List SyntaxTree → InnerNumbers
  | [] => inner
  | tree :: trees => (inner.collect tree).collectAll trees

end

end InnerNumbers

/-- Which nodes are collapsed, the selected row, and how far the outline is scrolled. -/
@[ext] structure TreeView where
  collapsed : Nat → Bool
  cursor : Nat
  scroll : Nat

namespace TreeView

/-- Nothing collapsed, the first row selected and at the top. -/
def fresh : TreeView :=
  ⟨fun _ => false, 0, 0⟩

def rows (view : TreeView) (tree : SyntaxTree) : List TreeRow :=
  (Listing.collect ⟨0, #[]⟩ view.collapsed 0 tree).rows.toList

/-- The row at the cursor, if it can be collapsed. -/
def target (view : TreeView) (tree : SyntaxTree) : Option TreeRow :=
  (view.rows tree)[view.cursor]?.filter TreeRow.hasChildren

/-- Opens a node that is collapsed and collapses one that is not. -/
def flip (view : TreeView) (number : Nat) : TreeView :=
  { view with collapsed := fun other =>
      if other = number then !view.collapsed other else view.collapsed other }

/-- Opens or collapses the node at the cursor, and tells whether there is one. A node without children
stays as it is. -/
def turn (view : TreeView) (tree : SyntaxTree) : TreeView × Bool :=
  match view.target tree with
  | some row => (view.flip row.number, true)
  | none => (view, false)

def toggle (view : TreeView) (tree : SyntaxTree) : TreeView :=
  (view.turn tree).1

def expandAll (view : TreeView) : TreeView :=
  { view with collapsed := fun _ => false }

/-- The cursor held to the rows that there are. -/
def clampCursor (view : TreeView) (tree : SyntaxTree) : TreeView :=
  { view with cursor := min view.cursor ((view.rows tree).length - 1) }

/-- Collapses every node with children but the root. -/
def collapseAll (view : TreeView) (tree : SyntaxTree) : TreeView :=
  let cleared := view.expandAll
  let inner := InnerNumbers.collect ⟨0, cleared.collapsed⟩ tree
  clampCursor { cleared with collapsed := fun number => number != 0 && inner.numbers number } tree

def moveUp (view : TreeView) : TreeView :=
  { view with cursor := view.cursor - 1 }

/-- One row down, but not past the last. -/
def moveDown (view : TreeView) (tree : SyntaxTree) : TreeView :=
  { view with cursor := min (view.cursor + 1) ((view.rows tree).length - 1) }

/-- The view as it is drawn: the cursor is on a row, and the row is in view. -/
def settle (height : Nat) (view : TreeView) (tree : SyntaxTree) : TreeView :=
  let held := view.clampCursor tree
  { held with scroll := Scroll.toLine (Pane.visibleLines height) held.cursor held.scroll }

end TreeView

namespace TreePane

/-- What shows whether a row is open, collapsed, or a leaf. -/
def marker (row : TreeRow) : String :=
  if !row.hasChildren then "  " else if row.collapsed then "▸ " else "▾ "

/-- The line of a row. A collapsed row tells how many nodes it hides. -/
def line (selected : Bool) (row : TreeRow) : Line where
  spans :=
    [⟨SyntaxTree.indentation row.level, .plain⟩,
      ⟨marker row, .ink Theme.comment⟩,
      ⟨row.tree.kind.name, Theme.ofNode row.tree.kind⟩] ++
    (row.tree.value.elim [] fun value => [⟨": " ++ value, .ink Theme.letters⟩]) ++
    (if row.collapsed then
      [⟨"  (+" ++ toString row.descendants ++ ")", .ink Theme.comment⟩]
    else [])
  style := if selected then .ground Theme.selection else .plain

/-- The lines in view. The cursor shows only where keys go to the pane. -/
def visible (height : Nat) (tree : SyntaxTree) (view : TreeView) (focused : Bool) : List Line :=
  (((view.rows tree).zipIdx.drop view.scroll).take (Pane.visibleLines height)).map
    fun (row, index) => line (focused && index == view.cursor) row

/-- What the pane shows of a tree in a settled view. -/
def content (height : Nat) (tree : SyntaxTree) (view : TreeView) (focused : Bool) : Paragraph where
  lines := visible height tree view focused

/-- What the pane shows where there is no tree. -/
def absence (error : Option CompileError) : Paragraph where
  lines := match error with
    | some error =>
      [.single error.stage (Style.ink Theme.error).strong,
        .single error.message (.ink Theme.error)]
    | none => [.single "(no tree)" .plain]
  flow := .wrap 0

def frame (focused : Bool) : Frame :=
  Pane.frame " Syntax Tree " focused 1

end TreePane

end SyntaxExplorer
