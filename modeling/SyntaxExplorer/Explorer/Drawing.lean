import SyntaxExplorer.Explorer.State
import SyntaxExplorer.Terminal.Screen

namespace SyntaxExplorer

open Terminal

/-- Where the panes and the status bar lie on a terminal. -/
structure Layout where
  source : Area
  tokens : Area
  tree : Area
  report : Area
  bar : Area
  deriving DecidableEq, Repr

namespace Layout

/-- The bar takes the last row. The panes stand in two columns of equal width; the upper panes take
somewhat more than half of the height. -/
def ofSize (width height : Nat) : Layout :=
  let (panes, bar) := (Area.whole width height).splitAtRow (height - 1)
  let (left, right) := panes.splitColumns 50
  let (source, tokens) := left.splitRows 55
  let (tree, report) := right.splitRows 65
  ⟨source, tokens, tree, report, bar⟩

def areas (layout : Layout) : List Area :=
  [layout.source, layout.tokens, layout.tree, layout.report, layout.bar]

/-- Every place of the terminal lies in one area only. -/
theorem countP_contains_areas {width height x y : Nat} (inWidth : x < width)
    (inHeight : y < height) : (ofSize width height).areas.countP (·.contains x y) = 1 := by
  simp only [ofSize, areas, Area.whole, Area.splitAtRow, Area.splitAtColumn, Area.splitColumns,
    Area.splitRows, List.countP_cons, List.countP_nil, Area.contains, Bool.and_eq_true,
    decide_eq_true_eq]
  split <;> split <;> split <;> split <;> split <;> omega

end Layout

namespace Explorer

/-- The state in which the explorer is drawn: the selections are in view and no offset reaches past
the end. The source follows the mark as long as it has not the focus itself. -/
def settle (width height : Nat) (explorer : Explorer) : Explorer :=
  let layout := Layout.ofSize width height
  { explorer with
    sourceScroll := SourcePane.settle layout.source.height explorer.source explorer.mark?
      (explorer.focus ≠ .source) explorer.sourceScroll
    tokenScroll := TokenPane.settle layout.tokens.height explorer.tokens explorer.tokenCursor
      explorer.tokenScroll
    treeView := explorer.tree?.elim explorer.treeView
      (explorer.treeView.settle layout.tree.height)
    reportScroll := ReportPane.settle layout.report.height explorer.report? explorer.error?
      explorer.reportScroll }

/-- What the tree's pane shows in a settled state. -/
def treeContent (height : Nat) (explorer : Explorer) : Paragraph :=
  match explorer.tree? with
  | some tree => TreePane.content height tree explorer.treeView (explorer.focus = .tree)
  | none => TreePane.absence explorer.error?

def picture (width height : Nat) (explorer : Explorer) : Picture :=
  let layout := Layout.ofSize width height
  let source := SourcePane.content layout.source.height explorer.source explorer.mark?
    explorer.sourceScroll
  let tokens := TokenPane.content layout.tokens.height explorer.tokens explorer.tokenCursor
    explorer.tokenScroll
  let tree := explorer.treeContent layout.tree.height
  let report := ReportPane.content explorer.report? explorer.error? explorer.reportScroll
  let panes := (Picture.blank width height)
    |>.drawFramed layout.source (SourcePane.frame (explorer.focus = .source)) source
    |>.drawFramed layout.tokens (TokenPane.frame explorer.tokens (explorer.focus = .tokens)) tokens
    |>.drawFramed layout.tree (TreePane.frame (explorer.focus = .tree)) tree
    |>.drawFramed layout.report (ReportPane.frame (explorer.focus = .report)) report
  StatusBar.drawOn panes layout.bar explorer.status.message explorer.label explorer.error?

/-- Draws the explorer: the state afterwards, and what the terminal shows. -/
def draw (width height : Nat) (explorer : Explorer) : Explorer × Screen :=
  let settled := explorer.settle width height
  (settled, .ofPicture (settled.picture width height))

end Explorer

end SyntaxExplorer
