import SyntaxExplorer.Proofs.Explorer.MarkedLine
import SyntaxExplorer.Proofs.Explorer.Session
import SyntaxExplorer.Proofs.Explorer.TreeRows

namespace SyntaxExplorer

namespace TreeView

variable {view : TreeView} {tree : SyntaxTree}

/-- Only nodes with children are collapsed. -/
def CollapsesInner (view : TreeView) (tree : SyntaxTree) : Prop :=
  ∀ number, view.collapsed number = true →
    ∃ node, tree.preorder[number]? = some node ∧ node.children ≠ []

/-- The cursor is on a row of the tree, and only nodes with children are collapsed. -/
structure Fits (view : TreeView) (tree : SyntaxTree) : Prop where
  cursor : view.cursor < (view.rows tree).length
  inner : view.CollapsesInner tree

theorem length_rows_pos (view : TreeView) (tree : SyntaxTree) : 0 < (view.rows tree).length := by
  rw [rows_eq]
  exact TreeRow.length_ofTree_pos ..

theorem fits_fresh (tree : SyntaxTree) : fresh.Fits tree :=
  ⟨length_rows_pos fresh tree, fun _ collapsed => by cases collapsed⟩

theorem fits_clampCursor (inner : view.CollapsesInner tree) : (view.clampCursor tree).Fits tree where
  cursor := by
    have some := length_rows_pos view tree
    have rows : (view.clampCursor tree).rows tree = view.rows tree := rfl
    have cursor : (view.clampCursor tree).cursor =
        min view.cursor ((view.rows tree).length - 1) := rfl
    rw [rows, cursor]
    omega
  inner := inner

/-- A cursor on a row is where it is held. -/
theorem Fits.clampCursor_eq (fits : view.Fits tree) : view.clampCursor tree = view := by
  have bound := fits.cursor
  have held : min view.cursor ((view.rows tree).length - 1) = view.cursor := by omega
  rw [clampCursor, held]

theorem Fits.moveUp (fits : view.Fits tree) : view.moveUp.Fits tree :=
  ⟨Nat.lt_of_le_of_lt (Nat.sub_le _ _) fits.cursor, fits.inner⟩

/-- Moving down is holding a cursor that was moved too far. -/
theorem Fits.moveDown (fits : view.Fits tree) : (view.moveDown tree).Fits tree := by
  have inner : CollapsesInner { view with cursor := view.cursor + 1 } tree := fits.inner
  exact fits_clampCursor inner

theorem Fits.settle (fits : view.Fits tree) (height : Nat) : (view.settle height tree).Fits tree := by
  have held := fits_clampCursor fits.inner
  exact ⟨held.cursor, held.inner⟩

/-- Where nothing is collapsed all rows from before are there and more. -/
theorem Fits.expandAll (fits : view.Fits tree) : view.expandAll.Fits tree where
  cursor := by
    have before := fits.cursor
    rw [rows_eq] at before ⊢
    exact Nat.lt_of_lt_of_le before
      (TreeRow.length_ofTree_mono (fun _ collapsed => by cases collapsed) 0 0 tree)
  inner _ collapsed := by cases collapsed

theorem isInner_iff {nodes : List SyntaxTree} {number : Nat} :
    isInner nodes number = true ↔ ∃ node, nodes[number]? = some node ∧ node.children ≠ [] := by
  rw [isInner, Option.any_eq_true]
  simp

theorem fits_collapseAll (view : TreeView) (tree : SyntaxTree) : (view.collapseAll tree).Fits tree := by
  rw [collapseAll_eq]
  refine fits_clampCursor fun number collapsed => ?_
  have parts := (Bool.and_eq_true _ _).mp collapsed
  exact isInner_iff.mp parts.2

theorem agreeOutside_flip (view : TreeView) (row : TreeRow) :
    row.AgreeOutside (view.flip row.number).collapsed view.collapsed := by
  intro number outside
  have positive := row.tree.size_pos
  have other : number ≠ row.number := by omega
  exact if_neg other

/-- A row stays where its node is opened or collapsed, as nothing changes before it. -/
theorem lt_length_rows_flip {index : Nat} {row : TreeRow}
    (here : (view.rows tree)[index]? = some row) :
    index < ((view.flip row.number).rows tree).length := by
  rw [rows_eq] at here
  obtain ⟨front, back, length, -, split⟩ := TreeRow.ofTree_split 0 0 tree here
  have shown := TreeRow.length_ofTree_pos (view.flip row.number).collapsed row.number row.level
    row.tree
  rw [rows_eq, split _ (view.agreeOutside_flip row), List.length_append, List.length_append, length]
  omega

theorem CollapsesInner.flip {row : TreeRow} (inner : view.CollapsesInner tree)
    (member : row ∈ view.rows tree) (children : row.hasChildren = true) :
    (view.flip row.number).CollapsesInner tree := by
  intro number collapsed
  by_cases same : number = row.number
  · rw [rows_eq] at member
    obtain ⟨index, place, node⟩ := TreeRow.preorder_of_mem_ofTree 0 0 tree member
    rw [same, place, Nat.zero_add]
    refine ⟨row.tree, node, fun leaf => ?_⟩
    rw [TreeRow.hasChildren, leaf] at children
    cases children
  · have before : view.collapsed number = true := (if_neg same).symm.trans collapsed
    exact inner number before

theorem Fits.toggle (fits : view.Fits tree) : (view.toggle tree).Fits tree := by
  rw [TreeView.toggle, turn]
  cases found : view.target tree with
  | none => exact fits
  | some row =>
    obtain ⟨here, children⟩ := Option.filter_eq_some_iff.mp found
    exact ⟨lt_length_rows_flip here, fits.inner.flip (List.mem_of_getElem? here) children⟩

end TreeView

namespace Explorer

variable {explorer : Explorer}

/-- The selected token is there, if there are tokens, and the view of the tree fits the tree. -/
structure Selects (explorer : Explorer) : Prop where
  token : explorer.tokenCursor < explorer.tokens.length ∨
    explorer.tokenCursor = 0 ∧ explorer.tokens.length = 0
  view : ∀ tree, explorer.tree? = some tree → explorer.treeView.Fits tree

theorem selects_of_first (token : explorer.tokenCursor = 0) (view : explorer.treeView = .fresh) :
    explorer.Selects where
  token := by
    rw [token]
    rcases Nat.eq_zero_or_pos explorer.tokens.length with none | some
    · exact Or.inr ⟨rfl, none⟩
    · exact Or.inl some
  view tree _ := by
    rw [view]
    exact TreeView.fits_fresh tree

theorem Selects.withTree (selects : explorer.Selects) {change : TreeView → SyntaxTree → TreeView}
    (keeps : ∀ view tree, view.Fits tree → (change view tree).Fits tree) :
    (explorer.withTree change).Selects := by
  cases found : explorer.tree? with
  | none =>
    rw [withTree_of_none change found]
    exact selects
  | some tree =>
    rw [withTree_of_some change found]
    refine ⟨selects.token, fun shown same => ?_⟩
    obtain rfl : tree = shown := Option.some.inj (found.symm.trans same)
    exact keeps _ tree (selects.view tree found)

theorem Selects.moveUp (selects : explorer.Selects) : explorer.moveUp.Selects := by
  rw [Explorer.moveUp]
  cases explorer.focus with
  | source | report => exact ⟨selects.token, selects.view⟩
  | tokens =>
    refine ⟨?_, selects.view⟩
    rcases selects.token with some | ⟨first, none⟩
    · exact Or.inl (Nat.lt_of_le_of_lt (Nat.sub_le _ _) some)
    · refine Or.inr ⟨?_, none⟩
      simp only [first]
  | tree => exact ⟨selects.token, fun tree shown => (selects.view tree shown).moveUp⟩

theorem Selects.moveDown (selects : explorer.Selects) : explorer.moveDown.Selects := by
  rw [Explorer.moveDown]
  cases explorer.focus with
  | source | report => exact ⟨selects.token, selects.view⟩
  | tokens =>
    dsimp only
    split
    · rename_i further
      exact ⟨Or.inl further, selects.view⟩
    · exact selects
  | tree => exact selects.withTree fun _ _ fits => fits.moveDown

theorem Selects.toggle (selects : explorer.Selects) : explorer.toggle.Selects := by
  rw [Explorer.toggle]
  split
  · exact selects.withTree fun _ _ fits => fits.toggle
  · exact selects

theorem Selects.expandAll (selects : explorer.Selects) : explorer.expandAll.Selects :=
  ⟨selects.token, fun tree shown => (selects.view tree shown).expandAll⟩

theorem Selects.collapseAll (selects : explorer.Selects) : explorer.collapseAll.Selects := by
  rw [Explorer.collapseAll]
  split
  · have view := selects.withTree fun view tree _ => view.fits_collapseAll tree
    exact ⟨view.token, view.view⟩
  · exact selects

theorem Selects.reload (selects : explorer.Selects) (disk : Disk) :
    (explorer.reload disk).Selects := by
  cases readable : disk.text? explorer.path with
  | some text =>
    rw [reload_of_text readable, load_eq]
    exact selects_of_first rfl rfl
  | none =>
    rw [reload_of_no_text readable]
    exact ⟨selects.token, selects.view⟩

theorem Selects.press (selects : explorer.Selects) (disk : Disk) (key : Key) :
    (explorer.press disk key).Selects := by
  unfold Explorer.press
  split
  · exact ⟨selects.token, selects.view⟩
  · exact ⟨selects.token, selects.view⟩
  · exact ⟨selects.token, selects.view⟩
  · exact ⟨selects.token, selects.view⟩
  · exact selects.moveUp
  · exact selects.moveDown
  · exact selects.toggle
  · exact selects.toggle
  · exact selects.expandAll
  · exact selects.collapseAll
  · exact selects.reload disk
  · exact selects

theorem Selects.draw (selects : explorer.Selects) (width height : Nat) :
    (explorer.draw width height).1.Selects where
  token := selects.token
  view tree shown := by
    have found : explorer.tree? = some tree := shown
    have view : (explorer.draw width height).1.treeView =
        explorer.treeView.settle (Layout.ofSize width height).tree.height tree := by
      rw [Explorer.draw, settle]
      simp only [found, Option.elim_some]
    rw [view]
    exact (selects.view tree found).settle _

/-- What is marked stands on one of the lines: an error does, and the selected token does. -/
theorem hasLine_mark (inspected : explorer.outcome = (Inspection.ofSource explorer.source).outcome)
    {mark : Mark} (marked : explorer.mark? = some mark) :
    Source.HasLine explorer.source mark.line := by
  obtain ⟨tokens, -, -, error⟩ := Outcome.mk.inj inspected
  rw [mark?, error, tokens] at marked
  cases failed : (Inspection.ofSource explorer.source).error? with
  | some error =>
    rw [failed] at marked
    obtain rfl := Option.some.inj marked
    exact Inspection.hasLine_error failed
  | none =>
    rw [failed] at marked
    obtain ⟨token, selected, rfl⟩ := Option.map_eq_some_iff.mp marked
    exact Inspection.hasLine_token (List.mem_of_getElem? selected)

/-- As the selected token is there, nothing is marked only where there is nothing. -/
theorem Selects.mark?_eq_none_iff (selects : explorer.Selects) :
    explorer.mark? = none ↔ explorer.error? = none ∧ explorer.tokens = [] := by
  rw [mark?]
  cases explorer.error? with
  | some error => simp
  | none =>
    simp only [Option.map_eq_none_iff, List.getElem?_eq_none_iff, true_and]
    rw [← List.length_eq_zero_iff]
    have token := selects.token
    omega

end Explorer

namespace Session

theorem start_selects (source : String) (path : Option String) (disk : Disk) :
    (start source path disk).explorer.Selects := by
  rw [start, Explorer.start_eq]
  exact Explorer.selects_of_first rfl rfl

theorem step_selects {session : Session} (happening : Happening)
    (selects : session.explorer.Selects) : (session.step happening).explorer.Selects := by
  cases happening with
  | press key => exact selects.press session.disk key
  | draw width height => exact selects.draw width height
  | change disk => exact selects

theorem run_selects {session : Session} (selects : session.explorer.Selects)
    (happenings : List Happening) : (session.run happenings).explorer.Selects :=
  run_keeps (·.explorer.Selects) (fun _ happening selects => step_selects happening selects)
    selects happenings

/-- Whatever happened, the selected token and the selected row are there, unless there is nothing to
select; only nodes with children are collapsed; and a line of the source is marked, unless there is
neither an error nor a token. -/
theorem run_selection (source : String) (path : Option String) (disk : Disk)
    (happenings : List Happening) :
    let explorer := ((start source path disk).run happenings).explorer
    explorer.Selects ∧
      (∀ mark, explorer.mark? = some mark → Source.HasLine explorer.source mark.line) ∧
      (explorer.mark? = none ↔ explorer.error? = none ∧ explorer.tokens = []) := by
  intro explorer
  have selects : explorer.Selects := run_selects (start_selects source path disk) happenings
  have inspected := run_outcome source path disk happenings
  exact ⟨selects, fun _ marked => Explorer.hasLine_mark inspected marked,
    selects.mark?_eq_none_iff⟩

/-- The tokens of a program that is one name. -/
def nameTokens : List Token :=
  [⟨⟨.identifier, "x"⟩, ⟨1, 1⟩⟩, ⟨⟨.punctuation, ";"⟩, ⟨1, 2⟩⟩]

/-- The tree of a program that is one name. -/
def nameTree : SyntaxTree :=
  ⟨.program, none, [.leaf .identifier "x"]⟩

theorem ofSource_name :
    Inspection.ofSource "x;" = .complete ⟨nameTokens, nameTree, .analyze nameTokens nameTree⟩ := by
  have scanned : tokenize "x;" = .ok nameTokens := by
    have whole : "x;".toList = ['x', ';'] := rfl
    have word : Cut.first 'x' [';'] = .ok ⟨.identifier, [], [';']⟩ := rfl
    have mark : Cut.first ';' [] = .ok ⟨.punctuation, [], []⟩ := rfl
    rw [tokenize, Scanner.ofString, whole, Scanner.tokens_lexeme rfl word,
      Scanner.tokens_lexeme rfl mark, Scanner.tokens_nil]
    rfl
  have parsed : parse nameTokens = .ok nameTree := rfl
  rw [Inspection.ofSource, scanned]
  simp only [parsed]

/-- The root is collapsed and drawn, and moving down then finds no other row. -/
theorem run_selection_collapsedRoot :
    let disk : Disk := fun _ => .error .missing
    let explorer := ((start "x;" none disk).run
      [.press .tab, .press .enter, .draw 80 24, .change disk, .press .down]).explorer
    explorer.tree? = some nameTree ∧ explorer.treeView.collapsed 0 = true ∧
      explorer.mark? = some ⟨1, false⟩ ∧ explorer.treeView.Fits nameTree ∧
      Source.HasLine explorer.source 1 := by
  intro disk explorer
  have started : start "x;" none disk = ⟨{
      path := none, source := "x;", tokens := nameTokens, tree? := some nameTree,
      report? := some (.analyze nameTokens nameTree), error? := none, treeView := .fresh,
      focus := .tokens, sourceScroll := 0, tokenScroll := 0, reportScroll := 0, tokenCursor := 0,
      quitting := false, status := .compiled 2 2 }, disk⟩ := by
    rw [start, Explorer.start_eq, ofSource_name]
    rfl
  have shown : explorer.tree? = some nameTree := by
    simp only [explorer, started]
    rfl
  have collapsed : explorer.treeView.collapsed 0 = true := by
    simp only [explorer, started]
    rfl
  have marked : explorer.mark? = some ⟨1, false⟩ := by
    simp only [explorer, started]
    rfl
  obtain ⟨selects, onLine, -⟩ := run_selection "x;" none disk
    [.press .tab, .press .enter, .draw 80 24, .change disk, .press .down]
  exact ⟨shown, collapsed, marked, selects.view nameTree shown, onLine _ marked⟩

end Session

end SyntaxExplorer
