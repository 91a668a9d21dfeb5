import SyntaxExplorer.Proofs.Explorer.Selection

namespace SyntaxExplorer

namespace TreeView

variable {view : TreeView} {tree : SyntaxTree}

/-- The view from the top. -/
def unscrolled (view : TreeView) : TreeView :=
  { view with scroll := 0 }

theorem unscrolled_toggle (view : TreeView) (tree : SyntaxTree) :
    (view.unscrolled.toggle tree).unscrolled = (view.toggle tree).unscrolled := by
  have target : view.unscrolled.target tree = view.target tree := rfl
  rw [toggle, toggle, turn, turn, target]
  cases view.target tree <;> rfl

theorem Fits.unscrolled_settle (fits : view.Fits tree) (height : Nat) :
    (view.settle height tree).unscrolled = view.unscrolled := by
  rw [TreeView.settle, fits.clampCursor_eq]
  rfl

end TreeView

namespace Explorer

variable {explorer one two : Explorer}

/-- The explorer with every pane at its top. -/
def unscrolled (explorer : Explorer) : Explorer :=
  { explorer with
    sourceScroll := 0
    tokenScroll := 0
    reportScroll := 0
    treeView := explorer.treeView.unscrolled }

/-- The explorers differ in how far their panes are scrolled at most. -/
structure SameButScrolls (one two : Explorer) : Prop where
  path : one.path = two.path
  focus : one.focus = two.focus
  status : one.status = two.status
  quitting : one.quitting = two.quitting
  tokenCursor : one.tokenCursor = two.tokenCursor
  treeCursor : one.treeView.cursor = two.treeView.cursor
  collapsed : one.treeView.collapsed = two.treeView.collapsed
  rows : ∀ tree, one.treeView.rows tree = two.treeView.rows tree
  source : one.source = two.source
  tokens : one.tokens = two.tokens
  tree : one.tree? = two.tree?
  report : one.report? = two.report?
  error : one.error? = two.error?
  mark : one.mark? = two.mark?

theorem sameButScrolls_of_unscrolled (same : one.unscrolled = two.unscrolled) :
    one.SameButScrolls two where
  path := (congrArg path same :)
  focus := (congrArg focus same :)
  status := (congrArg status same :)
  quitting := (congrArg quitting same :)
  tokenCursor := (congrArg tokenCursor same :)
  treeCursor := (congrArg (·.treeView.cursor) same :)
  collapsed := (congrArg (·.treeView.collapsed) same :)
  rows tree := (congrArg (·.treeView.rows tree) same :)
  source := (congrArg Explorer.source same :)
  tokens := (congrArg tokens same :)
  tree := (congrArg tree? same :)
  report := (congrArg report? same :)
  error := (congrArg error? same :)
  mark := (congrArg mark? same :)

section Keys

variable (explorer)

theorem unscrolled_withTree {change : TreeView → SyntaxTree → TreeView}
    (keeps : ∀ view tree, (change view.unscrolled tree).unscrolled = (change view tree).unscrolled) :
    (explorer.unscrolled.withTree change).unscrolled = (explorer.withTree change).unscrolled := by
  have shown : explorer.unscrolled.tree? = explorer.tree? := rfl
  rw [withTree, withTree, shown]
  cases explorer.tree? with
  | none => rfl
  | some tree =>
    have view := keeps explorer.treeView tree
    simp only [Option.elim_some, unscrolled, view]

theorem unscrolled_moveUp : explorer.unscrolled.moveUp.unscrolled = explorer.moveUp.unscrolled := by
  have focus : explorer.unscrolled.focus = explorer.focus := rfl
  rw [moveUp, moveUp, focus]
  cases explorer.focus <;> rfl

theorem unscrolled_moveDown :
    explorer.unscrolled.moveDown.unscrolled = explorer.moveDown.unscrolled := by
  have focus : explorer.unscrolled.focus = explorer.focus := rfl
  rw [moveDown, moveDown, focus]
  cases explorer.focus with
  | source | report => rfl
  | tree => exact unscrolled_withTree explorer fun _ _ => rfl
  | tokens =>
    have further : explorer.unscrolled.tokenCursor + 1 < explorer.unscrolled.tokens.length ↔
        explorer.tokenCursor + 1 < explorer.tokens.length := Iff.rfl
    dsimp only
    by_cases more : explorer.tokenCursor + 1 < explorer.tokens.length
    · rw [if_pos more, if_pos (further.mpr more)]
      rfl
    · rw [if_neg more, if_neg (mt further.mp more)]
      rfl

theorem unscrolled_toggle : explorer.unscrolled.toggle.unscrolled = explorer.toggle.unscrolled := by
  have focus : explorer.unscrolled.focus = explorer.focus := rfl
  rw [toggle, toggle, focus]
  split
  · exact unscrolled_withTree explorer fun view tree => view.unscrolled_toggle tree
  · rfl

theorem unscrolled_collapseAll :
    explorer.unscrolled.collapseAll.unscrolled = explorer.collapseAll.unscrolled := by
  have shown : explorer.unscrolled.tree? = explorer.tree? := rfl
  have view : (explorer.unscrolled.withTree TreeView.collapseAll).unscrolled =
      (explorer.withTree TreeView.collapseAll).unscrolled :=
    unscrolled_withTree explorer fun _ _ => rfl
  rw [collapseAll, collapseAll, shown]
  split
  · exact congrArg (fun explorer => { explorer with status := .collapsedAll }) view
  · rfl

theorem unscrolled_reload (disk : Disk) :
    (explorer.unscrolled.reload disk).unscrolled = (explorer.reload disk).unscrolled := by
  have path : explorer.unscrolled.path = explorer.path := rfl
  rw [reload, reload, path]
  cases explorer.path with
  | none => rfl
  | some path =>
    dsimp only
    cases (disk path).bind decodeText with
    | error failure => rfl
    | ok text =>
      dsimp only
      rw [load_eq, load_eq]
      rfl

/-- A key does the same wherever the panes are scrolled to. -/
theorem unscrolled_press (disk : Disk) (key : Key) :
    (explorer.unscrolled.press disk key).unscrolled = (explorer.press disk key).unscrolled := by
  unfold press
  split
  · rfl
  · rfl
  · rfl
  · rfl
  · exact unscrolled_moveUp explorer
  · exact unscrolled_moveDown explorer
  · exact unscrolled_toggle explorer
  · exact unscrolled_toggle explorer
  · rfl
  · exact unscrolled_collapseAll explorer
  · exact unscrolled_reload explorer disk
  · rfl

end Keys

theorem unscrolled_press_congr (same : one.unscrolled = two.unscrolled) (disk : Disk) (key : Key) :
    (one.press disk key).unscrolled = (two.press disk key).unscrolled := by
  rw [← unscrolled_press one, same, unscrolled_press two]

/-- Drawing only scrolls, as long as the cursor of the tree is on a row. -/
theorem Selects.unscrolled_draw (selects : explorer.Selects) (width height : Nat) :
    (explorer.draw width height).1.unscrolled = explorer.unscrolled := by
  have view : (explorer.draw width height).1.treeView.unscrolled = explorer.treeView.unscrolled := by
    rw [Explorer.draw, settle]
    dsimp only
    cases shown : explorer.tree? with
    | none => rfl
    | some tree => exact (selects.view tree shown).unscrolled_settle _
  exact congrArg (fun view => { explorer.unscrolled with treeView := view }) view

end Explorer

/-- The happening is a drawing. -/
def Happening.isDraw : Happening → Bool
  | draw _ _ => true
  | _ => false

namespace Session

/-- Two sessions that differ in offsets go the same way, one with drawings and one without. -/
theorem run_withoutDraws {one two : Session} (selects : one.explorer.Selects)
    (disk : one.disk = two.disk) (same : one.explorer.unscrolled = two.explorer.unscrolled)
    (happenings : List Happening) :
    (one.run happenings).disk = (two.run (happenings.filter (!·.isDraw))).disk ∧
      (one.run happenings).explorer.unscrolled =
        (two.run (happenings.filter (!·.isDraw))).explorer.unscrolled := by
  induction happenings generalizing one two with
  | nil => exact ⟨disk, same⟩
  | cons happening happenings ih =>
    have later := step_selects happening selects
    cases happening with
    | draw width height =>
      exact ih later disk ((selects.unscrolled_draw width height).trans same)
    | change other =>
      have changed : (one.step (.change other)).disk = (two.step (.change other)).disk := rfl
      exact ih later changed same
    | press key =>
      have kept : (one.step (.press key)).disk = (two.step (.press key)).disk := disk
      have pressed : (one.step (.press key)).explorer.unscrolled =
          (two.step (.press key)).explorer.unscrolled := by
        rw [step, step, disk]
        exact Explorer.unscrolled_press_congr same two.disk key
      exact ih later kept pressed

/-- Drawing influences nothing: at any time of a session the explorer is the same, but for the offsets,
as if it had never been drawn. -/
theorem run_undrawn (source : String) (path : Option String) (disk : Disk)
    (happenings : List Happening) :
    let drawn := (start source path disk).run happenings
    let undrawn := (start source path disk).run (happenings.filter (!·.isDraw))
    drawn.disk = undrawn.disk ∧ drawn.explorer.SameButScrolls undrawn.explorer := by
  obtain ⟨sameDisk, same⟩ := run_withoutDraws (start_selects source path disk) rfl rfl happenings
  exact ⟨sameDisk, Explorer.sameButScrolls_of_unscrolled same⟩

end Session

end SyntaxExplorer
