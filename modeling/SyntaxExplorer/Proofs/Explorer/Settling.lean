import SyntaxExplorer.Proofs.Explorer.Selection

namespace SyntaxExplorer

theorem Pane.visibleLines_pos (height : Nat) : 0 < visibleLines height :=
  Nat.lt_of_lt_of_le Nat.zero_lt_one (Nat.le_max_right _ _)

namespace Scroll

variable {height line total : Nat}

/-- The window shows the line at the offset, and at no other offset so near to the one before. -/
structure IsNearest (height line before offset : Nat) : Prop where
  above : offset ≤ line
  below : line < offset + height
  nearest : ∀ other, other ≤ line → line < other + height → other ≠ offset →
    ((offset : Int) - before).natAbs < ((other : Int) - before).natAbs

/-- The window begins at a line above it, ends at a line below it, and stays for a line that it shows. -/
theorem toLine_cases (height line before : Nat) :
    (line < before ∧ toLine height line before = line) ∨
      (before + height ≤ line ∧ toLine height line before = line + 1 - height) ∨
      (before ≤ line ∧ line < before + height ∧ toLine height line before = before) := by
  unfold toLine
  split
  · exact Or.inl ⟨by assumption, rfl⟩
  · split
    · exact Or.inr (Or.inl ⟨by assumption, rfl⟩)
    · exact Or.inr (Or.inr ⟨by omega, by omega, rfl⟩)

theorem toLine_isNearest (positive : 0 < height) (line before : Nat) :
    IsNearest height line before (toLine height line before) := by
  obtain ⟨above, below⟩ := toLine_shows positive line before
  refine ⟨above, below, fun other otherAbove otherBelow different => ?_⟩
  rcases toLine_cases height line before with ⟨_, moved⟩ | ⟨_, moved⟩ | ⟨_, _, moved⟩ <;> omega

/-- Holding the offset back does not lose a line that there is. -/
theorem within_toLine_shows (there : line < total) (positive : 0 < height) (before : Nat) :
    within height total (toLine height line before) ≤ line ∧
      line < within height total (toLine height line before) + height := by
  have shown := toLine_shows positive line before
  rw [within]
  omega

/-- An offset that was held back from a line stays so, as the line is further down. -/
theorem within_toLine_within_toLine (positive : 0 < height) (line total before : Nat) :
    within height total (toLine height line (within height total (toLine height line before))) =
      within height total (toLine height line before) := by
  have shown := toLine_shows positive line before
  by_cases held : toLine height line before ≤ total - height
  · have same : within height total (toLine height line before) = toLine height line before :=
      Nat.min_eq_left held
    rw [same, toLine_toLine positive, same]
  · have last : within height total (toLine height line before) = total - height :=
      Nat.min_eq_right (by omega)
    have further : total - height ≤ toLine height line (total - height) := by
      rcases toLine_cases height line (total - height) with ⟨_, moved⟩ | ⟨_, moved⟩ | ⟨_, _, moved⟩
        <;> omega
    rw [last]
    exact Nat.min_eq_right further

end Scroll

theorem SourcePane.settle_shows {source : String} {mark : Mark}
    (onLine : Source.HasLine source mark.line) (height offset : Nat) :
    settle height source (some mark) true offset ≤ mark.line - 1 ∧
      mark.line - 1 < settle height source (some mark) true offset + Pane.visibleLines height := by
  have there : mark.line - 1 < (Source.lines source).length := by
    obtain ⟨first, last⟩ := onLine
    omega
  exact Scroll.within_toLine_shows there (Pane.visibleLines_pos height) offset

theorem SourcePane.settle_le (height : Nat) (source : String) (mark : Option Mark) (follow : Bool)
    (offset : Nat) : settle height source mark follow offset ≤
      (Source.lines source).length - Pane.visibleLines height :=
  Nat.min_le_right _ _

theorem SourcePane.settle_settle (height : Nat) (source : String) (mark : Option Mark)
    (follow : Bool) (offset : Nat) :
    settle height source mark follow (settle height source mark follow offset) =
      settle height source mark follow offset := by
  cases mark with
  | none => exact Scroll.within_within _ _ _
  | some mark =>
    cases follow with
    | false => exact Scroll.within_within _ _ _
    | true => exact Scroll.within_toLine_within_toLine (Pane.visibleLines_pos height) _ _ _

theorem TokenPane.settle_settle (height : Nat) (tokens : List Token) (cursor offset : Nat) :
    settle height tokens cursor (settle height tokens cursor offset) =
      settle height tokens cursor offset := by
  rw [settle, settle]
  split
  · rfl
  · exact Scroll.toLine_toLine (Pane.visibleLines_pos height) cursor offset

/-- The cursor is held first, so that the row that is brought into view is the one that stays selected. -/
theorem TreeView.settle_settle (height : Nat) (view : TreeView) (tree : SyntaxTree) :
    (view.settle height tree).settle height tree = view.settle height tree := by
  have cursor : ((view.settle height tree).clampCursor tree).cursor =
      (view.clampCursor tree).cursor := by
    have twice : ((view.settle height tree).clampCursor tree).cursor =
        min (min view.cursor ((view.rows tree).length - 1)) ((view.rows tree).length - 1) := rfl
    have once : (view.clampCursor tree).cursor =
        min view.cursor ((view.rows tree).length - 1) := rfl
    rw [twice, once]
    omega
  refine TreeView.ext rfl cursor ?_
  have scroll : ((view.settle height tree).settle height tree).scroll =
      Scroll.toLine (Pane.visibleLines height) ((view.settle height tree).clampCursor tree).cursor
        (view.settle height tree).scroll := rfl
  rw [scroll, cursor]
  exact Scroll.toLine_toLine (Pane.visibleLines_pos height) _ _

theorem ReportPane.settle_settle (height : Nat) (report : Option Report)
    (error : Option CompileError) (offset : Nat) :
    settle height report error (settle height report error offset) =
      settle height report error offset :=
  Scroll.within_within _ _ _

namespace Explorer

variable {explorer : Explorer}

/-- After a drawing the selections are in view, and so is the marked line unless the source has the focus
itself. The source never ends above the lower edge of its pane if it could fill it. -/
structure InView (layout : Layout) (before after : Explorer) : Prop where
  token : after.tokens ≠ [] → Scroll.IsNearest (Pane.visibleLines layout.tokens.height)
    after.tokenCursor before.tokenScroll after.tokenScroll
  node : ∀ tree, after.tree? = some tree → Scroll.IsNearest (Pane.visibleLines layout.tree.height)
    after.treeView.cursor before.treeView.scroll after.treeView.scroll
  mark : after.focus ≠ .source → ∀ mark, after.mark? = some mark →
    after.sourceScroll ≤ mark.line - 1 ∧
      mark.line - 1 < after.sourceScroll + Pane.visibleLines layout.source.height
  source : after.sourceScroll ≤
    (Source.lines after.source).length - Pane.visibleLines layout.source.height

theorem settle_treeView (width height : Nat) (explorer : Explorer) {tree : SyntaxTree}
    (shown : explorer.tree? = some tree) :
    (explorer.settle width height).treeView =
      explorer.treeView.settle (Layout.ofSize width height).tree.height tree := by
  rw [settle]
  simp only [shown, Option.elim_some]

theorem settle_treeView_of_none (width height : Nat) (explorer : Explorer)
    (absent : explorer.tree? = none) :
    (explorer.settle width height).treeView = explorer.treeView := by
  rw [settle]
  simp only [absent, Option.elim_none]

/-- The offset of the source is held back behind the mark's line only if that line is in view all the same,
as an explorer that knows its source marks no line behind the last. -/
theorem inView_draw (inspected : explorer.outcome = (Inspection.ofSource explorer.source).outcome)
    (width height : Nat) :
    InView (.ofSize width height) explorer (explorer.draw width height).1 where
  token full := by
    have scroll : (explorer.draw width height).1.tokenScroll =
        Scroll.toLine (Pane.visibleLines (Layout.ofSize width height).tokens.height)
          explorer.tokenCursor explorer.tokenScroll := by
      have some : explorer.tokens.isEmpty = false := List.isEmpty_eq_false_iff.mpr full
      rw [Explorer.draw, settle, TokenPane.settle, some]
      rfl
    rw [scroll]
    exact Scroll.toLine_isNearest (Pane.visibleLines_pos _) _ _
  node tree shown := by
    have view : (explorer.draw width height).1.treeView =
        explorer.treeView.settle (Layout.ofSize width height).tree.height tree :=
      settle_treeView width height explorer shown
    rw [view]
    exact Scroll.toLine_isNearest (Pane.visibleLines_pos _) _ _
  mark elsewhere mark marked := by
    have found : explorer.mark? = some mark := marked
    have scroll : (explorer.draw width height).1.sourceScroll =
        SourcePane.settle (Layout.ofSize width height).source.height explorer.source (some mark) true
          explorer.sourceScroll := by
      have follow : decide (explorer.focus ≠ .source) = true := decide_eq_true elsewhere
      rw [Explorer.draw, settle, found, follow]
    rw [scroll]
    exact SourcePane.settle_shows (hasLine_mark inspected found) _ _
  source := SourcePane.settle_le _ _ _ _ _

theorem settle_settle (width height : Nat) (explorer : Explorer) :
    (explorer.settle width height).settle width height = explorer.settle width height := by
  let settled := explorer.settle width height
  have source : (settled.settle width height).sourceScroll = settled.sourceScroll :=
    SourcePane.settle_settle _ _ _ _ _
  have tokens : (settled.settle width height).tokenScroll = settled.tokenScroll :=
    TokenPane.settle_settle _ _ _ _
  have view : (settled.settle width height).treeView = settled.treeView := by
    cases shown : explorer.tree? with
    | none => exact settle_treeView_of_none width height settled shown
    | some tree =>
      rw [settle_treeView width height settled shown, settle_treeView width height explorer shown]
      exact TreeView.settle_settle _ _ _
  have report : (settled.settle width height).reportScroll = settled.reportScroll :=
    ReportPane.settle_settle _ _ _ _
  calc settled.settle width height
      = { settled with
          sourceScroll := (settled.settle width height).sourceScroll
          tokenScroll := (settled.settle width height).tokenScroll
          treeView := (settled.settle width height).treeView
          reportScroll := (settled.settle width height).reportScroll } := rfl
    _ = settled := by rw [source, tokens, view, report]

/-- Drawing an explorer once more changes nothing of it and shows the same, whatever is selected and
however far its panes were scrolled. -/
theorem draw_draw (width height : Nat) (explorer : Explorer) :
    (explorer.draw width height).1.draw width height = explorer.draw width height := by
  have settled := settle_settle width height explorer
  rw [draw, draw]
  simp only [settled]

end Explorer

namespace Session

/-- Whatever happened before, drawing brings what is selected into view, on a terminal of any size. -/
theorem run_inView (source : String) (path : Option String) (disk : Disk)
    (happenings : List Happening) (width height : Nat) :
    let before := ((start source path disk).run happenings).explorer
    Explorer.InView (.ofSize width height) before (before.draw width height).1 :=
  Explorer.inView_draw (run_outcome source path disk happenings) width height

/-- The tokens of a program that is one name, with its end on a line of its own. -/
def brokenNameTokens : List Token :=
  [⟨⟨.identifier, "x"⟩, ⟨1, 1⟩⟩, ⟨⟨.punctuation, ";"⟩, ⟨2, 1⟩⟩]

theorem ofSource_brokenName :
    Inspection.ofSource "x\n;" =
      .complete ⟨brokenNameTokens, nameTree, .analyze brokenNameTokens nameTree⟩ := by
  have scanned : tokenize "x\n;" = .ok brokenNameTokens := by
    have whole : "x\n;".toList = ['x', '\n', ';'] := rfl
    have word : Cut.first 'x' ['\n', ';'] = .ok ⟨.identifier, [], ['\n', ';']⟩ := rfl
    have mark : Cut.first ';' [] = .ok ⟨.punctuation, [], []⟩ := rfl
    rw [tokenize, Scanner.ofString, whole, Scanner.tokens_lexeme rfl word, Scanner.tokens_blank rfl,
      Scanner.tokens_lexeme rfl mark, Scanner.tokens_nil]
    rfl
  have parsed : parse brokenNameTokens = .ok nameTree := rfl
  rw [Inspection.ofSource, scanned]
  simp only [parsed]

/-- On a terminal of three rows every pane shows one line, and three of them are scrolled to the second
line of what they show. -/
theorem run_inView_oneLine :
    let disk : Disk := fun _ => .error .missing
    let before := ((start "x\n;" none disk).run
      [.press .down, .press .tab, .press .down, .draw 80 24]).explorer
    let after := (before.draw 20 3).1
    after.tokens ≠ [] ∧ after.tree? = some nameTree ∧ after.focus ≠ .source ∧
      after.mark? = some ⟨2, false⟩ ∧
      Scroll.IsNearest 1 1 0 after.tokenScroll ∧ Scroll.IsNearest 1 1 0 after.treeView.scroll ∧
      after.sourceScroll = 1 := by
  intro disk before after
  have started : start "x\n;" none disk = ⟨{
      path := none, source := "x\n;", tokens := brokenNameTokens, tree? := some nameTree,
      report? := some (.analyze brokenNameTokens nameTree), error? := none, treeView := .fresh,
      focus := .tokens, sourceScroll := 0, tokenScroll := 0, reportScroll := 0, tokenCursor := 0,
      quitting := false, status := .compiled 2 2 }, disk⟩ := by
    rw [start, Explorer.start_eq, ofSource_brokenName]
    rfl
  have full : after.tokens = brokenNameTokens := by
    simp only [after, before, started]
    rfl
  have shown : after.tree? = some nameTree := by
    simp only [after, before, started]
    rfl
  have elsewhere : after.focus = .tree := by
    simp only [after, before, started]
    rfl
  have marked : after.mark? = some ⟨2, false⟩ := by
    simp only [after, before, started]
    rfl
  have cursors : after.tokenCursor = 1 ∧ after.treeView.cursor = 1 := by
    simp only [after, before, started]
    exact ⟨rfl, rfl⟩
  have offsets : before.tokenScroll = 0 ∧ before.treeView.scroll = 0 := by
    simp only [before, started]
    exact ⟨rfl, rfl⟩
  have inView := run_inView "x\n;" none disk
    [.press .down, .press .tab, .press .down, .draw 80 24] 20 3
  have some : after.tokens ≠ [] := by
    rw [full]
    exact List.cons_ne_nil _ _
  have notSource : after.focus ≠ .source := by
    rw [elsewhere]
    decide
  have token := inView.token some
  have node := inView.node nameTree shown
  have line : after.sourceScroll ≤ 1 ∧ 1 < after.sourceScroll + 1 := inView.mark notSource _ marked
  rw [cursors.1, offsets.1] at token
  rw [cursors.2, offsets.2] at node
  exact ⟨some, shown, notSource, marked, token, node, by omega⟩

end Session

end SyntaxExplorer
