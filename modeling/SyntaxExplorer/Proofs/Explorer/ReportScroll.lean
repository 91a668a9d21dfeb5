import SyntaxExplorer.Proofs.Explorer.Session
import SyntaxExplorer.Proofs.Token.Layout

namespace SyntaxExplorer

namespace Terminal

section Rows

variable {width : Nat} {lines : List Line}

/-- The rows that lines of text are broken into. -/
def wrappedRows (width : Nat) (lines : List Line) : List (List Glyph) :=
  lines.flatMap fun line => wrapped width line.glyphs

/-- An empty line takes a row too. -/
theorem length_wrapped_pos (width : Nat) (glyphs : List Glyph) : 0 < (wrapped width glyphs).length := by
  have some (rows : List (List Glyph)) : 0 < (if rows.isEmpty then [[]] else rows).length := by
    cases rows <;> simp
  exact some _

theorem wrappedRows_cons (line : Line) :
    wrappedRows width (line :: lines) = wrapped width line.glyphs ++ wrappedRows width lines :=
  List.flatMap_cons

theorem length_le_wrappedRows : lines.length ≤ (wrappedRows width lines).length := by
  induction lines with
  | nil => exact Nat.le_refl _
  | cons line lines ih =>
    have some := length_wrapped_pos width line.glyphs
    rw [wrappedRows_cons, List.length_append, List.length_cons]
    omega

/-- There are no more rows than lines only if no line is broken. -/
theorem wrappedRows_length_le_iff :
    (wrappedRows width lines).length ≤ lines.length ↔
      ∀ line ∈ lines, (wrapped width line.glyphs).length = 1 := by
  induction lines with
  | nil => simp [wrappedRows]
  | cons line lines ih =>
    have some := length_wrapped_pos width line.glyphs
    have others := @length_le_wrappedRows width lines
    rw [wrappedRows_cons, List.length_append, List.length_cons, List.forall_mem_cons, ← ih]
    omega

end Rows

namespace Picture

variable {picture : Picture} {area : Area} {paragraph : Paragraph} {row : List Glyph}

/-- The glyphs stand on the picture from a place on. One without width is not seen. -/
def Shows (picture : Picture) (x y : Nat) (row : List Glyph) : Prop :=
  ∀ column glyph, (columnsOf row)[column]? = some (some glyph) →
    (picture.cell (x + column) y).symbol = glyph.cluster.symbol

/-- What is written in an area can be read there. -/
theorem write_shows {rows : List (List (Option Glyph))} {y : Nat} (inside : y < area.height)
    (here : rows[y]? = some (columnsOf row)) :
    (picture.write area rows).Shows area.x (area.y + y) row := by
  intro column glyph stands
  have within : ¬ (area.x + column < area.x ∨ area.y + y < area.y) := by omega
  have read : (rows.take area.height)[y]? = some (columnsOf row) := by
    rw [List.getElem?_take_of_lt inside, here]
  simp only [write, if_neg within, Nat.add_sub_cancel_left, read, Option.getD_some, stands,
    Option.join_some]
  rfl

theorem drawText_shows {y : Nat} (wide : 0 < area.width) (inside : y < area.height)
    (left : paragraph.indent area.width row = 0)
    (here : (paragraph.rows area.width)[y]? = some row) :
    (picture.drawText area paragraph).Shows area.x (area.y + y) row := by
  have room : ¬ (area.width = 0 ∨ area.height = 0) := by omega
  rw [drawText, if_neg room]
  apply write_shows inside
  rw [List.getElem?_map, here, Option.map_some, Paragraph.rowColumns, left, List.replicate_zero,
    List.nil_append]

end Picture

end Terminal

open Terminal

namespace ReportPane

variable {area : Area} {report : Report}

/-- The part of the pane that shows text. The focus makes no difference to it. -/
def textArea (area : Area) : Area :=
  (frame true).inner area

/-- All rows of the analysis, as the pane breaks them. -/
def rows (area : Area) (report : Report) : List (List Glyph) :=
  wrappedRows (textArea area).width (reportLines report)

theorem length_reportLines_le (report : Report) : (reportLines report).length ≤ 16 := by
  simp only [reportLines, Report.details, List.length_append, List.length_map, List.length_cons,
    List.length_nil, TokenKind.all]
  split <;> simp

/-- The greatest offset at which the pane is drawn. -/
def lowest (area : Area) (report : Report) : Nat :=
  (reportLines report).length - (textArea area).height

theorem settle_eq {error : Option CompileError} (high : 0 < (textArea area).height)
    (offset : Nat) : settle area.height (some report) error offset = min offset (lowest area report) := by
  have visible : Pane.visibleLines area.height = (textArea area).height := by
    have same : (textArea area).height = area.height - 2 := rfl
    rw [Pane.visibleLines]
    omega
  rw [settle, Scroll.within, lowest, visible]
  rfl

end ReportPane

namespace Explorer

open ReportPane

variable {explorer : Explorer} {report : Report} {area : Area} {index : Nat} {disk : Disk}

/-- The explorer when its analysis is drawn in an area. -/
def settleReport (area : Area) (explorer : Explorer) : Explorer :=
  { explorer with
    reportScroll := ReportPane.settle area.height explorer.report? explorer.error?
      explorer.reportScroll }

/-- A picture with the analysis drawn in an area. -/
def drawReport (picture : Picture) (area : Area) (explorer : Explorer) : Picture :=
  picture.drawFramed area (ReportPane.frame (explorer.focus = .report))
    (ReportPane.content explorer.report? explorer.error? explorer.reportScroll)

/-- The explorer after some presses of the key for down, with the analysis drawn before each of them
and at the end. -/
def scrolledDown (disk : Disk) (area : Area)
    (explorer : Explorer) : Nat → Explorer
  | 0 => explorer.settleReport area
  | presses + 1 => ((scrolledDown disk area explorer presses).press disk .down).settleReport area

/-- The row of the analysis with some number stands in the pane, whatever is below the pane. -/
def ShowsReportRow (area : Area) (report : Report) (index : Nat) (explorer : Explorer) : Prop :=
  ∃ y row, y < (textArea area).height ∧ explorer.reportScroll + y = index ∧
    (rows area report)[index]? = some row ∧
    ∀ picture, (drawReport picture area explorer).Shows (textArea area).x ((textArea area).y + y) row

theorem settleReport_scroll (analysed : explorer.report? = some report)
    (high : 0 < (textArea area).height) :
    explorer.settleReport area =
      { explorer with reportScroll := min explorer.reportScroll (lowest area report) } := by
  rw [settleReport, analysed, settle_eq high]

/-- A press moves one row down, unless the offset is held back. -/
theorem settleReport_press_down (analysed : explorer.report? = some report)
    (focused : explorer.focus = .report) (high : 0 < (textArea area).height) (offset : Nat) :
    (({ explorer with reportScroll := offset } : Explorer).press disk .down).settleReport area =
      { explorer with reportScroll := min (offset + 1) (lowest area report) } := by
  have pressed : ({ explorer with reportScroll := offset } : Explorer).press disk .down =
      { explorer with reportScroll := Scroll.down offset } := by
    simp only [press, moveDown, focused]
  have still : ({ explorer with reportScroll := Scroll.down offset } : Explorer).report? =
      some report := analysed
  -- There are too few lines for the greatest offset to matter.
  have few := length_reportLines_le report
  have large : 16 ≤ Scroll.limit := by decide
  have held : min (Scroll.down offset) (lowest area report) =
      min (offset + 1) (lowest area report) := by
    rw [Scroll.down, lowest]
    omega
  rw [pressed, settleReport_scroll still high, held]

/-- So many presses move as many rows down, unless the offset is held back. -/
theorem scrolledDown_eq (analysed : explorer.report? = some report)
    (focused : explorer.focus = .report) (high : 0 < (textArea area).height) (presses : Nat) :
    explorer.scrolledDown disk area presses =
      { explorer with
        reportScroll := min (explorer.reportScroll + presses) (lowest area report) } := by
  induction presses with
  | zero => exact settleReport_scroll analysed high
  | succ presses ih =>
    have held : min (min (explorer.reportScroll + presses) (lowest area report) + 1)
        (lowest area report) = min (explorer.reportScroll + (presses + 1)) (lowest area report) := by
      omega
    rw [scrolledDown, ih, settleReport_press_down analysed focused high, held]

/-- A row is in view if it is among as many rows behind the offset as the pane has room for. -/
theorem showsReportRow_iff (analysed : explorer.report? = some report)
    (wide : 0 < (textArea area).width) :
    explorer.ShowsReportRow area report index ↔
      explorer.reportScroll ≤ index ∧ index < explorer.reportScroll + (textArea area).height ∧
        index < (rows area report).length := by
  constructor
  · rintro ⟨y, row, inside, rfl, here, -⟩
    have known := (List.getElem?_eq_some_iff.mp here).1
    omega
  · rintro ⟨above, below, known⟩
    refine ⟨index - explorer.reportScroll, _, by omega, by omega, List.getElem?_eq_getElem known, ?_⟩
    intro picture
    apply Picture.drawText_shows wide (by omega)
    · rfl
    · have wrapped : (ReportPane.content explorer.report? explorer.error?
          explorer.reportScroll).rows (textArea area).width =
          (rows area report).drop explorer.reportScroll := by
        rw [analysed]
        rfl
      rw [wrapped, List.getElem?_drop, Nat.add_sub_cancel' above]
      exact List.getElem?_eq_getElem known

/-- The rows that the key for down brings into view. -/
theorem exists_showsReportRow_iff (analysed : explorer.report? = some report)
    (focused : explorer.focus = .report) (wide : 0 < (textArea area).width)
    (high : 0 < (textArea area).height) :
    (∃ presses, (explorer.scrolledDown disk area presses).ShowsReportRow area report index) ↔
      min explorer.reportScroll (lowest area report) ≤ index ∧
        index < lowest area report + (textArea area).height ∧
        index < (rows area report).length := by
  have shown (presses : Nat) :
      (explorer.scrolledDown disk area presses).ShowsReportRow area report index ↔
        min (explorer.reportScroll + presses) (lowest area report) ≤ index ∧
          index < min (explorer.reportScroll + presses) (lowest area report) +
            (textArea area).height ∧
          index < (rows area report).length := by
    rw [scrolledDown_eq analysed focused high]
    exact showsReportRow_iff analysed wide
  constructor
  · rintro ⟨presses, shows⟩
    have place := (shown presses).mp shows
    omega
  · rintro ⟨above, below, known⟩
    refine ⟨index - explorer.reportScroll, (shown _).mpr ?_⟩
    omega

end Explorer

open Explorer ReportPane

/-- The last row of the analysis can be brought into view exactly if all rows have room at once or
every line stands on a row of its own: the offset is held back by the number of lines. -/
theorem lastReportRow_reachable_iff {explorer : Explorer} {report : Report} {area : Area}
    (disk : Disk) (analysed : explorer.report? = some report)
    (focused : explorer.focus = .report) (wide : 0 < (textArea area).width)
    (high : 0 < (textArea area).height) :
    (∃ presses, (explorer.scrolledDown disk area presses).ShowsReportRow area report
        ((rows area report).length - 1)) ↔
      (rows area report).length ≤ (textArea area).height ∨
        ∀ line ∈ reportLines report, (wrapped (textArea area).width line.glyphs).length = 1 := by
  have some : 0 < (reportLines report).length := Nat.succ_pos _
  have more : (reportLines report).length ≤ (rows area report).length := length_le_wrappedRows
  have unbroken : (rows area report).length ≤ (reportLines report).length ↔ _ :=
    wrappedRows_length_le_iff
  rw [exists_showsReportRow_iff analysed focused wide high, ← unbroken, lowest]
  omega

/-- The explorer of an empty source when the focus has been moved to the analysis. -/
def analysedEmpty (disk : Disk) : Explorer :=
  ((Explorer.start "" none).press disk .tab).press disk .tab

def emptyReport : Report :=
  .analyze [] ⟨.program, none, []⟩

theorem analysedEmpty_shows (disk : Disk) :
    (analysedEmpty disk).report? = some emptyReport ∧ (analysedEmpty disk).focus = .report := by
  have scanned : tokenize "" = .ok [] := by
    rw [tokenize, Scanner.ofString]
    exact Scanner.tokens_nil _
  have inspected : Inspection.ofSource "" = .complete ⟨[], ⟨.program, none, []⟩, emptyReport⟩ := by
    rw [Inspection.ofSource, scanned]
    rfl
  rw [analysedEmpty, Explorer.start_eq, inspected]
  exact ⟨rfl, rfl⟩

/-- In a pane of 70 columns no line is broken, and the fifteen rows can be scrolled through six. -/
theorem lastReportRow_reachable_wide :
    let disk : Disk := fun _ => .error .missing
    let area : Area := ⟨0, 0, 70, 8⟩
    (analysedEmpty disk).report? = some emptyReport ∧ (analysedEmpty disk).focus = .report ∧
      textArea area = ⟨2, 1, 67, 6⟩ ∧ (rows area emptyReport).length = 15 ∧
      ∃ presses, ((analysedEmpty disk).scrolledDown disk area presses).ShowsReportRow area
        emptyReport 14 := by
  intro disk area
  obtain ⟨analysed, focused⟩ := analysedEmpty_shows disk
  have inside : textArea area = ⟨2, 1, 67, 6⟩ := by decide
  have wide : 0 < (textArea area).width := by rw [inside]; decide
  have high : 0 < (textArea area).height := by rw [inside]; decide
  have unbroken : ∀ line ∈ reportLines emptyReport,
      (wrapped (textArea area).width line.glyphs).length = 1 := by decide +kernel
  have count : (rows area emptyReport).length = 15 := by
    have lines : (reportLines emptyReport).length = 15 := by decide
    have more : _ ≤ (rows area emptyReport).length := length_le_wrappedRows
    have fewer : (rows area emptyReport).length ≤ _ := wrappedRows_length_le_iff.mpr unbroken
    omega
  have reached := lastReportRow_reachable_iff disk analysed focused wide high
  rw [count] at reached
  exact ⟨analysed, focused, inside, count, reached.mpr (.inr unbroken)⟩

/-- On a terminal of 80 columns and 24 rows three lines are broken, and the number of comments, in the
last row, is never seen. -/
theorem lastReportRow_unreachable :
    let disk : Disk := fun _ => .error .missing
    let area := (Layout.ofSize 80 24).report
    (analysedEmpty disk).report? = some emptyReport ∧ (analysedEmpty disk).focus = .report ∧
      textArea area = ⟨42, 16, 37, 6⟩ ∧ (reportLines emptyReport).length = 15 ∧
      (rows area emptyReport).length = 18 ∧
      ¬ ∃ presses, ((analysedEmpty disk).scrolledDown disk area presses).ShowsReportRow area
        emptyReport 17 := by
  intro disk area
  obtain ⟨analysed, focused⟩ := analysedEmpty_shows disk
  have inside : textArea area = ⟨42, 16, 37, 6⟩ := by decide
  have wide : 0 < (textArea area).width := by rw [inside]; decide
  have high : 0 < (textArea area).height := by rw [inside]; decide
  have lines : (reportLines emptyReport).length = 15 := by decide
  have count : (rows area emptyReport).length = 18 := by decide +kernel
  have seen : lowest area emptyReport + (textArea area).height = 15 := by
    rw [lowest, lines, inside]
    rfl
  refine ⟨analysed, focused, inside, lines, count, ?_⟩
  rw [exists_showsReportRow_iff analysed focused wide high, seen]
  omega

end SyntaxExplorer
