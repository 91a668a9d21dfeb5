import SyntaxExplorer.Terminal.Cluster
import SyntaxExplorer.Terminal.Style

namespace SyntaxExplorer.Terminal

structure Span where
  text : String
  style : Style
  deriving DecidableEq, Repr

/-- A line of text, pieces one after the other over a common style. -/
structure Line where
  spans : List Span
  style : Style := .plain
  deriving DecidableEq, Repr

/-- A cluster in the style in which it is drawn. -/
structure Glyph where
  cluster : Cluster
  style : Style
  deriving DecidableEq, Repr

namespace Glyph

/-- The number of cells that the glyph takes. -/
def width (glyph : Glyph) : Nat :=
  glyph.cluster.width

end Glyph

namespace Span

/-- The glyphs of a span over the style of its line. Line feeds have no glyph. -/
def glyphs (below : Style) (span : Span) : List Glyph :=
  ((Cluster.ofChars span.text.toList).filter (!·.isLineFeed)).map fun cluster =>
    ⟨cluster, span.style.onto below⟩

end Span

namespace Line

def single (text : String) (style : Style) : Line :=
  ⟨[⟨text, style⟩], .plain⟩

def empty : Line := ⟨[], .plain⟩

def glyphs (line : Line) : List Glyph :=
  line.spans.flatMap (Span.glyphs line.style)

end Line

/-- The number of cells that some glyphs take. -/
def totalWidth (glyphs : List Glyph) : Nat :=
  (glyphs.map Glyph.width).foldr (· + ·) 0

/-- The glyphs that fit into a width, up to the first that does not. Those that would not fit even
alone are passed over. -/
def fitting (width : Nat) : List Glyph → List Glyph :=
  go width
where
  /-- The same with so much room left. -/
  go (room : Nat) : List Glyph → List Glyph
    | [] => []
    | glyph :: glyphs =>
      if width < glyph.width then go room glyphs
      else if room < glyph.width then []
      else glyph :: go (room - glyph.width) glyphs

/-- A line on its way into rows: the rows that are full, the row that is being filled, the white
space and the word behind it that are not yet placed, and whether a word has just been met. -/
structure Wrapping where
  rows : List (List Glyph) := []
  row : List Glyph := []
  blanks : List Glyph := []
  word : List Glyph := []
  inWord : Bool := false

namespace Wrapping

/-- Puts what is pending on the row. -/
def place (state : Wrapping) : Wrapping :=
  { state with row := state.row ++ state.blanks ++ state.word, blanks := [], word := [] }

/-- The white space left when as much as fits into some room is taken from its front. -/
def dropFitting (room : Nat) : List Glyph → List Glyph
  | [] => []
  | glyph :: glyphs =>
    if glyph.width ≤ room then dropFitting (room - glyph.width) glyphs else glyph :: glyphs

/-- Begins a new row. White space that would have fitted on the old one is lost. -/
def breakRow (width : Nat) (state : Wrapping) : Wrapping :=
  { state with
    rows := state.rows ++ [state.row]
    row := []
    blanks := dropFitting (width - totalWidth state.row) state.blanks }

/-- Puts a glyph with the pending white space or the pending word. -/
def pend (state : Wrapping) (glyph : Glyph) : Wrapping :=
  if glyph.cluster.isBreak then { state with blanks := state.blanks ++ [glyph], inWord := false }
  else { state with word := state.word ++ [glyph], inWord := true }

/-- The width of what is pending. -/
def pendingWidth (state : Wrapping) : Nat :=
  totalWidth state.blanks + totalWidth state.word

/-- Takes in one more glyph. A word is placed when white space follows it, or when it is too long
for a row of its own; a row ends when it is full or the glyph would go past its end. White space at
which a row ends is lost. -/
def step (width : Nat) (state : Wrapping) (glyph : Glyph) : Wrapping :=
  if width < glyph.width then state
  else
    let isBreak := glyph.cluster.isBreak
    let tooLong := state.row.isEmpty && decide (width < state.pendingWidth + glyph.width)
    let placed := if (state.inWord && isBreak) || tooLong then state.place else state
    if width ≤ totalWidth placed.row
        ∨ 0 < glyph.width ∧ width ≤ totalWidth placed.row + placed.pendingWidth then
      let broken := placed.breakRow width
      if isBreak && broken.blanks.isEmpty then broken else broken.pend glyph
    else placed.pend glyph

/-- The rows, at least one. White space alone stands on a row after an empty one. -/
def finish (state : Wrapping) : List (List Glyph) :=
  let led := if state.row.isEmpty && state.word.isEmpty && !state.blanks.isEmpty then [[]] else []
  let last := state.place.row
  let rows := state.rows ++ led ++ if last.isEmpty then [] else [last]
  if rows.isEmpty then [[]] else rows

end Wrapping

/-- The rows of a line within a width. -/
def wrapped (width : Nat) (glyphs : List Glyph) : List (List Glyph) :=
  (glyphs.foldl (Wrapping.step width) {}).finish

end SyntaxExplorer.Terminal
