import SyntaxExplorer.Terminal.Area
import SyntaxExplorer.Terminal.Text

namespace SyntaxExplorer.Terminal

namespace Glyph

/-- The columns that a glyph takes. It stands in the first one and leaves the others alone. A glyph
without width takes none and is not seen. -/
def columns (glyph : Glyph) : List (Option Glyph) :=
  match glyph.width with
  | 0 => []
  | others + 1 => some glyph :: List.replicate others none

end Glyph

/-- The columns that some glyphs take, one after the other. -/
def columnsOf (glyphs : List Glyph) : List (Option Glyph) :=
  glyphs.flatMap Glyph.columns

/-- A size, and what stands at each column and row within it. -/
structure Picture where
  width : Nat
  height : Nat
  cell : Nat → Nat → Cell

namespace Picture

def blank (width height : Nat) : Picture :=
  ⟨width, height, fun _ _ => Cell.blank⟩

/-- The picture with a style laid onto the cells of an area. -/
def restyle (picture : Picture) (area : Area) (style : Style) : Picture :=
  { picture with cell := fun x y =>
      if area.contains x y then (picture.cell x y).restyle style else picture.cell x y }

/-- The picture with rows of glyphs written from the corner of an area on. Rows below the area are
lost; a row ends with its glyphs, wherever the area ends. -/
def write (picture : Picture) (area : Area) (rows : List (List (Option Glyph))) : Picture :=
  let rows := rows.take area.height
  { picture with cell := fun x y =>
      if x < area.x ∨ y < area.y then picture.cell x y
      else match (rows[y - area.y]?.getD [])[x - area.x]?.join with
        | some glyph => (picture.cell x y).draw glyph.cluster.symbol glyph.width glyph.style
        | none => picture.cell x y }

end Picture

/-- A frame with a title, and empty columns between its left side and what it surrounds. -/
structure Frame where
  title : String
  style : Style
  padding : Nat

namespace Frame

/-- The area that the frame surrounds. -/
def inner (frame : Frame) (area : Area) : Area :=
  ⟨area.x + 1 + frame.padding, area.y + 1, area.width - 2 - frame.padding, area.height - 2⟩

/-- The sign at a place on a frame of some size, if the place is on it. In areas too small for four
corners the left ones stand before the right ones and the upper before the lower. -/
def sign? (width height x y : Nat) : Option String :=
  if y = 0 then some (if x = 0 then "┌" else if x + 1 = width then "┐" else "─")
  else if y + 1 = height then some (if x = 0 then "└" else if x + 1 = width then "┘" else "─")
  else if x = 0 ∨ x + 1 = width then some "│"
  else none

/-- The columns of the title between two corners. What is too long of it is cut off. -/
def titleColumns (frame : Frame) (width : Nat) : List (Option Glyph) :=
  columnsOf (fitting (width - 2) (Line.single frame.title .plain).glyphs)

end Frame

/-- How the lines of a paragraph become rows. -/
inductive Flow
  | cut
  | cutFlushRight
  | wrap (skipped : Nat)
  deriving DecidableEq, Repr

/-- Lines of text over a ground of one style. -/
structure Paragraph where
  lines : List Line
  flow : Flow := .cut
  style : Style := .plain

namespace Paragraph

/-- The rows of glyphs in a width. Wrapped rows can be skipped from the top. -/
def rows (paragraph : Paragraph) (width : Nat) : List (List Glyph) :=
  match paragraph.flow with
  | .wrap skipped => (paragraph.lines.flatMap fun line => wrapped width line.glyphs).drop skipped
  | _ => paragraph.lines.map fun line => fitting width line.glyphs

/-- How far in a row of glyphs begins. -/
def indent (paragraph : Paragraph) (width : Nat) (glyphs : List Glyph) : Nat :=
  match paragraph.flow with
  | .cutFlushRight => width - totalWidth glyphs
  | _ => 0

/-- The columns of a row, up to the end of its text. -/
def rowColumns (paragraph : Paragraph) (width : Nat) (glyphs : List Glyph) :
    List (Option Glyph) :=
  List.replicate (paragraph.indent width glyphs) none ++ columnsOf glyphs

end Paragraph

namespace Picture

/-- The picture with the sides of a frame around an area of it. -/
def drawSides (picture : Picture) (area : Area) (style : Style) : Picture :=
  { picture with cell := fun x y =>
      if area.contains x y then
        match Frame.sign? area.width area.height (x - area.x) (y - area.y) with
        | some sign => (picture.cell x y).draw sign 1 style
        | none => picture.cell x y
      else picture.cell x y }

/-- The picture with a frame around what can be seen of an area. The title stands in the upper
side. -/
def drawFrame (picture : Picture) (area : Area) (frame : Frame) : Picture :=
  let visible := area.clip picture.width picture.height
  (picture.drawSides visible frame.style).write
    ⟨visible.x + 1, visible.y, visible.width - 2, min visible.height 1⟩
    [frame.titleColumns visible.width]

/-- The picture with a paragraph in an area. Without columns or rows there is no place for text. -/
def drawText (picture : Picture) (area : Area) (paragraph : Paragraph) : Picture :=
  if area.width = 0 ∨ area.height = 0 then picture
  else (picture.restyle area paragraph.style).write area
    ((paragraph.rows area.width).map (paragraph.rowColumns area.width))

/-- The picture with a paragraph in a frame. The paragraph's ground lies under the frame too. -/
def drawFramed (picture : Picture) (area : Area) (frame : Frame) (paragraph : Paragraph) :
    Picture :=
  ((picture.restyle area paragraph.style).drawFrame area frame).drawText (frame.inner area)
    paragraph

end Picture

end SyntaxExplorer.Terminal
