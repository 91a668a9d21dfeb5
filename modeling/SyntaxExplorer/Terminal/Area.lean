namespace SyntaxExplorer.Terminal

structure Area where
  x : Nat
  y : Nat
  width : Nat
  height : Nat
  deriving DecidableEq, Repr

namespace Area

def whole (width height : Nat) : Area :=
  ⟨0, 0, width, height⟩

/-- The greatest number of cells in an area. -/
def cellLimit : Nat := 65535

/-- The area, or where it has too many cells, the greatest one of the same shape and corner. Its
sides are reckoned in binary floating point and cut down to whole cells. -/
def bounded (area : Area) : Area :=
  if area.width * area.height ≤ cellLimit then area
  else
    let shape := area.width.toFloat / area.height.toFloat
    let height := (cellLimit.toFloat / shape).sqrt
    { area with width := (height * shape).toUInt16.toNat, height := height.toUInt16.toNat }

def contains (area : Area) (x y : Nat) : Bool :=
  area.x ≤ x && x < area.x + area.width && area.y ≤ y && y < area.y + area.height

/-- The part of an area that lies on a terminal. -/
def clip (width height : Nat) (area : Area) : Area :=
  ⟨area.x, area.y, min (area.x + area.width) width - area.x,
    min (area.y + area.height) height - area.y⟩

/-- The area cut at a column. -/
def splitAtColumn (area : Area) (column : Nat) : Area × Area :=
  (⟨area.x, area.y, column, area.height⟩,
    ⟨area.x + column, area.y, area.width - column, area.height⟩)

def splitAtRow (area : Area) (row : Nat) : Area × Area :=
  (⟨area.x, area.y, area.width, row⟩, ⟨area.x, area.y + row, area.width, area.height - row⟩)

/-- The area cut at a share of its width, in hundredths. A half cell goes to the left part. -/
def splitColumns (area : Area) (share : Nat) : Area × Area :=
  area.splitAtColumn ((share * area.width + 50) / 100)

/-- The area cut at a share of its height, in hundredths. A half cell goes to the upper part. -/
def splitRows (area : Area) (share : Nat) : Area × Area :=
  area.splitAtRow ((share * area.height + 50) / 100)

end Area

end SyntaxExplorer.Terminal
