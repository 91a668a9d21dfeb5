import SyntaxExplorer.Terminal.Picture

namespace SyntaxExplorer.Terminal

namespace Picture

/-- Whether a wide symbol in the cell before covers the place. Rows are read one after the other, so
the last cell of a row stands before the first one of the next. -/
def covered (picture : Picture) (x y : Nat) : Bool :=
  match x, y with
  | 0, 0 => false
  | 0, y + 1 => 1 < (picture.cell (picture.width - 1) y).reach
  | x + 1, y => 1 < (picture.cell x y).reach

/-- The cell that a terminal shows at a place. Covered places stay empty. -/
def shown (picture : Picture) (x y : Nat) : Cell :=
  if picture.covered x y then Cell.blank else picture.cell x y

end Picture

/-- The rows of cells that a terminal shows. -/
structure Screen where
  rows : List (List Cell)
  deriving DecidableEq, Repr

/-- Neighbouring cells of one row that look the same. -/
structure StyleRun where
  row : Nat
  column : Nat
  length : Nat
  look : Look
  deriving DecidableEq, Repr

namespace Screen

/-- What a terminal shows when a picture fills it. -/
def ofPicture (picture : Picture) : Screen :=
  ⟨(List.range picture.height).map fun y => (List.range picture.width).map fun x =>
    picture.shown x y⟩

def text (screen : Screen) : List String :=
  screen.rows.map fun row => String.join (row.map Cell.symbol)

/-- Lengths and looks of the runs of a row. -/
def runs : List Look → List (Nat × Look)
  | [] => []
  | look :: looks =>
    match runs looks with
    | (length, next) :: others =>
      if look = next then (length + 1, next) :: others else (1, look) :: (length, next) :: others
    | [] => [(1, look)]

/-- The runs of a row with the columns at which they begin. -/
def placeRuns (row column : Nat) : List (Nat × Look) → List StyleRun
  | [] => []
  | (length, look) :: others =>
    ⟨row, column, length, look⟩ :: placeRuns row (column + length) others

/-- The runs, row by row, that do not look like an empty terminal. -/
def styleRuns (screen : Screen) : List StyleRun :=
  screen.rows.zipIdx.flatMap fun (row, y) =>
    (placeRuns y 0 (runs (row.map Cell.look))).filter (·.look ≠ {})

end Screen

end SyntaxExplorer.Terminal
