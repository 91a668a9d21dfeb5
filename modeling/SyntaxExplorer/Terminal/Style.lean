namespace SyntaxExplorer.Terminal

/-- A colour: the terminal's own, a named one, or one by its parts. -/
inductive Color
  | reset
  | black
  | white
  | rgb (red green blue : UInt8)
  deriving DecidableEq, Repr, Inhabited

namespace Color

/-- A part of a colour as two hexadecimal digits. -/
def hexadecimal (part : UInt8) : String :=
  let digit (n : Nat) := Nat.digitChar n
  String.ofList [digit (part.toNat / 16), digit (part.toNat % 16)]

/-- The colour's name, or its parts after a number sign. -/
def code : Color → String
  | reset => "reset"
  | black => "black"
  | white => "white"
  | rgb red green blue => "#" ++ hexadecimal red ++ hexadecimal green ++ hexadecimal blue

end Color

/-- What a style asks for: colours where it names them, and bold letters. -/
structure Style where
  fg : Option Color := none
  bg : Option Color := none
  bold : Bool := false
  deriving DecidableEq, Repr, Inhabited

namespace Style

/-- The style that asks for nothing. -/
def plain : Style := {}

/-- The style with letters of a colour only. -/
def ink (color : Color) : Style := { fg := some color }

/-- The style with letters of one colour on another. -/
def inkOn (color ground : Color) : Style := { fg := some color, bg := some ground }

def ground (color : Color) : Style := { bg := some color }

def strong (style : Style) : Style := { style with bold := true }

/-- One style laid onto another: what it does not name shows through. -/
def onto (top below : Style) : Style where
  fg := top.fg.or below.fg
  bg := top.bg.or below.bg
  bold := below.bold || top.bold

end Style

/-- How a cell looks, but for what stands in it. -/
structure Look where
  fg : Color := .reset
  bg : Color := .reset
  bold : Bool := false
  deriving DecidableEq, Repr, Inhabited

namespace Look

/-- A look with a style laid onto it. -/
def restyle (look : Look) (style : Style) : Look where
  fg := style.fg.getD look.fg
  bg := style.bg.getD look.bg
  bold := look.bold || style.bold

end Look

/-- One place of a screen, and how many places its symbol takes from there on. -/
structure Cell where
  symbol : String := " "
  reach : Nat := 1
  look : Look := {}
  deriving DecidableEq, Repr, Inhabited

namespace Cell

def blank : Cell := {}

/-- The cell with a style laid onto it. -/
def restyle (cell : Cell) (style : Style) : Cell :=
  { cell with look := cell.look.restyle style }

/-- The cell with a symbol of some width drawn into it in a style. -/
def draw (cell : Cell) (symbol : String) (width : Nat) (style : Style) : Cell :=
  ⟨symbol, width, cell.look.restyle style⟩

end Cell

end SyntaxExplorer.Terminal
