import SyntaxExplorer.Explorer.Theme
import SyntaxExplorer.Terminal.Picture

namespace SyntaxExplorer

open Terminal

inductive Pane
  | source
  | tokens
  | tree
  | report
  deriving DecidableEq, Repr

namespace Pane

def name : Pane → String
  | source => "Source"
  | tokens => "Tokens"
  | tree => "Tree"
  | report => "Report"

def next : Pane → Pane
  | source => tokens
  | tokens => tree
  | tree => report
  | report => source

def previous : Pane → Pane
  | source => report
  | tokens => source
  | tree => tokens
  | report => tree

theorem previous_next (pane : Pane) : pane.next.previous = pane := by
  cases pane <;> rfl

theorem next_previous (pane : Pane) : pane.previous.next = pane := by
  cases pane <;> rfl

def frame (title : String) (focused : Bool) (padding : Nat) : Frame where
  title := title
  style := if focused then (Style.ink Theme.focusedFrame).strong else .ink Theme.frame
  padding := padding

/-- The number of lines that a pane of some height shows between its frame. A pane too small for any
still scrolls as if it showed one. -/
def visibleLines (height : Nat) : Nat :=
  max (height - 2) 1

end Pane

namespace Scroll

/-- The offset nearest to `offset` at which a window of some height shows a line. -/
def toLine (height line offset : Nat) : Nat :=
  if line < offset then line
  else if offset + height ≤ line then line + 1 - height
  else offset

/-- The offset held back so that the window does not reach past the last of some lines. -/
def within (height total offset : Nat) : Nat :=
  min offset (total - height)

/-- The greatest offset, a word of all ones. -/
def limit : Nat := UInt64.size - 1

/-- One line down, up to the greatest offset. -/
def down (offset : Nat) : Nat :=
  min (offset + 1) limit

def up (offset : Nat) : Nat :=
  offset - 1

theorem toLine_shows {height : Nat} (positive : 0 < height) (line offset : Nat) :
    toLine height line offset ≤ line ∧ line < toLine height line offset + height := by
  unfold toLine
  split
  · omega
  · split <;> omega

theorem toLine_of_shown {height line offset : Nat} (above : offset ≤ line)
    (below : line < offset + height) : toLine height line offset = offset := by
  simp only [toLine]
  split
  · omega
  · split <;> omega

theorem toLine_toLine {height : Nat} (positive : 0 < height) (line offset : Nat) :
    toLine height line (toLine height line offset) = toLine height line offset :=
  have shown := toLine_shows positive line offset
  toLine_of_shown shown.1 shown.2

theorem within_within (height total offset : Nat) :
    within height total (within height total offset) = within height total offset := by
  simp only [within]
  omega

end Scroll

end SyntaxExplorer
