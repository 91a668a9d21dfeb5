import SyntaxExplorer.Compilation
import SyntaxExplorer.Explorer.Theme
import SyntaxExplorer.Terminal.Picture

namespace SyntaxExplorer.StatusBar

open Terminal

/-- Letters on the bar's ground. -/
def onBar (color : Color) : Style :=
  .inkOn color Theme.selection

/-- Whether there is an error, and at which stage. -/
def badge (error : Option CompileError) : Span :=
  match error with
  | some error => ⟨" " ++ error.stage ++ " ", (Style.inkOn .black Theme.error).strong⟩
  | none => ⟨" OK ", (Style.inkOn .black Theme.success).strong⟩

/-- The left half. -/
def state (message label : String) (error : Option CompileError) : Paragraph where
  lines := [⟨[badge error,
    ⟨" " ++ label ++ " ", .inkOn .black Theme.primary⟩,
    ⟨" | ", onBar Theme.comment⟩,
    ⟨" " ++ message ++ " ", onBar (if error.isSome then Theme.error else Theme.letters)⟩], .plain⟩]
  style := .ground Theme.selection

def bindings : List (String × String) :=
  [(" ⇥ ", " pane "), (" ↑/↓ ", " move "), (" ↵ ", " fold "), (" e/c ", " expand/collapse "),
    (" r ", " reload "), ("q", " quit ")]

def binding (key meaning : String) : List Span :=
  [⟨key, .inkOn .black Theme.comment⟩, ⟨meaning, onBar Theme.letters⟩]

def separator : List Span :=
  [⟨"│", onBar Theme.comment⟩, ⟨" ", onBar Theme.letters⟩]

/-- The right half. -/
def help : Paragraph where
  lines :=
    let keys := bindings.map fun (key, meaning) => binding key meaning
    [⟨(keys.intersperse separator).flatten, .plain⟩]
  flow := .cutFlushRight
  style := .ground Theme.selection

/-- A picture with the bar in an area. -/
def drawOn (picture : Picture) (area : Area) (message label : String)
    (error : Option CompileError) : Picture :=
  let (left, right) := area.splitColumns 50
  (picture.drawText left (state message label error)).drawText right help

end SyntaxExplorer.StatusBar
