import SyntaxExplorer.Explorer.Pane
import SyntaxExplorer.Source

namespace SyntaxExplorer.TokenPane

open Terminal

def textOf (token : Token) : String :=
  escape [('\n', 'n'), ('\t', 't')] token.text

/-- The line of the token at some index. -/
def row (cursor : Nat) (token : Token) (index : Nat) : Line where
  spans :=
    let style := Style.ink (Theme.ofToken token.kind)
    [⟨padLeft 4 (toString index) ++ " ", .ink Theme.comment⟩,
      ⟨padRight 12 token.kind.name, style.strong⟩,
      ⟨padRight 20 (textOf token), style⟩,
      ⟨" " ++ toString token.location.line ++ ":" ++ toString token.location.column,
        .ink Theme.comment⟩]
  style := if index = cursor then .ground Theme.selection else .plain

/-- The offset at which the pane is drawn: the selected token is in view. Without tokens there is
nothing to bring into view. -/
def settle (height : Nat) (tokens : List Token) (cursor offset : Nat) : Nat :=
  if tokens.isEmpty then offset else Scroll.toLine (Pane.visibleLines height) cursor offset

def visible (height : Nat) (tokens : List Token) (cursor offset : Nat) : List Line :=
  ((tokens.zipIdx.drop offset).take (Pane.visibleLines height)).map fun (token, index) =>
    row cursor token index

def content (height : Nat) (tokens : List Token) (cursor offset : Nat) : Paragraph :=
  if tokens.isEmpty then { lines := [.single "(no tokens)" .plain], style := .ink Theme.comment }
  else { lines := visible height tokens cursor offset }

/-- The pane's frame, which tells how many tokens there are. -/
def frame (tokens : List Token) (focused : Bool) : Frame :=
  Pane.frame (" Tokens (" ++ toString tokens.length ++ ") ") focused 1

end SyntaxExplorer.TokenPane
