import SyntaxExplorer.Compilation
import SyntaxExplorer.Explorer.Pane
import SyntaxExplorer.Source

namespace SyntaxExplorer.ReportPane

open Terminal

def estimate (name value : String) : Line :=
  ⟨[⟨name, .ink Theme.comment⟩, ⟨value, (Style.ink Theme.secondary).strong⟩], .plain⟩

def observation (detail : String) : Line :=
  ⟨[⟨"• ", .ink Theme.comment⟩, ⟨detail, .ink Theme.letters⟩], .plain⟩

def tally (report : Report) (kind : TokenKind) : Line :=
  ⟨[⟨padRight 12 kind.name, .ink (Theme.ofToken kind)⟩,
    ⟨toString (report.tokenCount kind), .ink Theme.letters⟩], .plain⟩

def reportLines (report : Report) : List Line :=
  [estimate "Time  " report.timeEstimate, estimate "Space " report.spaceEstimate, .empty] ++
    report.details.map observation ++ [.empty] ++ TokenKind.all.map (tally report)

def lines (report : Option Report) (error : Option CompileError) : List Line :=
  match report, error with
  | some report, _ => reportLines report
  | none, some error =>
    [.single ("No analysis: " ++ error.stage ++ " at " ++ error.location.description)
      (.ink Theme.error)]
  | none, none => [.single "(no analysis)" (.ink Theme.comment)]

/-- The offset at which the pane is drawn, held back by the number of lines before they are
broken into rows. -/
def settle (height : Nat) (report : Option Report) (error : Option CompileError) (offset : Nat) :
    Nat :=
  Scroll.within (Pane.visibleLines height) (lines report error).length offset

/-- What the pane shows at an offset, which counts rows. -/
def content (report : Option Report) (error : Option CompileError) (offset : Nat) : Paragraph where
  lines := lines report error
  flow := .wrap offset

def frame (focused : Bool) : Frame :=
  Pane.frame " Analysis " focused 1

end SyntaxExplorer.ReportPane
