import SyntaxExplorer.Source
import SyntaxExplorer.Compilation
import SyntaxExplorer.Terminal.Screen
import SyntaxExplorer.Explorer.SourcePane
import SyntaxExplorer.Explorer.TokenPane
import SyntaxExplorer.Explorer.TreePane
import SyntaxExplorer.Explorer.ReportPane
import SyntaxExplorer.Explorer.StatusBar
import SyntaxExplorer.Explorer.Drawing
import SyntaxExplorer.CommandLine.Response
import SyntaxExplorer.Main
import SyntaxExplorer.Proofs.Grammar.Nesting
import SyntaxExplorer.Proofs.Grammar.Rounds
import SyntaxExplorer.Proofs.Grammar.Derivation
import SyntaxExplorer.Proofs.Grammar.ExpressionSoundness
import SyntaxExplorer.Proofs.Grammar.ExpressionCompleteness
import SyntaxExplorer.Proofs.Grammar.PhraseSoundness
import SyntaxExplorer.Proofs.Grammar.PhraseCompleteness
import SyntaxExplorer.Proofs.Grammar.Comments
import SyntaxExplorer.Proofs.Token.Layout
import SyntaxExplorer.Proofs.Grammar.Trees
import SyntaxExplorer.Proofs.Explorer.Session
import SyntaxExplorer.Proofs.Grammar.Accounts
import SyntaxExplorer.Proofs.Explorer.Colours
import SyntaxExplorer.Proofs.Explorer.Sweep
import SyntaxExplorer.Proofs.Grammar.EarlyFailure
import SyntaxExplorer.Grammar.Parser
import SyntaxExplorer.Proofs.Grammar.Blame
import SyntaxExplorer.Proofs.Token.LineBreak
import SyntaxExplorer.Proofs.Grammar.Calls
import SyntaxExplorer.Proofs.Grammar.Concatenation
import SyntaxExplorer.Proofs.Explorer.ReportScroll
import SyntaxExplorer.Proofs.Token.Printing
import SyntaxExplorer.Proofs.Explorer.MarkedLine
import SyntaxExplorer.Proofs.Explorer.TreeRows
import SyntaxExplorer.Proofs.Explorer.Selection
import SyntaxExplorer.Proofs.Explorer.Unscrolled
import SyntaxExplorer.Proofs.Tree.Paths
import SyntaxExplorer.Proofs.Explorer.VisibleNodes
import SyntaxExplorer.Proofs.Explorer.Toggling
import SyntaxExplorer.Proofs.Explorer.Settling
import SyntaxExplorer.Proofs.Explorer.Opening
import SyntaxExplorer.Proofs.Grammar.Relocation
import SyntaxExplorer.Proofs.Grammar.AssignmentChain
import SyntaxExplorer.Proofs.Grammar.Values
import SyntaxExplorer.Proofs.Explorer.PrintedOutline
import SyntaxExplorer.Proofs.Token.Calls
import SyntaxExplorer.Proofs.Report
import SyntaxExplorer.Proofs.CommandLine.Arguments
import SyntaxExplorer.Proofs.CommandLine.Printing
import SyntaxExplorer.Proofs.Grammar.Notes
import SyntaxExplorer.Proofs.Tree.Announced
import SyntaxExplorer.Proofs.Grammar.Announcements
import SyntaxExplorer.Proofs.CommandLine.Log
import SyntaxExplorer.Proofs.Explorer.OpenComment
