import SyntaxExplorer.Explorer.ReportPane
import SyntaxExplorer.Explorer.SourcePane
import SyntaxExplorer.Explorer.StatusBar
import SyntaxExplorer.Explorer.TokenPane
import SyntaxExplorer.Explorer.TreePane
import SyntaxExplorer.Files

namespace SyntaxExplorer

open Terminal

/-- What the status bar has to say. -/
inductive Status
  | nothing
  | compiled (tokens nodes : Nat)
  | failed (error : CompileError)
  | expandedAll
  | collapsedAll
  | nothingToReload
  | notReloaded (path : String) (failure : ReadFailure)
  deriving DecidableEq, Repr

namespace Status

def message : Status → String
  | nothing => ""
  | compiled tokens nodes =>
    "Compiled: " ++ toString tokens ++ " tokens, " ++ toString nodes ++ " nodes"
  | failed error => error.message
  | expandedAll => "Expanded all nodes"
  | collapsedAll => "Collapsed all nodes"
  | nothingToReload => "Nothing to reload"
  | notReloaded path failure => "Cannot reload " ++ path ++ ": " ++ failure.reason

/-- What is told of a text that was taken: its error, or else the numbers of its report. -/
def ofOutcome (error? : Option CompileError) (report? : Option Report) : Status :=
  match error?, report? with
  | some error, _ => failed error
  | none, some report => compiled report.totalTokens report.nodeCount
  | none, none => nothing

end Status

/-- The keys that can be pressed. Only some have a meaning. -/
inductive Key
  | character (c : Char)
  | tab
  | backTab
  | up
  | down
  | enter
  | other
  deriving DecidableEq, Repr

/-- The state of the explorer. Tokens, tree, report and error are what came of the source; the tokens are
kept where the tree fails. -/
structure Explorer where
  path : Option String
  source : String
  tokens : List Token
  tree? : Option SyntaxTree
  report? : Option Report
  error? : Option CompileError
  treeView : TreeView
  focus : Pane
  sourceScroll : Nat
  tokenScroll : Nat
  reportScroll : Nat
  tokenCursor : Nat
  quitting : Bool
  status : Status

namespace Explorer

/-- Drops what came of a text, but for its tokens. Cursors and offsets start anew, but for the offset of the
source; the focus stays. -/
def forget (explorer : Explorer) : Explorer :=
  { explorer with
    tree? := none
    report? := none
    error? := none
    treeView := .fresh
    tokenCursor := 0
    tokenScroll := 0
    reportScroll := 0 }

/-- Takes the tokens of the source, or the error for which it has none. -/
def scan (explorer : Explorer) : Explorer :=
  match tokenize explorer.source with
  | .ok tokens => { explorer with tokens := tokens }
  | .error error => { explorer with tokens := [], error? := some (.lexical error) }

/-- Takes the report and the tree of the tokens at hand, or the error for which they have none. -/
def build (explorer : Explorer) : Explorer :=
  match parse explorer.tokens with
  | .ok tree => { explorer with report? := some (.analyze explorer.tokens tree), tree? := some tree }
  | .error error => { explorer with error? := some (.grammatical error) }

/-- Goes through both stages with the source at hand. The second one is left out after an error. -/
def load (explorer : Explorer) : Explorer :=
  let scanned := explorer.forget.scan
  let built := if scanned.error?.isNone then scanned.build else scanned
  { built with status := .ofOutcome built.error? built.report? }

/-- An explorer of a source text, which may come from a file. -/
def start (source : String) (path : Option String) : Explorer :=
  load
    { path := path
      source := source
      tokens := []
      tree? := none
      report? := none
      error? := none
      treeView := .fresh
      focus := .tokens
      sourceScroll := 0
      tokenScroll := 0
      reportScroll := 0
      tokenCursor := 0
      quitting := false
      status := .nothing }

/-- Reads the file again. If it cannot be read, only the status tells. -/
def reload (read : String → Except ReadFailure ByteArray) (explorer : Explorer) : Explorer :=
  match explorer.path with
  | none => { explorer with status := .nothingToReload }
  | some path =>
    match (read path).bind decodeText with
    | .ok source => load { explorer with source := source }
    | .error failure => { explorer with status := .notReloaded path failure }

/-- The line to mark: that of the error, or that of the selected token. -/
def mark? (explorer : Explorer) : Option Mark :=
  match explorer.error? with
  | some error => some ⟨error.location.line, true⟩
  | none => explorer.tokens[explorer.tokenCursor]?.map fun token => ⟨token.location.line, false⟩

def label (explorer : Explorer) : String :=
  (explorer.path.bind FilePath.fileName).getD "<input>"

/-- Changes the view of the tree, where there is a tree. -/
def withTree (explorer : Explorer) (change : TreeView → SyntaxTree → TreeView) : Explorer :=
  explorer.tree?.elim explorer fun tree =>
    { explorer with treeView := change explorer.treeView tree }

/-- One step up in the pane that has the focus. -/
def moveUp (explorer : Explorer) : Explorer :=
  match explorer.focus with
  | .source => { explorer with sourceScroll := Scroll.up explorer.sourceScroll }
  | .tokens => { explorer with tokenCursor := explorer.tokenCursor - 1 }
  | .tree => { explorer with treeView := explorer.treeView.moveUp }
  | .report => { explorer with reportScroll := Scroll.up explorer.reportScroll }

/-- One step down in the pane that has the focus. -/
def moveDown (explorer : Explorer) : Explorer :=
  match explorer.focus with
  | .source => { explorer with sourceScroll := Scroll.down explorer.sourceScroll }
  | .tokens =>
    if explorer.tokenCursor + 1 < explorer.tokens.length then
      { explorer with tokenCursor := explorer.tokenCursor + 1 }
    else explorer
  | .tree => explorer.withTree TreeView.moveDown
  | .report => { explorer with reportScroll := Scroll.down explorer.reportScroll }

/-- Opens or collapses the selected node, if the tree has the focus. -/
def toggle (explorer : Explorer) : Explorer :=
  if explorer.focus = .tree then explorer.withTree TreeView.toggle else explorer

def expandAll (explorer : Explorer) : Explorer :=
  { explorer with treeView := explorer.treeView.expandAll, status := .expandedAll }

/-- Collapses all nodes below the root, if there is a tree. -/
def collapseAll (explorer : Explorer) : Explorer :=
  if explorer.tree?.isSome then
    { explorer.withTree TreeView.collapseAll with status := .collapsedAll }
  else explorer

/-- What a key does, given what reading a file gives at the time. -/
def press (read : String → Except ReadFailure ByteArray) (key : Key) (explorer : Explorer) :
    Explorer :=
  match key with
  | .character 'q' | .character 'Q' => { explorer with quitting := true }
  | .tab => { explorer with focus := explorer.focus.next }
  | .backTab => { explorer with focus := explorer.focus.previous }
  | .up => explorer.moveUp
  | .down => explorer.moveDown
  | .enter | .character ' ' => explorer.toggle
  | .character 'e' => explorer.expandAll
  | .character 'c' => explorer.collapseAll
  | .character 'r' => explorer.reload read
  | _ => explorer

end Explorer

end SyntaxExplorer
