import SyntaxExplorer.Token.Basic
import SyntaxExplorer.Tree.Basic

namespace SyntaxExplorer

/-- What is counted in one program. -/
@[ext] structure Report where
  tokenCount : TokenKind → Nat
  nodeCount : Nat
  treeDepth : Nat
  functions : Nat
  declaredVariables : Nat
  branches : Nat
  loops : Nat
  returns : Nat
  maxLoopNesting : Nat

namespace Report

/-- Nothing is counted yet. -/
def blank : Report :=
  ⟨fun _ => 0, 0, 0, 0, 0, 0, 0, 0, 0⟩

/-- One more token of its kind. -/
def countToken (report : Report) (token : Token) : Report :=
  { report with tokenCount := fun kind =>
      if token.kind = kind then report.tokenCount kind + 1 else report.tokenCount kind }

/-- One more node, of a kind that declares, branches or returns, or of another. -/
def countNode (report : Report) : NodeKind → Report
  | .functionDeclaration => { report with functions := report.functions + 1 }
  | .variableDeclaration => { report with declaredVariables := report.declaredVariables + 1 }
  | .ifStatement => { report with branches := report.branches + 1 }
  | .returnStatement => { report with returns := report.returns + 1 }
  | _ => report

/-- Counts a node that lies in some number of loops. With the report goes the number of loops in which the
node's children lie. -/
def enter (report : Report) (outer : Nat) (kind : NodeKind) : Report × Nat :=
  let counted := report.countNode kind
  let (counted, inner) :=
    if kind.isLoop then ({ counted with loops := counted.loops + 1 }, outer + 1)
    else (counted, outer)
  ({ counted with maxLoopNesting := max counted.maxLoopNesting inner }, inner)

mutual

/-- Counts a node, and then what is below it. One report is handed on from node to node, the number of
loops from a node to its children. -/
def visit (report : Report) (outer : Nat) : SyntaxTree → Report
  | ⟨kind, _, children⟩ =>
    let (entered, inner) := report.enter outer kind
    visitAll entered inner children

def visitAll (report : Report) (outer : Nat) : List SyntaxTree → Report
  | [] => report
  | tree :: trees => visitAll (visit report outer tree) outer trees

end

/-- Counts tokens and nodes. The tokens and the tree need not belong together, and the tree need not
be a program. -/
def analyze (tokens : List Token) (tree : SyntaxTree) : Report :=
  let measured := { blank with nodeCount := tree.size, treeDepth := tree.depth }
  visit (tokens.foldl countToken measured) 0 tree

/-- What is counted of trees side by side, all in some number of loops. -/
def adding (report : Report) (outer : Nat) (trees : List SyntaxTree) : Report where
  tokenCount := report.tokenCount
  nodeCount := report.nodeCount
  treeDepth := report.treeDepth
  functions := report.functions + (trees.map (SyntaxTree.count (· = .functionDeclaration))).foldr (· + ·) 0
  declaredVariables :=
    report.declaredVariables + (trees.map (SyntaxTree.count (· = .variableDeclaration))).foldr (· + ·) 0
  branches := report.branches + (trees.map (SyntaxTree.count (· = .ifStatement))).foldr (· + ·) 0
  loops := report.loops + (trees.map (SyntaxTree.count NodeKind.isLoop)).foldr (· + ·) 0
  returns := report.returns + (trees.map (SyntaxTree.count (· = .returnStatement))).foldr (· + ·) 0
  maxLoopNesting := max report.maxLoopNesting (outer + (trees.map SyntaxTree.loopNesting).foldr max 0)

/-- A kind raises one of the numbers at most, and a loop the number of loops. -/
theorem enter_eq (report : Report) (outer : Nat) (kind : NodeKind) :
    report.enter outer kind =
      ({ report with
          functions := report.functions + if kind = .functionDeclaration then 1 else 0
          declaredVariables :=
            report.declaredVariables + if kind = .variableDeclaration then 1 else 0
          branches := report.branches + if kind = .ifStatement then 1 else 0
          loops := report.loops + if kind.isLoop then 1 else 0
          returns := report.returns + if kind = .returnStatement then 1 else 0
          maxLoopNesting := max report.maxLoopNesting (outer + if kind.isLoop then 1 else 0) },
        outer + if kind.isLoop then 1 else 0) := by
  cases kind <;> rfl

/-- The running maximum reaches the number of loops around the children. -/
theorem enter_reaches (report : Report) (outer : Nat) (kind : NodeKind) :
    (report.enter outer kind).2 ≤ (report.enter outer kind).1.maxLoopNesting := by
  rw [enter_eq]
  exact Nat.le_max_right ..

theorem adding_nil {report : Report} {outer : Nat} (reached : outer ≤ report.maxLoopNesting) :
    report.adding outer [] = report := by
  ext <;> simp only [adding, List.map_nil, List.foldr_nil, Nat.add_zero]
  omega

theorem adding_cons (report : Report) (outer : Nat) (tree : SyntaxTree) (trees : List SyntaxTree) :
    (report.adding outer [tree]).adding outer trees = report.adding outer (tree :: trees) := by
  ext <;> simp only [adding, List.map_cons, List.map_nil, List.foldr_cons, List.foldr_nil] <;> omega

/-- What a node adds is what it adds itself and what its children add. -/
theorem adding_node (report : Report) (outer : Nat) (kind : NodeKind) (value : Option String)
    (children : List SyntaxTree) :
    (report.enter outer kind).1.adding (report.enter outer kind).2 children =
      report.adding outer [⟨kind, value, children⟩] := by
  rw [enter_eq]
  ext <;> simp only [adding, List.map_cons, List.map_nil, List.foldr_cons, List.foldr_nil,
    SyntaxTree.count_node, SyntaxTree.loopNesting_node, decide_eq_true_eq] <;> omega

/-- Trees side by side add what each of them adds, where the running maximum has reached the number of loops
around them. -/
theorem visitAll_eq {trees : List SyntaxTree}
    (each : ∀ tree ∈ trees, ∀ report outer, visit report outer tree = report.adding outer [tree])
    {report : Report} {outer : Nat} (reached : outer ≤ report.maxLoopNesting) :
    visitAll report outer trees = report.adding outer trees := by
  induction trees generalizing report with
  | nil => rw [visitAll, adding_nil reached]
  | cons tree trees ih =>
    have still : outer ≤ (report.adding outer [tree]).maxLoopNesting :=
      Nat.le_trans reached (Nat.le_max_left ..)
    rw [visitAll, each tree List.mem_cons_self,
      ih (fun other member => each other (List.mem_cons_of_mem _ member)) still, adding_cons]

/-- A visit adds what is counted in the tree from the leaves up. -/
theorem visit_eq (report : Report) (outer : Nat) (tree : SyntaxTree) :
    visit report outer tree = report.adding outer [tree] := by
  induction tree using SyntaxTree.induction generalizing report outer with
  | node kind value children ih =>
    have each (child) (member : child ∈ children) (report : Report) (outer : Nat) :
        visit report outer child = report.adding outer [child] := ih child member report outer
    rw [← adding_node]
    exact visitAll_eq each (enter_reaches report outer kind)

/-- The tokens are counted by their kinds, in any order, and nothing else changes. -/
theorem foldl_countToken (tokens : List Token) (report : Report) :
    tokens.foldl countToken report = { report with
      tokenCount := fun kind => report.tokenCount kind + tokens.countP (·.kind = kind) } := by
  induction tokens generalizing report with
  | nil => rfl
  | cons token tokens ih =>
    rw [List.foldl_cons, ih]
    refine Report.ext (funext fun kind => ?_) rfl rfl rfl rfl rfl rfl rfl rfl
    simp only [countToken, List.countP_cons, decide_eq_true_eq]
    split <;> omega

/-- The report of the walk through the tokens and the nodes, number by number. -/
theorem analyze_eq (tokens : List Token) (tree : SyntaxTree) :
    analyze tokens tree =
      { tokenCount := fun kind => tokens.countP (·.kind = kind)
        nodeCount := tree.size
        treeDepth := tree.depth
        functions := tree.count (· = .functionDeclaration)
        declaredVariables := tree.count (· = .variableDeclaration)
        branches := tree.count (· = .ifStatement)
        loops := tree.count NodeKind.isLoop
        returns := tree.count (· = .returnStatement)
        maxLoopNesting := tree.loopNesting } := by
  rw [analyze, visit_eq, foldl_countToken]
  ext <;> simp only [adding, blank, List.map_cons, List.map_nil, List.foldr_cons, List.foldr_nil] <;>
    omega

def totalTokens (report : Report) : Nat :=
  (TokenKind.all.map report.tokenCount).foldr (· + ·) 0

/-- Each level of nested loops multiplies the work by the size of the input. -/
def timeEstimate (report : Report) : String :=
  match report.maxLoopNesting with
  | 0 => "O(1)"
  | 1 => "O(n)"
  | nesting => "O(n^" ++ toString nesting ++ ")"

/-- There are only scalar variables, so memory does not grow with the input. -/
def spaceEstimate (_ : Report) : String :=
  "O(1)"

def loopDetail (report : Report) : String :=
  if report.loops = 0 then "No loops: straight-line control flow"
  else toString report.loops ++ " loop(s), nested at most " ++ toString report.maxLoopNesting ++
    " deep"

/-- The observations, one a line, in the order in which they are shown. -/
def details (report : Report) : List String :=
  [toString report.totalTokens ++ " tokens (" ++ toString (report.tokenCount .comment) ++
      " comments)",
    toString report.nodeCount ++ " syntax nodes, tree depth " ++ toString report.treeDepth,
    toString report.functions ++ " function(s), " ++ toString report.declaredVariables ++
      " variable declaration(s)",
    report.loopDetail] ++
  (if report.branches = 0 then []
    else [toString report.branches ++ " conditional branch(es)"]) ++
  [toString report.declaredVariables ++ " scalar variable(s); no arrays or dynamic allocation"]

def text (report : Report) : String :=
  "Time complexity:  " ++ report.timeEstimate ++ "\n" ++
  "Space complexity: " ++ report.spaceEstimate ++ "\n" ++
  String.join (report.details.map fun detail => "- " ++ detail ++ "\n")

end Report

end SyntaxExplorer
