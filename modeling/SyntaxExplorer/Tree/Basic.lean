namespace SyntaxExplorer

/-- What a node of a syntax tree stands for. -/
inductive NodeKind
  | program
  | functionDeclaration
  | parameters
  | variableDeclaration
  | type
  | initialization
  | ifStatement
  | whileStatement
  | forStatement
  | forInit
  | forCondition
  | forIncrement
  | returnStatement
  | block
  | assignment
  | binary
  | unary
  | literal
  | identifier
  | grouping
  deriving DecidableEq, Repr, Inhabited

namespace NodeKind

def all : List NodeKind :=
  [program, functionDeclaration, parameters, variableDeclaration, type, initialization,
    ifStatement, whileStatement, forStatement, forInit, forCondition, forIncrement,
    returnStatement, block, assignment, binary, unary, literal, identifier, grouping]

def name : NodeKind → String
  | program => "PROGRAM"
  | functionDeclaration => "FUNCTION_DECLARATION"
  | parameters => "PARAMETERS"
  | variableDeclaration => "VARIABLE_DECLARATION"
  | type => "TYPE"
  | initialization => "INITIALIZATION"
  | ifStatement => "IF_STATEMENT"
  | whileStatement => "WHILE_STATEMENT"
  | forStatement => "FOR_STATEMENT"
  | forInit => "FOR_INIT"
  | forCondition => "FOR_CONDITION"
  | forIncrement => "FOR_INCREMENT"
  | returnStatement => "RETURN_STATEMENT"
  | block => "BLOCK"
  | assignment => "ASSIGNMENT"
  | binary => "BINARY"
  | unary => "UNARY"
  | literal => "LITERAL"
  | identifier => "IDENTIFIER"
  | grouping => "GROUPING"

/-- The statements whose body may run many times. -/
def isLoop (kind : NodeKind) : Bool :=
  kind = whileStatement || kind = forStatement

theorem mem_all (kind : NodeKind) : kind ∈ all := by
  cases kind <;> decide

end NodeKind

/-- A node with everything below it. -/
structure SyntaxTree where
  node ::
  kind : NodeKind
  value : Option String
  children : List SyntaxTree
  deriving Repr, Inhabited

namespace SyntaxTree

/-- A node with a value and nothing below it. -/
def leaf (kind : NodeKind) (value : String) : SyntaxTree :=
  ⟨kind, some value, []⟩

/-- The value, empty where there is none. -/
def valueText (tree : SyntaxTree) : String :=
  tree.value.getD ""

/-- The kind, and the value where there is one, even an empty one. -/
def labelOf (kind : NodeKind) (value : Option String) : String :=
  match value with
  | some text => kind.name ++ ": " ++ text
  | none => kind.name

/-- The text of a node in the outline. -/
def label (tree : SyntaxTree) : String :=
  labelOf tree.kind tree.value

mutual

/-- Combines what a node says with the results of its children, from the leaves up. -/
def fold {α : Type} (combine : NodeKind → Option String → List α → α) : SyntaxTree → α
  | ⟨kind, value, children⟩ => combine kind value (foldAll combine children)

/-- The results of several trees side by side. -/
def foldAll {α : Type} (combine : NodeKind → Option String → List α → α) :
    List SyntaxTree → List α
  | [] => []
  | tree :: trees => tree.fold combine :: foldAll combine trees

end

theorem foldAll_eq_map {α : Type} (combine : NodeKind → Option String → List α → α)
    (trees : List SyntaxTree) : foldAll combine trees = trees.map (fold combine) := by
  induction trees with
  | nil => rfl
  | cons tree trees ih => simp [foldAll, ih]

theorem fold_node {α : Type} (combine : NodeKind → Option String → List α → α) (kind : NodeKind)
    (value : Option String) (children : List SyntaxTree) :
    fold combine ⟨kind, value, children⟩ = combine kind value (children.map (fold combine)) := by
  rw [fold, foldAll_eq_map]

/-- A property of trees holds of all if each node has it whose children have it. -/
theorem induction {property : SyntaxTree → Prop}
    (node : ∀ kind value children, (∀ child ∈ children, property child) →
      property ⟨kind, value, children⟩) (tree : SyntaxTree) : property tree :=
  SyntaxTree.rec (motive_1 := property) (motive_2 := fun trees => ∀ child ∈ trees, property child)
    node (by simp) (fun _ _ first others => by simpa using ⟨first, others⟩) tree

def size : SyntaxTree → Nat :=
  fold fun _ _ sizes => 1 + sizes.foldr (· + ·) 0

/-- The number of nodes on the longest way down. -/
def depth : SyntaxTree → Nat :=
  fold fun _ _ depths => 1 + depths.foldr max 0

/-- The number of nodes whose kind satisfies a condition. -/
def count (holds : NodeKind → Bool) : SyntaxTree → Nat :=
  fold fun kind _ counts => (if holds kind then 1 else 0) + counts.foldr (· + ·) 0

/-- The greatest number of loops on a way down. -/
def loopNesting : SyntaxTree → Nat :=
  fold fun kind _ nestings => (if kind.isLoop then 1 else 0) + nestings.foldr max 0

def indentation (level : Nat) : String :=
  String.ofList (List.replicate (2 * level) ' ')

/-- A line for each node, a node before its children, indented by its level. -/
def linesAt (tree : SyntaxTree) : (level : Nat) → List String :=
  tree.fold fun kind value below level =>
    (indentation level ++ labelOf kind value) :: below.flatMap (· (level + 1))

def outline (tree : SyntaxTree) : String :=
  String.join ((tree.linesAt 0).map (· ++ "\n"))

theorem size_node (kind : NodeKind) (value : Option String) (children : List SyntaxTree) :
    size ⟨kind, value, children⟩ = 1 + (children.map size).foldr (· + ·) 0 :=
  fold_node ..

theorem size_pos (tree : SyntaxTree) : 0 < tree.size := by
  obtain ⟨kind, value, children⟩ := tree
  rw [size_node]
  omega

theorem depth_node (kind : NodeKind) (value : Option String) (children : List SyntaxTree) :
    depth ⟨kind, value, children⟩ = 1 + (children.map depth).foldr max 0 :=
  fold_node ..

theorem count_node (holds : NodeKind → Bool) (kind : NodeKind) (value : Option String)
    (children : List SyntaxTree) :
    count holds ⟨kind, value, children⟩ =
      (if holds kind then 1 else 0) + (children.map (count holds)).foldr (· + ·) 0 :=
  fold_node ..

theorem loopNesting_node (kind : NodeKind) (value : Option String) (children : List SyntaxTree) :
    loopNesting ⟨kind, value, children⟩ =
      (if kind.isLoop then 1 else 0) + (children.map loopNesting).foldr max 0 :=
  fold_node ..

theorem linesAt_node (kind : NodeKind) (value : Option String) (children : List SyntaxTree)
    (level : Nat) :
    linesAt ⟨kind, value, children⟩ level =
      (indentation level ++ labelOf kind value) :: children.flatMap (·.linesAt (level + 1)) := by
  rw [linesAt, fold_node, List.flatMap_map]
  rfl

/-- The outline has a line for each node. -/
theorem length_linesAt (tree : SyntaxTree) (level : Nat) :
    (tree.linesAt level).length = tree.size := by
  induction tree using SyntaxTree.induction generalizing level with
  | node kind value children ih =>
    rw [linesAt_node, List.length_cons, List.length_flatMap, List.sum_eq_foldr, size_node,
      Nat.add_comm, List.map_congr_left fun child member => ih child member (level + 1)]

mutual

/-- A tree's nodes, each with all that is below it, a node before its children. -/
def preorder : SyntaxTree → List SyntaxTree
  | ⟨kind, value, children⟩ => ⟨kind, value, children⟩ :: preorderAll children

def preorderAll : List SyntaxTree → List SyntaxTree
  | [] => []
  | tree :: trees => tree.preorder ++ preorderAll trees

end

theorem preorderAll_eq_flatMap (trees : List SyntaxTree) :
    preorderAll trees = trees.flatMap preorder := by
  induction trees with
  | nil => rfl
  | cons tree trees ih => rw [preorderAll, ih, List.flatMap_cons]

theorem length_preorder (tree : SyntaxTree) : tree.preorder.length = tree.size := by
  induction tree using SyntaxTree.induction with
  | node kind value children ih =>
    rw [preorder, preorderAll_eq_flatMap, List.length_cons, List.length_flatMap, List.sum_eq_foldr,
      size_node, List.map_congr_left ih, Nat.add_comm]

end SyntaxTree

end SyntaxExplorer
