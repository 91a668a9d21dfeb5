import SyntaxExplorer.Proofs.Tree.Paths

namespace SyntaxExplorer

namespace NodeKind

def isDeclaration (kind : NodeKind) : Bool :=
  kind = functionDeclaration || kind = variableDeclaration

/-- Whether the child with an index stands where a statement may: anywhere in a program or a block, behind
the condition of an `if` or a `while`, and behind the three clauses of a `for`. -/
def holdsStatement (kind : NodeKind) (index : Nat) : Bool :=
  match kind with
  | program | block => true
  | ifStatement | whileStatement => 1 ≤ index
  | forStatement => 3 ≤ index
  | _ => false

end NodeKind

namespace SyntaxTree

/-- Whether the node at a path is announced. What stands at the root is a statement or not. -/
def isAnnounced (stated : Bool) : SyntaxTree → List Nat → Bool
  | tree, [] => stated || tree.kind.isDeclaration
  | tree, step :: path =>
    tree.children[step]?.any (isAnnounced (tree.kind.holdsStatement step) · path)

/-- The announced nodes in the order of the outline. -/
def announced (stated : Bool) (tree : SyntaxTree) : List SyntaxTree :=
  (tree.paths.filter (tree.isAnnounced stated)).filterMap tree.at?

/-- The announced nodes of children side by side, the first of which has some index. -/
def announcedBelow (kind : NodeKind) (first : Nat) : List SyntaxTree → List SyntaxTree
  | [] => []
  | child :: children =>
    child.announced (kind.holdsStatement first) ++ announcedBelow kind (first + 1) children

variable {tree child : SyntaxTree} {children : List SyntaxTree} {kind : NodeKind}
  {value : Option String} {stated : Bool}

theorem isAnnounced_cons {index : Nat} (here : children[index]? = some child) (path : List Nat) :
    isAnnounced stated ⟨kind, value, children⟩ (index :: path) =
      isAnnounced (kind.holdsStatement index) child path := by
  rw [isAnnounced, here, Option.any_some]

theorem at?_cons {index : Nat} (here : children[index]? = some child) (path : List Nat) :
    at? ⟨kind, value, children⟩ (index :: path) = child.at? path := by
  rw [at?, here, Option.bind_some]

/-- The paths through some of the children lead to the announced nodes of these. -/
theorem filterMap_pathsAll (before children : List SyntaxTree) :
    ((pathsAll before.length children).filter
        (isAnnounced stated ⟨kind, value, before ++ children⟩)).filterMap
      (at? ⟨kind, value, before ++ children⟩) = announcedBelow kind before.length children := by
  induction children generalizing before with
  | nil => rfl
  | cons child children ih =>
    have here : (before ++ child :: children)[before.length]? = some child := by
      rw [List.getElem?_append_right (Nat.le_refl _), Nat.sub_self]
      rfl
    have through :
        isAnnounced stated ⟨kind, value, before ++ child :: children⟩ ∘ (before.length :: ·) =
          isAnnounced (kind.holdsStatement before.length) child := funext (isAnnounced_cons here)
    have reached : at? ⟨kind, value, before ++ child :: children⟩ ∘ (before.length :: ·) = child.at? :=
      funext (at?_cons here)
    have later := ih (before ++ [child])
    rw [List.append_assoc, List.singleton_append, List.length_append, List.length_singleton] at later
    rw [pathsAll, List.filter_append, List.filterMap_append, later, List.filter_map, List.filterMap_map,
      through, reached, announcedBelow, announced]

/-- A node is announced before what is announced below it. -/
theorem announced_node :
    announced stated ⟨kind, value, children⟩ =
      (if stated || kind.isDeclaration then [⟨kind, value, children⟩] else []) ++
        announcedBelow kind 0 children := by
  have below := @filterMap_pathsAll kind value stated [] children
  rw [List.nil_append, List.length_nil] at below
  have root : isAnnounced stated ⟨kind, value, children⟩ [] = (stated || kind.isDeclaration) := rfl
  have found : at? ⟨kind, value, children⟩ [] = some ⟨kind, value, children⟩ := rfl
  rw [announced, paths, List.filter_cons, root]
  by_cases here : (stated || kind.isDeclaration) = true
  · rw [if_pos here, if_pos here, List.filterMap_cons, found, below, List.singleton_append]
  · rw [if_neg here, if_neg here, below, List.nil_append]

/-- What stands where a statement may is announced itself. -/
theorem announced_statement (tree : SyntaxTree) :
    tree.announced true = tree :: announcedBelow tree.kind 0 tree.children := by
  obtain ⟨kind, value, children⟩ := tree
  rw [announced_node, Bool.true_or, if_pos rfl, List.singleton_append]

/-- A declaration is announced itself wherever it stands. -/
theorem announced_declaration (declares : tree.kind.isDeclaration = true) :
    tree.announced stated = tree :: announcedBelow tree.kind 0 tree.children := by
  obtain ⟨kind, value, children⟩ := tree
  rw [announced_node, declares, Bool.or_true, if_pos rfl, List.singleton_append]

/-- What is neither a declaration nor a statement is not. -/
theorem announced_other (other : tree.kind.isDeclaration = false) :
    tree.announced false = announcedBelow tree.kind 0 tree.children := by
  obtain ⟨kind, value, children⟩ := tree
  rw [announced_node, Bool.false_or, if_neg (by rw [other]; exact Bool.false_ne_true), List.nil_append]

/-- Where every child is a statement the announced nodes are those of each in turn. -/
theorem announcedBelow_of_statements (statements : ∀ index, kind.holdsStatement index = true)
    (first : Nat) (children : List SyntaxTree) :
    announcedBelow kind first children = children.flatMap (announced true) := by
  induction children generalizing first with
  | nil => rfl
  | cons child children ih => rw [announcedBelow, statements, ih, List.flatMap_cons]

/-- Where no child is a statement and nothing is announced of any, there is nothing to announce. -/
theorem announcedBelow_eq_nil (silent : ∀ child ∈ children, announced false child = [])
    (expressions : ∀ index, kind.holdsStatement index = false) (first : Nat) :
    announcedBelow kind first children = [] := by
  induction children generalizing first with
  | nil => rfl
  | cons child children ih =>
    obtain ⟨here, later⟩ := List.forall_mem_cons.mp silent
    rw [announcedBelow, expressions, here, ih later, List.append_nil]

/-- A node of another kind says nothing where its children say nothing. -/
theorem announced_of_silent (other : tree.kind.isDeclaration = false)
    (expressions : ∀ index, tree.kind.holdsStatement index = false)
    (silent : ∀ child ∈ tree.children, child.announced false = []) : tree.announced false = [] := by
  rw [announced_other other]
  exact announcedBelow_eq_nil silent expressions 0

end SyntaxTree

end SyntaxExplorer
