import SyntaxExplorer.Tree.Basic
import SyntaxExplorer.Proofs.Grammar.Derivation

namespace SyntaxExplorer.SyntaxTree

/-- A block is put under the function's declaration without a body that stands directly before it. -/
def attachAll : List SyntaxTree → List SyntaxTree
  | header :: body :: trees =>
    if header.isHeader && body.kind = .block then
      ⟨header.kind, header.value, header.children ++ [body]⟩ :: attachAll trees
    else header :: attachAll (body :: trees)
  | trees => trees

/-- The kinds of nodes below which declarations stand one after the other. -/
def isSequence (kind : NodeKind) : Bool :=
  kind = .program || kind = .block

/-- The tree with every block that has come loose under its function, at all levels. -/
def attached : SyntaxTree → SyntaxTree :=
  fold fun kind value children =>
    ⟨kind, value, if isSequence kind then attachAll children else children⟩

/-- The first tree behind a function's declaration without a body is a block. -/
def LosesBody (header : SyntaxTree) (trees : List SyntaxTree) : Prop :=
  header.isHeader = true ∧ ∃ body back, trees = body :: back ∧ body.kind = .block

/-- A block directly follows a function's declaration without a body. -/
def Detached (trees : List SyntaxTree) : Prop :=
  ∃ front header body back, trees = front ++ header :: body :: back ∧
    header.isHeader = true ∧ body.kind = .block

/-- Somewhere in the tree a block directly follows a function's declaration without a body. -/
def HasDetachedBody (tree : SyntaxTree) : Prop :=
  ∃ node ∈ tree.preorder, isSequence node.kind = true ∧ Detached node.children

theorem attached_node (kind : NodeKind) (value : Option String) (children : List SyntaxTree) :
    attached ⟨kind, value, children⟩ =
      ⟨kind, value,
        if isSequence kind then attachAll (children.map attached) else children.map attached⟩ :=
  fold_node ..

theorem attached_kind (tree : SyntaxTree) : tree.attached.kind = tree.kind := by
  obtain ⟨kind, value, children⟩ := tree
  rw [attached_node]

theorem attached_leaf (kind : NodeKind) (value : String) :
    attached (.leaf kind value) = .leaf kind value := by
  rw [leaf, attached_node]
  split <;> rfl

/-- Only sequences change their length, and no declaration or statement with parts is one. -/
theorem attached_of_not_sequence {kind : NodeKind} (other : isSequence kind = false)
    (value : Option String) (children : List SyntaxTree) :
    attached ⟨kind, value, children⟩ = ⟨kind, value, children.map attached⟩ := by
  rw [attached_node, other]
  rfl

theorem attached_block (value : Option String) (children : List SyntaxTree) :
    attached ⟨.block, value, children⟩ = ⟨.block, value, attachAll (children.map attached)⟩ :=
  attached_node ..

theorem attached_acceptsElse (tree : SyntaxTree) :
    tree.attached.acceptsElse = tree.acceptsElse := by
  induction tree using SyntaxTree.induction with
  | node kind value children ih =>
    by_cases sequence : isSequence kind = true
    · rw [acceptsElse_of_kind, acceptsElse_of_kind]
      all_goals
        rintro same
        simp only [attached_kind] at same
        subst same
        cases sequence
    · rw [attached_of_not_sequence (by simpa using sequence), acceptsElse, fold_node, fold_node,
        List.map_map]
      have below : children.map (acceptsElse ∘ attached) = children.map acceptsElse :=
        List.map_congr_left ih
      rw [acceptsElse] at below
      rw [below]

theorem detached_cons {first : SyntaxTree} {trees : List SyntaxTree} :
    Detached (first :: trees) ↔ LosesBody first trees ∨ Detached trees := by
  constructor
  · rintro ⟨front, header, body, back, split, bare, block⟩
    cases front with
    | nil =>
      obtain ⟨rfl, rfl⟩ := List.cons.inj split
      exact Or.inl ⟨bare, body, back, rfl, block⟩
    | cons _ front =>
      obtain ⟨rfl, rfl⟩ := List.cons.inj split
      exact Or.inr ⟨front, header, body, back, rfl, bare, block⟩
  · rintro (⟨bare, body, back, rfl, block⟩ | ⟨front, header, body, back, rfl, bare, block⟩)
    · exact ⟨[], first, body, back, rfl, bare, block⟩
    · exact ⟨first :: front, header, body, back, rfl, bare, block⟩

theorem attachAll_of_loose {header body : SyntaxTree} (bare : header.isHeader = true)
    (block : body.kind = .block) (trees : List SyntaxTree) :
    attachAll (header :: body :: trees) =
      ⟨header.kind, header.value, header.children ++ [body]⟩ :: attachAll trees := by
  rw [attachAll, if_pos (by simp [bare, block])]

theorem attachAll_of_apart {first : SyntaxTree} {trees : List SyntaxTree}
    (apart : ¬ LosesBody first trees) : attachAll (first :: trees) = first :: attachAll trees := by
  cases trees with
  | nil => rfl
  | cons body back =>
    rw [attachAll, if_neg]
    intro loose
    simp only [Bool.and_eq_true, decide_eq_true_eq] at loose
    exact apart ⟨loose.1, body, back, rfl, loose.2⟩

/-- A function's declaration stays one when it gets its body. -/
theorem kind_of_attachAll_cons {trees back : List SyntaxTree} {body : SyntaxTree}
    (split : attachAll trees = body :: back) :
    ∃ first later, trees = first :: later ∧ first.kind = body.kind := by
  cases trees with
  | nil => cases split
  | cons first later =>
    refine ⟨first, later, rfl, ?_⟩
    by_cases loose : LosesBody first later
    · obtain ⟨bare, block, back, rfl, blockKind⟩ := loose
      rw [attachAll_of_loose bare blockKind] at split
      rw [← (List.cons.inj split).1]
    · rw [attachAll_of_apart loose] at split
      rw [← (List.cons.inj split).1]

theorem attachAll_of_not_detached {trees : List SyntaxTree} (whole : ¬ Detached trees) :
    attachAll trees = trees := by
  induction trees with
  | nil => rfl
  | cons first trees ih =>
    rw [attachAll_of_apart fun loose => whole (detached_cons.mpr (Or.inl loose)),
      ih fun later => whole (detached_cons.mpr (Or.inr later))]

theorem length_attachAll_le (trees : List SyntaxTree) :
    (attachAll trees).length ≤ trees.length := by
  fun_induction attachAll trees with
  | case1 header body trees _ ih => simp only [List.length_cons]; omega
  | case2 header body trees _ ih => simpa using ih
  | case3 => exact Nat.le_refl _

/-- Every block that is put under its function leaves the sequence shorter. -/
theorem length_attachAll_lt {trees : List SyntaxTree} (loose : Detached trees) :
    (attachAll trees).length < trees.length := by
  induction trees with
  | nil =>
    obtain ⟨front, header, body, back, split, -⟩ := loose
    simp at split
  | cons first trees ih =>
    by_cases here : LosesBody first trees
    · obtain ⟨bare, body, back, rfl, block⟩ := here
      have le := length_attachAll_le back
      rw [attachAll_of_loose bare block]
      simp only [List.length_cons]
      omega
    · have later : Detached trees := (detached_cons.mp loose).resolve_left here
      have lt := ih later
      rw [attachAll_of_apart here]
      simp only [List.length_cons]
      omega

theorem mem_preorder_node {node : SyntaxTree} {kind : NodeKind} {value : Option String}
    {children : List SyntaxTree} :
    node ∈ preorder ⟨kind, value, children⟩ ↔
      node = ⟨kind, value, children⟩ ∨ ∃ child ∈ children, node ∈ child.preorder := by
  rw [preorder, preorderAll_eq_flatMap, List.mem_cons, List.mem_flatMap]

theorem hasDetachedBody_node {kind : NodeKind} {value : Option String}
    {children : List SyntaxTree} :
    HasDetachedBody ⟨kind, value, children⟩ ↔
      (isSequence kind = true ∧ Detached children) ∨ ∃ child ∈ children, HasDetachedBody child := by
  constructor
  · rintro ⟨node, member, sequence, loose⟩
    rcases mem_preorder_node.mp member with rfl | ⟨child, below, member⟩
    · exact Or.inl ⟨sequence, loose⟩
    · exact Or.inr ⟨child, below, node, member, sequence, loose⟩
  · rintro (⟨sequence, loose⟩ | ⟨child, below, node, member, sequence, loose⟩)
    · exact ⟨_, mem_preorder_node.mpr (Or.inl rfl), sequence, loose⟩
    · exact ⟨node, mem_preorder_node.mpr (Or.inr ⟨child, below, member⟩), sequence, loose⟩

/-- Nothing changes exactly if no body has come loose. -/
theorem attached_eq_self_iff (tree : SyntaxTree) :
    tree.attached = tree ↔ ¬ tree.HasDetachedBody := by
  induction tree using SyntaxTree.induction with
  | node kind value children ih =>
    have below : children.map attached = children ↔ ∀ child ∈ children, ¬ HasDetachedBody child := by
      have fixed : children.map attached = children.map id ↔
          ∀ child ∈ children, attached child = id child := List.map_inj_left
      rw [List.map_id] at fixed
      rw [fixed]
      exact ⟨fun same child member => (ih child member).mp (same child member),
        fun whole child member => (ih child member).mpr (whole child member)⟩
    rw [hasDetachedBody_node]
    by_cases sequence : isSequence kind = true
    · rw [attached_node, if_pos sequence, node.injEq]
      constructor
      · rintro ⟨-, -, same⟩
        -- A sequence that gets shorter is not the same.
        have whole : ¬ Detached (children.map attached) := by
          intro loose
          have shorter := length_attachAll_lt loose
          rw [same, List.length_map] at shorter
          exact Nat.lt_irrefl _ shorter
        rw [attachAll_of_not_detached whole] at same
        rintro (⟨-, loose⟩ | ⟨child, member, loose⟩)
        · exact whole (by rwa [same])
        · exact below.mp same child member loose
      · intro whole
        have same := below.mpr fun child member loose => whole (Or.inr ⟨child, member, loose⟩)
        rw [same, attachAll_of_not_detached fun loose => whole (Or.inl ⟨sequence, loose⟩)]
        exact ⟨rfl, rfl, rfl⟩
    · rw [attached_of_not_sequence (by simpa using sequence), node.injEq, below]
      simp [sequence]

end SyntaxExplorer.SyntaxTree
