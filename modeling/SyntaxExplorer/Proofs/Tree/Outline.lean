import Mathlib.Data.List.Nodup
import SyntaxExplorer.Tree.Basic

namespace SyntaxExplorer

namespace NodeKind

/-- The characters of a name are not those that set it off from what stands around it. -/
theorem name_letters (kind : NodeKind) : ∀ c ∈ kind.name.toList, c ∉ [' ', ':', '\n'] := by
  have apart : kind.name.toList.all (fun c => !List.contains [' ', ':', '\n'] c) = true := by
    cases kind <;> rfl
  intro c member
  simpa using List.all_eq_true.mp apart c member

theorem name_ne_nil (kind : NodeKind) : kind.name.toList ≠ [] := by
  cases kind <;> decide

theorem name_injective {one two : NodeKind} (same : one.name = two.name) : one = two := by
  have apart : (all.map name).Nodup := by decide
  exact List.inj_on_of_nodup_map apart (mem_all one) (mem_all two) same

end NodeKind

namespace SyntaxTree

open NodeKind

/-- What a line of the outline tells of a node. -/
structure Entry where
  level : Nat
  kind : NodeKind
  value : Option String
  deriving DecidableEq

namespace Entry

variable {one two : Entry}

def line (entry : Entry) : String :=
  indentation entry.level ++ labelOf entry.kind entry.value

end Entry

mutual

/-- What the outline tells of each node of a tree whose root is on some level. -/
def entries (level : Nat) : SyntaxTree → List Entry
  | ⟨kind, value, children⟩ => ⟨level, kind, value⟩ :: entriesAll (level + 1) children

def entriesAll (level : Nat) : List SyntaxTree → List Entry
  | [] => []
  | tree :: trees => entries level tree ++ entriesAll level trees

end

/-- All values of the tree's nodes are such. -/
def HasValues (holds : String → Prop) (tree : SyntaxTree) : Prop :=
  ∀ node ∈ tree.preorder, ∀ text, node.value = some text → holds text

/-- No value has a line feed in it, so that each node has one line in the outline. -/
def IsLinear (tree : SyntaxTree) : Prop :=
  tree.HasValues fun text => '\n' ∉ text.toList

theorem hasValues_node {holds : String → Prop} {kind : NodeKind} {value : Option String}
    {children : List SyntaxTree} :
    HasValues holds ⟨kind, value, children⟩ ↔
      (∀ text, value = some text → holds text) ∧ ∀ child ∈ children, child.HasValues holds := by
  simp only [HasValues, preorder, preorderAll_eq_flatMap, List.forall_mem_cons, List.mem_flatMap]
  constructor
  · rintro ⟨own, below⟩
    exact ⟨own, fun child member node here => below node ⟨child, member, here⟩⟩
  · rintro ⟨own, below⟩
    refine ⟨own, fun node within => ?_⟩
    obtain ⟨child, member, here⟩ := within
    exact below child member node here

section Lines

/-- The blanks at the start of a line are as many as they seem if no blank follows them. -/
theorem replicate_append_inj {m n : Nat} {front back : List Char} (noBlank : front.head? ≠ some ' ')
    (noBlankToo : back.head? ≠ some ' ')
    (same : List.replicate m ' ' ++ front = List.replicate n ' ' ++ back) : m = n ∧ front = back := by
  induction m generalizing n with
  | zero =>
    cases n with
    | zero => exact ⟨rfl, same⟩
    | succ n => exact absurd (congrArg List.head? same) noBlank
  | succ m ih =>
    cases n with
    | zero => exact absurd (congrArg List.head? same).symm noBlankToo
    | succ n =>
      obtain ⟨count, rest⟩ := ih (List.cons.inj same).2
      exact ⟨congrArg (· + 1) count, rest⟩

/-- A character that stands in neither text ends both at the same place. -/
theorem append_cons_inj {c : Char} {front back one two : List Char} (free : c ∉ front)
    (freeToo : c ∉ back) (same : front ++ c :: one = back ++ c :: two) : front = back ∧ one = two := by
  rcases List.append_eq_append_iff.mp same with ⟨more, rfl, rest⟩ | ⟨more, rfl, rest⟩
  · cases more with
    | nil => exact ⟨(List.append_nil front).symm, (List.cons.inj rest).2⟩
    | cons d more =>
      obtain ⟨rfl, -⟩ := List.cons.inj rest
      exact absurd (List.mem_append_right front List.mem_cons_self) freeToo
  · cases more with
    | nil => exact ⟨List.append_nil back, (List.cons.inj rest).2.symm⟩
    | cons d more =>
      obtain ⟨rfl, -⟩ := List.cons.inj rest
      exact absurd (List.mem_append_right back List.mem_cons_self) free

theorem toList_labelOf_some (kind : NodeKind) (text : String) :
    (labelOf kind (some text)).toList = kind.name.toList ++ ':' :: ' ' :: text.toList := by
  simp [labelOf]

/-- A colon is behind the kind if there is a value, even an empty one, and nowhere before it. -/
theorem labelOf_injective {one two : NodeKind} {first second : Option String}
    (same : labelOf one first = labelOf two second) : one = two ∧ first = second := by
  have noColon (kind : NodeKind) : ':' ∉ kind.name.toList := by
    intro member
    exact kind.name_letters ':' member (by decide)
  cases first with
  | none =>
    cases second with
    | none => exact ⟨name_injective same, rfl⟩
    | some text =>
      have whole : one.name.toList = two.name.toList ++ ':' :: ' ' :: text.toList := by
        rw [← toList_labelOf_some, ← same]
        rfl
      have colon : ':' ∈ one.name.toList := by simp [whole]
      exact absurd colon (noColon one)
  | some text =>
    cases second with
    | none =>
      have whole : two.name.toList = one.name.toList ++ ':' :: ' ' :: text.toList := by
        rw [← toList_labelOf_some, same]
        rfl
      have colon : ':' ∈ two.name.toList := by simp [whole]
      exact absurd colon (noColon two)
    | some other =>
      have whole := congrArg String.toList same
      rw [toList_labelOf_some, toList_labelOf_some] at whole
      obtain ⟨names, texts⟩ := append_cons_inj (noColon one) (noColon two) whole
      rw [name_injective (String.toList_inj.mp names), String.toList_inj.mp (List.cons.inj texts).2]
      exact ⟨rfl, rfl⟩

theorem head?_labelOf (kind : NodeKind) (value : Option String) :
    (labelOf kind value).toList.head? = kind.name.toList.head? := by
  cases value with
  | none => rfl
  | some text => rw [toList_labelOf_some, List.head?_append_of_ne_nil _ kind.name_ne_nil]

theorem Entry.line_injective {one two : Entry} (same : one.line = two.line) : one = two := by
  obtain ⟨level, kind, value⟩ := one
  obtain ⟨depth, other, text⟩ := two
  have noBlank (kind : NodeKind) (value : Option String) :
      (labelOf kind value).toList.head? ≠ some ' ' := by
    rw [head?_labelOf]
    intro blank
    exact kind.name_letters ' ' (List.mem_of_head? blank) (by decide)
  have whole := congrArg String.toList same
  simp only [line, indentation, String.toList_append, String.toList_ofList] at whole
  obtain ⟨count, labels⟩ := replicate_append_inj (noBlank kind value) (noBlank other text) whole
  obtain ⟨rfl, rfl⟩ := labelOf_injective (String.toList_inj.mp labels)
  obtain rfl : level = depth := by omega
  rfl

/-- Line feeds behind the lines tell them apart, if there are none within. -/
theorem join_lines_injective {lines others : List String}
    (whole : ∀ line ∈ lines, '\n' ∉ line.toList) (wholeToo : ∀ line ∈ others, '\n' ∉ line.toList)
    (same : String.join (lines.map (· ++ "\n")) = String.join (others.map (· ++ "\n"))) :
    lines = others := by
  have text (line : String) (lines : List String) :
      (String.join ((line :: lines).map (· ++ "\n"))).toList =
        line.toList ++ '\n' :: (String.join (lines.map (· ++ "\n"))).toList := by
    simp [String.join_cons]
  have empty : (String.join (([] : List String).map (· ++ "\n"))).toList = [] := rfl
  induction lines generalizing others with
  | nil =>
    cases others with
    | nil => rfl
    | cons other others =>
      have characters := congrArg String.toList same
      rw [empty, text] at characters
      simp at characters
  | cons line lines ih =>
    cases others with
    | nil =>
      have characters := congrArg String.toList same
      rw [empty, text] at characters
      simp at characters
    | cons other others =>
      obtain ⟨first, later⟩ := List.forall_mem_cons.mp whole
      obtain ⟨firstToo, laterToo⟩ := List.forall_mem_cons.mp wholeToo
      have characters := congrArg String.toList same
      rw [text, text] at characters
      obtain ⟨front, back⟩ := append_cons_inj first firstToo characters
      rw [String.toList_inj.mp front, ih later laterToo (String.toList_inj.mp back)]

end Lines

section Entries

variable {level : Nat} {rest : List Entry}

theorem entriesAll_eq_flatMap (level : Nat) (trees : List SyntaxTree) :
    entriesAll level trees = trees.flatMap (entries level) := by
  induction trees with
  | nil => rfl
  | cons tree trees ih => rw [entriesAll, ih, List.flatMap_cons]

theorem linesAt_eq_map (tree : SyntaxTree) (level : Nat) :
    tree.linesAt level = (tree.entries level).map Entry.line := by
  induction tree using SyntaxTree.induction generalizing level with
  | node kind value children ih =>
    have below : children.flatMap (·.linesAt (level + 1)) =
        (entriesAll (level + 1) children).map Entry.line := by
      rw [entriesAll_eq_flatMap, List.map_flatMap]
      exact List.flatMap_congr fun child member => ih child member (level + 1)
    rw [linesAt_node, entries, below, List.map_cons]
    rfl

/-- The entries are those of the nodes. -/
theorem map_entries (tree : SyntaxTree) (level : Nat) :
    (tree.entries level).map (fun entry => (entry.kind, entry.value)) =
      tree.preorder.map fun node => (node.kind, node.value) := by
  induction tree using SyntaxTree.induction generalizing level with
  | node kind value children ih =>
    rw [entries, preorder, preorderAll_eq_flatMap, entriesAll_eq_flatMap, List.map_cons,
      List.map_cons, List.map_flatMap, List.map_flatMap]
    exact congrArg _ (List.flatMap_congr fun child member => ih child member (level + 1))

theorem head?_entries (level : Nat) (tree : SyntaxTree) :
    (tree.entries level).head? = some ⟨level, tree.kind, tree.value⟩ := by
  obtain ⟨kind, value, children⟩ := tree
  rfl

/-- Behind a tree on some level there is another on that level, or an end above it. -/
theorem level_le_of_head? (ends : ∀ entry ∈ rest.head?, entry.level < level)
    (trees : List SyntaxTree) :
    ∀ entry ∈ (entriesAll level trees ++ rest).head?, entry.level ≤ level := by
  intro entry first
  cases trees with
  | nil => exact Nat.le_of_lt (ends entry first)
  | cons tree trees =>
    rw [entriesAll, List.append_assoc, List.head?_append, head?_entries] at first
    obtain rfl := Option.some.inj first
    exact Nat.le_refl _

theorem level_of_head? (level : Nat) (tree : SyntaxTree) (trees : List SyntaxTree)
    (more : List Entry) :
    ∃ entry ∈ (entriesAll level (tree :: trees) ++ more).head?, entry.level = level := by
  rw [entriesAll, List.append_assoc, List.head?_append, head?_entries]
  exact ⟨_, rfl, rfl⟩

mutual

/-- A tree ends before the first entry that lies no deeper than its root. -/
theorem entries_append_inj (level : Nat) {rest others : List Entry} (tree other : SyntaxTree)
    (ends : ∀ entry ∈ rest.head?, entry.level ≤ level)
    (endsToo : ∀ entry ∈ others.head?, entry.level ≤ level)
    (same : tree.entries level ++ rest = other.entries level ++ others) :
    tree = other ∧ rest = others := by
  obtain ⟨kind, value, children⟩ := tree
  obtain ⟨otherKind, otherValue, otherChildren⟩ := other
  obtain ⟨root, below⟩ := List.cons.inj same
  obtain ⟨-, rfl, rfl⟩ := Entry.mk.inj root
  obtain ⟨rfl, behind⟩ := entriesAll_append_inj (level + 1) children otherChildren
    (fun entry first => Nat.lt_succ_of_le (ends entry first))
    (fun entry first => Nat.lt_succ_of_le (endsToo entry first)) below
  exact ⟨rfl, behind⟩

theorem entriesAll_append_inj (level : Nat) {rest others : List Entry} (trees more : List SyntaxTree)
    (ends : ∀ entry ∈ rest.head?, entry.level < level)
    (endsToo : ∀ entry ∈ others.head?, entry.level < level)
    (same : entriesAll level trees ++ rest = entriesAll level more ++ others) :
    trees = more ∧ rest = others := by
  cases trees with
  | nil =>
    cases more with
    | nil => exact ⟨rfl, same⟩
    | cons other more =>
      obtain ⟨entry, first, here⟩ := level_of_head? level other more others
      rw [← same] at first
      have above := ends entry first
      omega
  | cons tree trees =>
    cases more with
    | nil =>
      obtain ⟨entry, first, here⟩ := level_of_head? level tree trees rest
      rw [same] at first
      have above := endsToo entry first
      omega
    | cons other more =>
      rw [entriesAll, entriesAll, List.append_assoc, List.append_assoc] at same
      obtain ⟨rfl, later⟩ := entries_append_inj level tree other (level_le_of_head? ends trees)
        (level_le_of_head? endsToo more) same
      obtain ⟨rfl, behind⟩ := entriesAll_append_inj level trees more ends endsToo later
      exact ⟨rfl, behind⟩

end

end Entries

section Depth

theorem foldr_max_append (front back : List Nat) :
    (front ++ back).foldr max 0 = max (front.foldr max 0) (back.foldr max 0) := by
  calc (front ++ back).foldr max 0
      = front.foldr max (max 0 (back.foldr max 0)) := by rw [List.foldr_append, Nat.zero_max]
    _ = max (front.foldr max 0) (back.foldr max 0) := List.foldr_assoc

mutual

/-- The deepest node lies as many levels below the root as the tree is deep, but for the root itself. -/
theorem foldr_max_entries (level : Nat) (tree : SyntaxTree) :
    1 + ((tree.entries level).map Entry.level).foldr max 0 = level + tree.depth := by
  obtain ⟨kind, value, children⟩ := tree
  have below := foldr_max_entriesAll level children
  rw [entries, List.map_cons, List.foldr_cons, below, depth_node]
  omega

/-- The level above the trees is counted in, for it is the deepest if there is no tree. -/
theorem foldr_max_entriesAll (level : Nat) (trees : List SyntaxTree) :
    max level (((entriesAll (level + 1) trees).map Entry.level).foldr max 0) =
      level + (trees.map depth).foldr max 0 := by
  cases trees with
  | nil => exact Nat.max_zero level
  | cons tree trees =>
    have first := foldr_max_entries (level + 1) tree
    have later := foldr_max_entriesAll level trees
    rw [entriesAll, List.map_append, foldr_max_append, List.map_cons, List.foldr_cons]
    omega

end

end Depth

theorem IsLinear.line {tree : SyntaxTree} (linear : tree.IsLinear) (level : Nat) :
    ∀ line ∈ tree.linesAt level, '\n' ∉ line.toList := by
  intro line member
  rw [linesAt_eq_map, List.mem_map] at member
  obtain ⟨⟨depth, kind, value⟩, told, rfl⟩ := member
  have label : (kind, value) ∈ tree.preorder.map fun node => (node.kind, node.value) := by
    rw [← map_entries tree level]
    exact List.mem_map_of_mem told
  obtain ⟨node, here, labelled⟩ := List.mem_map.mp label
  obtain ⟨-, rfl⟩ := Prod.mk.inj labelled
  have noFeed : '\n' ∉ kind.name.toList := by
    intro feed
    exact kind.name_letters '\n' feed (by decide)
  have blanks : '\n' ∉ List.replicate (2 * depth) ' ' := by
    intro feed
    cases List.eq_of_mem_replicate feed
  rw [Entry.line, indentation, String.toList_append, String.toList_ofList, List.mem_append]
  rintro (feed | feed)
  · exact blanks feed
  · cases text : node.value with
    | none =>
      rw [text] at feed
      exact noFeed feed
    | some text' =>
      rw [text, toList_labelOf_some] at feed
      have within := linear node here text' text
      simp [noFeed, within] at feed

/-- A tree can be read off its outline. -/
theorem outline_injective {one two : SyntaxTree} (linear : one.IsLinear) (linearToo : two.IsLinear)
    (same : one.outline = two.outline) : one = two := by
  have lines := join_lines_injective (linear.line 0) (linearToo.line 0) same
  rw [linesAt_eq_map, linesAt_eq_map] at lines
  have told : one.entries 0 = two.entries 0 :=
    List.map_injective_iff.mpr (fun _ _ => Entry.line_injective) lines
  have ends : ∀ entry ∈ ([] : List Entry).head?, entry.level ≤ 0 := by
    rintro _ ⟨⟩
  exact (entries_append_inj 0 one two ends ends (by rw [told])).1

end SyntaxTree

end SyntaxExplorer
