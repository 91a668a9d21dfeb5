import SyntaxExplorer.Proofs.Grammar.Parsing
import SyntaxExplorer.Proofs.Grammar.Skimming
import SyntaxExplorer.Proofs.Grammar.Trees
import SyntaxExplorer.Report
import SyntaxExplorer.Tree.Basic

namespace SyntaxExplorer

namespace SyntaxTree

/-- The kinds and values of all nodes, a node before its children. -/
def labels (tree : SyntaxTree) : List (NodeKind × Option String) :=
  tree.preorder.map fun node => (node.kind, node.value)

theorem labels_node (kind : NodeKind) (value : Option String) (children : List SyntaxTree) :
    labels ⟨kind, value, children⟩ = (kind, value) :: children.flatMap labels := by
  rw [labels, preorder, preorderAll_eq_flatMap, List.map_cons, List.map_flatMap]
  rfl

theorem labels_leaf (kind : NodeKind) (value : String) :
    labels (.leaf kind value) = [(kind, some value)] :=
  labels_node ..

theorem countP_labels (holds : NodeKind → Bool) (tree : SyntaxTree) :
    tree.labels.countP (holds ·.1) = tree.count holds := by
  induction tree using SyntaxTree.induction with
  | node kind value children ih =>
    have below : children.map (List.countP (holds ·.1) ∘ labels) = children.map (count holds) :=
      List.map_congr_left ih
    rw [labels_node, List.countP_cons, List.countP_flatMap, below, count_node, List.sum_eq_foldr,
      Nat.add_comm]

theorem count_or {one two : NodeKind} (apart : one ≠ two) (tree : SyntaxTree) :
    tree.count (fun kind => kind = one || kind = two) =
      tree.count (· = one) + tree.count (· = two) := by
  simp only [← countP_labels]
  induction tree.labels with
  | nil => rfl
  | cons label labels ih =>
    simp only [List.countP_cons, ih, Bool.or_eq_true, decide_eq_true_eq]
    by_cases first : label.1 = one
    · simp [first, apart, Nat.add_right_comm]
    · by_cases second : label.1 = two <;> simp [first, second, Nat.add_assoc, apart.symm]

/-- The kinds of nodes whose values are names or numbers of the program. -/
def isNamed (kind : NodeKind) : Bool :=
  kind ∈ [.functionDeclaration, .variableDeclaration, .assignment, .identifier, .literal]

end SyntaxTree

namespace Grammar

open Rule SyntaxTree

/-- What is counted in lexemes and in nodes alike. -/
inductive Item
  | branch
  | loop
  | return
  | type
  | equals
  | otherOperator
  | brace
  | unused

namespace Item

def isLexeme : Item → Lexeme → Bool
  | branch, lexeme => lexeme = keyword "if"
  | loop, lexeme => lexeme = keyword "while" || lexeme = keyword "for"
  | .return, lexeme => lexeme = keyword "return"
  | type, lexeme => isKeywordIn typeNames lexeme
  | equals, lexeme => lexeme = operator "="
  | otherOperator, lexeme => lexeme.kind = .operator && lexeme ≠ operator "="
  | brace, lexeme => lexeme = mark "\x7b"
  | unused, lexeme => lexeme ∈ [keyword "printf", operator "++", operator "--", mark "[", mark "]",
      mark ","]

def isNode : Item → NodeKind → Bool
  | branch, kind => kind = .ifStatement
  | loop, kind => kind.isLoop
  | .return, kind => kind = .returnStatement
  | type, kind => kind = .functionDeclaration || kind = .variableDeclaration
  | equals, kind => kind = .assignment || kind = .initialization
  | otherOperator, kind => kind = .binary || kind = .unary
  | brace, kind => kind = .block
  | unused, _ => false

end Item

def isName (lexeme : Lexeme) : Bool :=
  lexeme.kind = .identifier || lexeme.kind = .number

/-- The lexemes and the labels have the same names in the same order and the same items, and the
parameter lists left out are as many as the functions. -/
structure Tells (left : List Lexeme) (lists : Nat) (labels : List (NodeKind × Option String)) :
    Prop where
  names : (left.filter isName).map (some ·.text) = (labels.filter (isNamed ·.1)).map (·.2)
  items : ∀ item : Item, left.countP item.isLexeme = labels.countP (item.isNode ·.1)
  lists : lists = labels.countP (·.1 = .functionDeclaration)

namespace Tells

theorem append {left lefts : List Lexeme} {lists more : Nat}
    {labels others : List (NodeKind × Option String)} (first : Tells left lists labels)
    (second : Tells lefts more others) :
    Tells (left ++ lefts) (lists + more) (labels ++ others) where
  names := by
    rw [List.filter_append, List.map_append, List.filter_append, List.map_append, first.names,
      second.names]
  items item := by rw [List.countP_append, List.countP_append, first.items, second.items]
  lists := by rw [List.countP_append, first.lists, second.lists]

/-- A lexeme that is no name may stand in the middle of what its node holds. -/
theorem between {lexeme : Lexeme} {kind : NodeKind} {value : Option String}
    {left lefts : List Lexeme} {lists more : Nat} {labels others : List (NodeKind × Option String)}
    (own : Tells [lexeme] 0 [(kind, value)]) (nameless : isName lexeme = false)
    (first : Tells left lists labels) (second : Tells lefts more others) :
    Tells (left ++ lexeme :: lefts) (lists + more) ((kind, value) :: (labels ++ others)) := by
  have whole := own.append (first.append second)
  rw [Nat.zero_add] at whole
  constructor
  · rw [← List.singleton_append (l := labels ++ others), ← whole.names]
    simp [nameless]
  · intro item
    have same := whole.items item
    simp only [List.singleton_append, List.countP_append, List.countP_cons] at same ⊢
    omega
  · exact whole.lists

/-- The signs of operations are told apart from those of assignments and from those without use. -/
theorem sign {kind : NodeKind} {sign : String} (operates : kind = .binary ∨ kind = .unary)
    (other : sign ∉ ["=", "++", "--"]) : Tells [operator sign] 0 [(kind, some sign)] := by
  simp only [List.mem_cons, List.not_mem_nil, or_false, not_or] at other
  rcases operates with rfl | rfl
  all_goals
    refine ⟨rfl, fun item => ?_, rfl⟩
    cases item <;> simp [Item.isLexeme, Item.isNode, operator, keyword, mark, isKeywordIn,
      NodeKind.isLoop, other]

/-- A type and a name belong to a variable or to a function, and a function has a parameter list. -/
theorem typed {kind : NodeKind} {lists : Nat} {type name : String} (known : type ∈ typeNames)
    (declares : kind = .variableDeclaration ∧ lists = 0 ∨ kind = .functionDeclaration ∧ lists = 1) :
    Tells [keyword type, ⟨.identifier, name⟩] lists [(kind, some name), (.type, some type)] := by
  simp only [typeNames, List.mem_cons, List.not_mem_nil, or_false] at known
  rcases declares with ⟨rfl, rfl⟩ | ⟨rfl, rfl⟩
  all_goals
    refine ⟨rfl, fun item => ?_, rfl⟩
    rcases known with rfl | rfl | rfl | rfl | rfl <;> cases item <;> rfl

end Tells

/-- What is left of the word, scanned from outside to outside, tells the labels. -/
def Accounts (word : List Lexeme) (labels : List (NodeKind × Option String)) : Prop :=
  ∃ left lists, Skims .outside word left lists .outside ∧ Tells left lists labels

namespace Accounts

variable {word words : List Lexeme} {labels others : List (NodeKind × Option String)}
  {tree : SyntaxTree} {trees : List SyntaxTree}

theorem append (first : Accounts word labels) (second : Accounts words others) :
    Accounts (word ++ words) (labels ++ others) := by
  obtain ⟨left, lists, skims, tells⟩ := first
  obtain ⟨lefts, more, skims', tells'⟩ := second
  exact ⟨_, _, skims.append skims', tells.append tells'⟩

theorem comments (skipped : AllComments word) : Accounts word [] :=
  ⟨[], 0, .comments skipped, rfl, fun _ => rfl, rfl⟩

/-- An operator stands between its operands, and its node before them. -/
theorem between {kind : NodeKind} {sign : String} (own : Tells [operator sign] 0 [(kind, some sign)])
    (first : Accounts word labels) (second : Accounts words others) :
    Accounts (word ++ operator sign :: words) ((kind, some sign) :: (labels ++ others)) := by
  obtain ⟨left, lists, skims, tells⟩ := first
  obtain ⟨lefts, more, skims', tells'⟩ := second
  exact ⟨_, _, skims.append (.kept rfl skims'), own.between rfl tells tells'⟩

/-- The lexemes that say nothing but what kind of node they open, if any. -/
def openers : List (Lexeme × List (NodeKind × Option String)) :=
  [(keyword "if", [(.ifStatement, none)]), (keyword "else", []),
    (keyword "while", [(.whileStatement, none)]), (keyword "for", [(.forStatement, none)]),
    (keyword "return", [(.returnStatement, none)]), (mark "\x7b", [(.block, none)]),
    (mark "\x7d", []), (mark "(", [(.grouping, none)]), (mark "(", []), (mark ")", []),
    (mark ";", [])]

theorem opener {lexeme : Lexeme} (known : (lexeme, labels) ∈ openers) :
    Accounts [lexeme] labels := by
  simp only [openers, List.mem_cons, Prod.mk.injEq, List.not_mem_nil, or_false] at known
  rcases known with ⟨rfl, rfl⟩ | ⟨rfl, rfl⟩ | ⟨rfl, rfl⟩ | ⟨rfl, rfl⟩ | ⟨rfl, rfl⟩ | ⟨rfl, rfl⟩ |
    ⟨rfl, rfl⟩ | ⟨rfl, rfl⟩ | ⟨rfl, rfl⟩ | ⟨rfl, rfl⟩ | ⟨rfl, rfl⟩
  all_goals exact ⟨_, 0, ⟨rfl, rfl, rfl⟩, rfl, fun item => by cases item <;> rfl, rfl⟩

/-- A node that only groups others stands for no lexeme. -/
theorem group {kind : NodeKind}
    (known : kind ∈ [NodeKind.program, .forInit, .forCondition, .forIncrement]) :
    Accounts [] [(kind, none)] := by
  simp only [List.mem_cons, List.not_mem_nil, or_false] at known
  rcases known with rfl | rfl | rfl | rfl
  all_goals exact ⟨_, 0, ⟨rfl, rfl, rfl⟩, rfl, fun item => by cases item <;> rfl, rfl⟩

end Accounts

theorem not_mem_of_mem_flatten {sign : String} (known : sign ∈ binaryOperators.flatten) :
    sign ∉ ["=", "++", "--"] := by
  revert sign
  decide

theorem IsExpression.accounts {binding : Binding} {word : List Lexeme} {tree : SyntaxTree}
    (derived : IsExpression binding word tree) (tail : binding.IsTail) :
    Accounts word tree.labels := by
  induction derived with
  | number | name =>
    rw [labels_leaf]
    exact ⟨_, 0, ⟨rfl, rfl, rfl⟩, rfl, fun item => by cases item <;> rfl, rfl⟩
  | @grouping word inner _ ih =>
    have opening : Accounts [mark "("] [(.grouping, none)] := .opener (by decide)
    have closing : Accounts [mark ")"] [] := .opener (by decide)
    simpa [labels_node] using (opening.append (ih trivial)).append closing
  | operand _ ih => exact ih trivial
  | @unary sign word inner known _ ih =>
    have other : sign ∉ ["=", "++", "--"] := by
      revert sign
      decide
    have own : Accounts [operator sign] [(.unary, some sign)] :=
      ⟨_, 0, .plain (by simp [operator, isKeywordIn]), .sign (.inr rfl) other⟩
    simpa [labels_node] using own.append (ih tail)
  | tighter _ ih => exact ih (List.IsSuffix.trans (List.suffix_cons ..) tail)
  | @binary operators levels sign _ _ left right known _ _ ihFirst ihSecond =>
    have within : operators ∈ binaryOperators := tail.mem (List.mem_cons_self ..)
    have other := not_mem_of_mem_flatten (List.mem_flatten_of_mem within known)
    have first := ihFirst tail
    have second := ihSecond (List.IsSuffix.trans (List.suffix_cons ..) tail)
    simpa [labels_node] using first.between (.sign (.inl rfl) other) second
  | operation _ ih => exact ih (List.suffix_refl _)
  | @assignment name word value _ ih =>
    have own : Accounts [⟨.identifier, name⟩, operator "="] [(.assignment, some name)] :=
      ⟨_, 0, ⟨rfl, rfl, rfl⟩, rfl, fun item => by cases item <;> rfl, rfl⟩
    simpa [labels_node] using own.append (ih trivial)

/-- A keyword and a condition in parentheses. -/
theorem accounts_asked (key : String) (kind : NodeKind) {condition : List Lexeme} {test : SyntaxTree}
    (known : (keyword key, [(kind, none)]) ∈ Accounts.openers)
    (asked : IsExpression .any condition test) :
    Accounts (keyword key :: mark "(" :: condition ++ [mark ")"]) ((kind, none) :: test.labels) := by
  have opening : Accounts [mark "("] [] := .opener (by decide)
  have closing : Accounts [mark ")"] [] := .opener (by decide)
  simpa using (((Accounts.opener known).append opening).append (asked.accounts trivial)).append closing

theorem IsOptional.accounts {word : List Lexeme} {trees : List SyntaxTree}
    (derived : IsOptional word trees) : Accounts word (trees.flatMap labels) := by
  cases derived with
  | absent => exact .comments .nil
  | present expression => simpa using expression.accounts trivial

/-- A variable's declaration needs the mark behind it, which is no parenthesis. -/
theorem IsVariable.accounts {types : List String} {word : List Lexeme} {tree : SyntaxTree}
    (derived : IsVariable types word tree) (typed : ∀ type ∈ types, type ∈ typeNames) :
    Accounts (word ++ [mark ";"]) tree.labels := by
  cases derived with
  | @plain type name known =>
    have tells : Tells [keyword type, ⟨.identifier, name⟩] 0 _ :=
      .typed (typed type known) (.inl ⟨rfl, rfl⟩)
    have ending : Tells [mark ";"] 0 [] := ⟨rfl, fun item => by cases item <;> rfl, rfl⟩
    have skims : Skims .behindName [mark ";"] [mark ";"] 0 .outside := ⟨rfl, rfl, rfl⟩
    refine ⟨_, 0, .typed (typed type known) skims, ?_⟩
    simpa [labels_node, labels_leaf] using tells.append ending
  | @initialized type name word value known source =>
    have tells : Tells [keyword type, ⟨.identifier, name⟩] 0 _ :=
      .typed (typed type known) (.inl ⟨rfl, rfl⟩)
    have equals : Tells [operator "="] 0 [(.initialization, none)] :=
      ⟨rfl, fun item => by cases item <;> rfl, rfl⟩
    have semicolon : Accounts [mark ";"] [] := .opener (by decide)
    obtain ⟨left, lists, skims, valueTells⟩ := (source.accounts trivial).append semicolon
    refine ⟨_, lists, .typed (typed type known) (.kept rfl skims), ?_⟩
    simpa [labels_node, labels_leaf] using (tells.append equals).append valueTells

theorem IsForInit.accounts {word : List Lexeme} {trees : List SyntaxTree}
    (derived : IsForInit word trees) : Accounts (word ++ [mark ";"]) (trees.flatMap labels) := by
  have semicolon : Accounts [mark ";"] [] := .opener (by decide)
  cases derived with
  | absent => exact semicolon
  | declared derived => simpa using derived.accounts (by decide)
  | expression start => simpa using (start.accounts trivial).append semicolon

/-- The parameter list of a function's head is left out, and counted for it. -/
theorem accounts_header {type : String} {parameters : List Lexeme} (name : String)
    (known : type ∈ typeNames) (matched : Balanced parameters) :
    Accounts (keyword type :: ⟨.identifier, name⟩ :: mark "(" :: parameters ++ [mark ")"])
      [(.functionDeclaration, some name), (.type, some type), (.parameters, none)] := by
  have tells : Tells [keyword type, ⟨.identifier, name⟩] 1 _ :=
    .typed known (.inr ⟨rfl, rfl⟩)
  have list : Tells [] 0 [(.parameters, none)] := ⟨rfl, fun item => by cases item <;> rfl, rfl⟩
  exact ⟨_, 1, .typed known (.parameters matched), tells.append list⟩

theorem IsPhrase.accounts {phrase : Phrase} {word : List Lexeme} {trees : List SyntaxTree}
    (derived : IsPhrase phrase word trees) : Accounts word (trees.flatMap labels) := by
  have opening : Accounts [mark "("] [] := .opener (by decide)
  have closing : Accounts [mark ")"] [] := .opener (by decide)
  have semicolon : Accounts [mark ";"] [] := .opener (by decide)
  have brace : Accounts [mark "\x7b"] [(.block, none)] := .opener (by decide)
  have braces : Accounts [mark "\x7d"] [] := .opener (by decide)
  induction derived with
  | finish skipped => exact .comments skipped
  | next skipped _ _ _ ihFirst ihOthers =>
    simpa using ((Accounts.comments skipped).append ihFirst).append ihOthers
  | header known matched => simpa [labels_node, labels_leaf] using accounts_header _ known matched
  | @function type name parameters _ _ known matched _ ih =>
    have header := accounts_header name known matched
    simpa [labels_node, labels_leaf] using ((header.append brace).append ih).append braces
  | declared derived => simpa using derived.accounts fun _ known => known
  | plain _ ih => exact ih
  | body skipped _ ih => simpa using (Accounts.comments skipped).append ih
  | ifThen asked _ ih =>
    have head := accounts_asked "if" .ifStatement (by decide) asked
    simpa [labels_node] using head.append ih
  | ifElse asked _ _ _ ih ihOther =>
    have head := accounts_asked "if" .ifStatement (by decide) asked
    have other : Accounts [keyword "else"] [] := .opener (by decide)
    simpa [labels_node] using ((head.append ih).append other).append ihOther
  | whileLoop asked _ ih =>
    have head := accounts_asked "while" .whileStatement (by decide) asked
    simpa [labels_node] using head.append ih
  | forLoop begins asked stepped _ ih =>
    have own : Accounts [keyword "for"] [(.forStatement, none)] := .opener (by decide)
    have init : Accounts [] [(.forInit, none)] := .group (by decide)
    have test : Accounts [] [(.forCondition, none)] := .group (by decide)
    have increment : Accounts [] [(.forIncrement, none)] := .group (by decide)
    have first := init.append begins.accounts
    have second := (test.append asked.accounts).append semicolon
    have third := (increment.append stepped.accounts).append closing
    have header := (((own.append opening).append first).append second).append third
    simpa [labels_node] using header.append ih
  | returning returned =>
    have own : Accounts [keyword "return"] [(.returnStatement, none)] := .opener (by decide)
    simpa [labels_node] using (own.append returned.accounts).append semicolon
  | block _ ih => simpa [labels_node] using (brace.append ih).append braces
  | expression evaluated => simpa using (evaluated.accounts trivial).append semicolon

theorem IsProgram.accounts {word : List Lexeme} {tree : SyntaxTree} (derived : IsProgram word tree) :
    Accounts word tree.labels := by
  obtain ⟨trees, rfl, derived⟩ := derived
  have root : Accounts [] [(.program, none)] := .group (by decide)
  simpa [labels_node] using root.append derived.accounts

end Grammar

open Grammar Rule SyntaxTree

/-- Without its comments and parameter lists a program has the names of its tree, in preorder, and as
many keywords, parameter lists, operators and braces as the report and the tree count of what they
open. What the language has no use for does not occur. -/
theorem parse_accounts {tokens : List Token} {tree : SyntaxTree} (parsed : parse tokens = .ok tree) :
    let lexemes := tokens.map Token.toLexeme
    let left := Skim.outside.left lexemes
    let report := Report.analyze tokens tree
    (left.filter isName).map (some ·.text) =
        (tree.preorder.filter (isNamed ·.kind)).map (·.value) ∧
      left.countP (· = keyword "if") = report.branches ∧
      left.countP (fun lexeme => lexeme = keyword "while" || lexeme = keyword "for") =
        report.loops ∧
      left.countP (· = keyword "return") = report.returns ∧
      left.countP (isKeywordIn typeNames) = report.functions + report.declaredVariables ∧
      Skim.outside.lists lexemes = report.functions ∧
      left.countP (· = operator "=") = tree.count (· = .assignment) + tree.count (· = .initialization) ∧
      left.countP (fun lexeme => lexeme.kind = .operator && lexeme ≠ operator "=") =
        tree.count (· = .binary) + tree.count (· = .unary) ∧
      left.countP (· = mark "\x7b") = tree.count (· = .block) ∧
      ∀ lexeme ∈ left, lexeme ∉ [keyword "printf", operator "++", operator "--", mark "[", mark "]",
        mark ","] := by
  intro lexemes left report
  have derived := exists_takes_program.mp (parse_eq_ok_iff_takes.mp parsed)
  obtain ⟨_, _, ⟨-, rfl, rfl⟩, tells⟩ := derived.accounts
  have counts (item : Item) : left.countP item.isLexeme = tree.count item.isNode := by
    rw [← countP_labels]
    exact tells.items item
  have reported : report = _ := Report.analyze_eq tokens tree
  rw [reported]
  refine ⟨?_, counts .branch, counts .loop, counts .return, ?_, ?_, ?_, ?_, counts .brace, ?_⟩
  · rw [tells.names, labels, List.filter_map, List.map_map]
    rfl
  · exact (counts .type).trans (count_or (by decide) tree)
  · exact tells.lists.trans (countP_labels (· = .functionDeclaration) tree)
  · exact (counts .equals).trans (count_or (by decide) tree)
  · exact (counts .otherOperator).trans (count_or (by decide) tree)
  · have none : left.countP Item.unused.isLexeme = 0 := by
      rw [tells.items .unused]
      exact List.countP_eq_zero.mpr (by simp [Item.isNode])
    intro lexeme member useless
    exact List.countP_eq_zero.mp none lexeme member (decide_eq_true useless)

/-- `// sign`, `int f(int a, char b)` and a body of `if (a == 1) b = -2; return b;`, all in one
place. -/
def commentedFunction : List Token :=
  [⟨.comment, "// sign"⟩, keyword "int", ⟨.identifier, "f"⟩, mark "(", keyword "int",
    ⟨.identifier, "a"⟩, mark ",", keyword "char", ⟨.identifier, "b"⟩, mark ")", mark "\x7b",
    keyword "if", mark "(", ⟨.identifier, "a"⟩, operator "==", ⟨.number, "1"⟩, mark ")",
    ⟨.identifier, "b"⟩, operator "=", operator "-", ⟨.number, "2"⟩, mark ";", keyword "return",
    ⟨.identifier, "b"⟩, mark ";", mark "\x7d"].map fun lexeme => ⟨lexeme, .start⟩

theorem parse_accounts_commentedFunction :
    ∃ tree, parse commentedFunction = .ok tree ∧
      let left := Skim.outside.left (commentedFunction.map Token.toLexeme)
      left.countP (isKeywordIn typeNames) =
          (Report.analyze commentedFunction tree).functions +
            (Report.analyze commentedFunction tree).declaredVariables ∧
        left.filter isName = [⟨.identifier, "f"⟩, ⟨.identifier, "a"⟩, ⟨.number, "1"⟩,
          ⟨.identifier, "b"⟩, ⟨.number, "2"⟩, ⟨.identifier, "b"⟩] ∧
        (left.filter isName).map (some ·.text) =
          (tree.preorder.filter (isNamed ·.kind)).map (·.value) := by
  refine ⟨_, rfl, ?_⟩
  have parsed : parse commentedFunction = .ok _ := rfl
  obtain ⟨names, -, -, -, types, -⟩ := parse_accounts parsed
  exact ⟨types, rfl, names⟩

end SyntaxExplorer
