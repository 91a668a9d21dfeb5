import SyntaxExplorer.Proofs.Grammar.Parsing
import SyntaxExplorer.Proofs.Tree.DetachedBody

namespace SyntaxExplorer

def withoutComments (tokens : List Token) : List Token :=
  tokens.filter (·.kind ≠ .comment)

namespace Grammar

open Rule SyntaxTree

variable {word : List Lexeme} {tree : SyntaxTree} {trees : List SyntaxTree}

/-- The lexemes that are no comments. -/
def uncommented (word : List Lexeme) : List Lexeme :=
  word.filter (·.kind ≠ .comment)

@[simp] theorem uncommented_nil : uncommented [] = [] := rfl

@[simp] theorem uncommented_append (before after : List Lexeme) :
    uncommented (before ++ after) = uncommented before ++ uncommented after :=
  List.filter_append ..

theorem uncommented_cons {lexeme : Lexeme} (other : lexeme.kind ≠ .comment) (word : List Lexeme) :
    uncommented (lexeme :: word) = lexeme :: uncommented word :=
  List.filter_cons_of_pos (by simpa using other)

@[simp] theorem uncommented_keyword (text : String) (word : List Lexeme) :
    uncommented (keyword text :: word) = keyword text :: uncommented word := rfl

@[simp] theorem uncommented_mark (text : String) (word : List Lexeme) :
    uncommented (mark text :: word) = mark text :: uncommented word := rfl

@[simp] theorem uncommented_operator (text : String) (word : List Lexeme) :
    uncommented (operator text :: word) = operator text :: uncommented word := rfl

@[simp] theorem uncommented_identifier (text : String) (word : List Lexeme) :
    uncommented (⟨.identifier, text⟩ :: word) = ⟨.identifier, text⟩ :: uncommented word := rfl

theorem AllComments.uncommented_eq {comments : List Lexeme} (skipped : AllComments comments) :
    uncommented comments = [] := by
  rw [uncommented, List.filter_eq_nil_iff]
  intro lexeme member
  simpa using skipped lexeme member

theorem kind_of_mem_uncommented {lexeme : Lexeme} (member : lexeme ∈ uncommented word) :
    lexeme.kind ≠ .comment := by
  simpa using (List.mem_filter.mp member).2

theorem map_withoutComments (tokens : List Token) :
    (withoutComments tokens).map Token.toLexeme = uncommented (tokens.map Token.toLexeme) := by
  rw [withoutComments, uncommented, List.filter_map]
  rfl

/-- Expressions have no comments in them, and no declarations below them. -/
theorem IsExpression.uncommented_eq {binding : Binding} (derived : IsExpression binding word tree) :
    uncommented word = word ∧ tree.attached = tree := by
  induction derived with
  | number | name => exact ⟨rfl, attached_leaf ..⟩
  | operand _ ih | tighter _ ih | operation _ ih => exact ih
  | grouping _ ih | unary _ _ ih | assignment _ ih =>
    rw [attached_of_not_sequence rfl, List.map_singleton, ih.2]
    simp [ih.1]
  | binary _ _ _ ihFirst ihSecond =>
    rw [attached_of_not_sequence rfl, List.map_cons, List.map_singleton, ihFirst.2, ihSecond.2]
    simp [ihFirst.1, ihSecond.1]

theorem IsOptional.uncommented_eq (optional : IsOptional word trees) :
    uncommented word = word ∧ trees.map attached = trees := by
  cases optional with
  | absent => exact ⟨rfl, rfl⟩
  | present derived =>
    obtain ⟨same, sameTree⟩ := derived.uncommented_eq
    exact ⟨same, by rw [List.map_singleton, sameTree]⟩

theorem IsVariable.uncommented_eq {types : List String} (derived : IsVariable types word tree) :
    uncommented word = word ∧ tree.attached = tree := by
  cases derived with
  | plain => exact ⟨rfl, rfl⟩
  | initialized known source =>
    obtain ⟨same, sameTree⟩ := source.uncommented_eq
    rw [attached_of_not_sequence rfl, List.map_cons, List.map_singleton, attached_leaf,
      attached_of_not_sequence rfl, List.map_singleton, sameTree]
    simp [same]

theorem IsForInit.uncommented_eq (derived : IsForInit word trees) :
    uncommented word = word ∧ trees.map attached = trees := by
  cases derived with
  | absent => exact ⟨rfl, rfl⟩
  | declared derived =>
    obtain ⟨same, sameTree⟩ := derived.uncommented_eq
    exact ⟨same, by rw [List.map_singleton, sameTree]⟩
  | expression derived =>
    obtain ⟨same, sameTree⟩ := derived.uncommented_eq
    exact ⟨same, by rw [List.map_singleton, sameTree]⟩

/-- A parameter list may hold comments, which match no parenthesis. -/
theorem Balanced.uncommented (matched : Balanced word) : Balanced (uncommented word) := by
  induction matched with
  | nil => exact .nil
  | @other lexeme word opens closes _ ih =>
    by_cases comment : lexeme.kind = .comment
    · rwa [Grammar.uncommented, List.filter_cons_of_neg (by simpa using comment)]
    · rw [uncommented_cons comment]
      exact .other opens closes ih
  | nested _ _ ihInside ihLater =>
    simp only [uncommented_append, uncommented_mark, List.cons_append]
    exact .nested ihInside ihLater

/-- A function's declaration without a body ends with its parameters. -/
theorem declaration_of_isHeader (derived : IsPhrase .declaration word [tree])
    (bare : tree.isHeader = true) :
    ∃ type name parameters, type ∈ typeNames ∧ Balanced parameters ∧
      word = keyword type :: ⟨.identifier, name⟩ :: mark "(" :: parameters ++ [mark ")"] ∧
      tree = ⟨.functionDeclaration, some name, [.leaf .type type, ⟨.parameters, none, []⟩]⟩ := by
  cases derived with
  | header known matched => exact ⟨_, _, _, known, matched, rfl, rfl⟩
  | function => cases bare
  | declared derived => cases derived <;> cases bare
  | plain derived =>
    rw [isHeader_of_statement derived] at bare
    cases bare

/-- Only a block's word has a block for its tree. -/
theorem declaration_of_block (derived : IsPhrase .declaration word [tree])
    (block : tree.kind = .block) :
    ∃ inside inner, IsPhrase .declarations inside inner ∧
      word = mark "\x7b" :: inside ++ [mark "\x7d"] ∧ tree = ⟨.block, none, inner⟩ := by
  cases derived with
  | header | function => cases block
  | declared derived => cases derived <;> cases block
  | plain derived =>
    cases derived with
    | block within => exact ⟨_, _, within, rfl, rfl⟩
    | expression evaluated => exact absurd block (evaluated.kind_ne (by decide))
    | ifThen | ifElse | whileLoop | forLoop | returning => cases block

/-- Only a block begins with an opening brace. -/
theorem block_of_brace (derived : IsPhrase .declaration word [tree])
    (brace : word.head? = some (mark "\x7b")) : tree.kind = .block := by
  cases derived with
  | header | function => simp [mark, keyword] at brace
  | declared derived =>
    obtain ⟨type, name, later, -, rfl⟩ := derived.begins
    simp [mark, keyword] at brace
  | plain derived =>
    cases derived with
    | block => rfl
    | expression evaluated =>
      obtain ⟨first, later, rfl, begins⟩ := evaluated.begins
      obtain rfl : first = mark "\x7b" := by simpa using brace
      have opening := (kind_ne_of_beginsExpression begins).2.2 rfl
      simp [mark] at opening
    | ifThen | ifElse | whileLoop | forLoop | returning => simp [mark, keyword] at brace

/-- Declarations that begin with an opening brace begin with a block. -/
theorem declarations_of_brace (derived : IsPhrase .declarations word trees)
    (brace : word.head? = some (mark "\x7b")) :
    ∃ body back, trees = body :: back ∧ body.kind = .block := by
  cases derived with
  | finish skipped =>
    have comment := skipped _ (List.mem_of_mem_head? brace)
    simp [mark] at comment
  | @next comments before words body back skipped first =>
    refine ⟨body, back, rfl, block_of_brace first ?_⟩
    obtain ⟨start, later, rfl, -⟩ := declaration_begins first
    cases comments with
    | nil => simpa using brace
    | cons comment comments =>
      obtain rfl : comment = mark "\x7b" := by simpa using brace
      have comment := skipped _ (List.mem_cons_self ..)
      simp [mark] at comment

/-- Without comments, declarations that begin with a block begin with its braces. -/
theorem declarations_of_block {body : SyntaxTree} {back : List SyntaxTree}
    (derived : IsPhrase .declarations (uncommented word) (body :: back))
    (block : body.kind = .block) :
    ∃ inside inner words, IsPhrase .declarations inside inner ∧
      IsPhrase .declarations words back ∧
      uncommented word = mark "\x7b" :: inside ++ mark "\x7d" :: words ∧
      body = ⟨.block, none, inner⟩ := by
  generalize same : uncommented word = clean at derived
  cases derived with
  | @next comments before words _ _ skipped first others =>
    have none : comments = [] := by
      rw [List.eq_nil_iff_forall_not_mem]
      intro lexeme member
      have within : lexeme ∈ uncommented word := by
        rw [same]
        simp [member]
      exact kind_of_mem_uncommented within (skipped lexeme member)
    obtain ⟨inside, inner, within, rfl, rfl⟩ := declaration_of_block first block
    exact ⟨inside, inner, words, within, others, by simp [none], rfl⟩

/-- What becomes of the trees of a phrase without its comments. -/
def Phrase.attach : Phrase → List SyntaxTree → List SyntaxTree
  | declarations, trees => attachAll (trees.map attached)
  | declaration, trees | body, trees | statement, trees => trees.map attached

/-- A block that would directly follow a function's declaration is read as its body. -/
theorem uncommented_next {words : List Lexeme} (first : IsPhrase .declaration word [tree])
    (others : IsPhrase .declarations (uncommented words) (attachAll trees)) :
    IsPhrase .declarations (word ++ uncommented words) (attachAll (tree :: trees)) := by
  by_cases loose : LosesBody tree trees
  · obtain ⟨bare, body, back, rfl, block⟩ := loose
    obtain ⟨type, name, parameters, known, matched, rfl, rfl⟩ := declaration_of_isHeader first bare
    have noHeader : body.isHeader = false := isHeader_of_kind (by simp [block])
    have blockFirst : ¬ LosesBody body back := by
      intro loose
      rw [loose.1] at noHeader
      cases noHeader
    -- Nothing is left before the block's brace, so it stands right behind the parameters.
    rw [attachAll_of_apart blockFirst] at others
    obtain ⟨inside, inner, later, within, behind, same, rfl⟩ := declarations_of_block others block
    rw [attachAll_of_loose bare block, same]
    have whole := @IsPhrase.function type name _ _ _ known matched within
    simpa using IsPhrase.next AllComments.nil whole behind (by intro header; cases header)
  · rw [attachAll_of_apart loose]
    refine .next AllComments.nil first others ?_
    -- A brace would begin a block, which had been put under the function already.
    intro bare brace
    obtain ⟨body, back, split, block⟩ := declarations_of_brace others brace
    obtain ⟨first, later, rfl, kind⟩ := kind_of_attachAll_cons split
    exact loose ⟨bare, first, later, rfl, by rw [kind, block]⟩

/-- Every phrase stays one without its comments. -/
theorem IsPhrase.uncommented {phrase : Phrase} (derived : IsPhrase phrase word trees) :
    IsPhrase phrase (uncommented word) (phrase.attach trees) := by
  induction derived with
  | finish skipped =>
    rw [skipped.uncommented_eq]
    exact .finish .nil
  | next skipped _ _ _ ihFirst ihOthers =>
    rw [uncommented_append, uncommented_append, skipped.uncommented_eq]
    exact uncommented_next ihFirst ihOthers
  | header known matched =>
    simp only [uncommented_append, uncommented_mark, uncommented_keyword, uncommented_identifier,
      List.cons_append, uncommented_nil]
    exact .header known matched.uncommented
  | function known matched _ ih =>
    simp only [uncommented_append, uncommented_mark, uncommented_keyword, uncommented_identifier,
      List.cons_append, uncommented_nil]
    rw [Phrase.attach, List.map_singleton, attached_of_not_sequence rfl, List.map_cons, List.map_cons,
      List.map_singleton, attached_leaf, attached_block, attached_of_not_sequence rfl]
    exact .function known matched.uncommented ih
  | declared derived =>
    obtain ⟨same, sameTree⟩ := derived.uncommented_eq
    rw [uncommented_append, same, Phrase.attach, List.map_singleton, sameTree]
    exact .declared derived
  | plain _ ih => exact .plain ih
  | body skipped _ ih =>
    rw [uncommented_append, skipped.uncommented_eq]
    exact .body .nil ih
  | ifThen asked _ ih =>
    obtain ⟨same, sameTree⟩ := asked.uncommented_eq
    simp only [uncommented_append, uncommented_mark, uncommented_keyword, same, List.cons_append]
    rw [Phrase.attach, List.map_singleton, attached_of_not_sequence rfl, List.map_cons, sameTree]
    exact .ifThen asked ih
  | ifElse asked _ nearest _ ihBranch ihOther =>
    obtain ⟨same, sameTree⟩ := asked.uncommented_eq
    simp only [uncommented_append, uncommented_mark, uncommented_keyword, same, List.cons_append]
    rw [Phrase.attach, List.map_singleton, attached_of_not_sequence rfl, List.map_cons, sameTree]
    exact .ifElse asked ihBranch (by rwa [attached_acceptsElse]) ihOther
  | whileLoop asked _ ih =>
    obtain ⟨same, sameTree⟩ := asked.uncommented_eq
    simp only [uncommented_append, uncommented_mark, uncommented_keyword, same, List.cons_append]
    rw [Phrase.attach, List.map_singleton, attached_of_not_sequence rfl, List.map_cons, sameTree]
    exact .whileLoop asked ih
  | forLoop begins asked stepped _ ih =>
    obtain ⟨sameStart, sameInit⟩ := begins.uncommented_eq
    obtain ⟨same, sameTest⟩ := asked.uncommented_eq
    obtain ⟨sameStep, sameIncrement⟩ := stepped.uncommented_eq
    simp only [uncommented_append, uncommented_mark, uncommented_keyword, sameStart, same, sameStep,
      List.cons_append]
    rw [Phrase.attach, List.map_singleton, attached_of_not_sequence rfl, List.map_cons, List.map_cons,
      List.map_cons, attached_of_not_sequence rfl, attached_of_not_sequence rfl,
      attached_of_not_sequence rfl, sameInit, sameTest, sameIncrement]
    exact .forLoop begins asked stepped ih
  | returning returned =>
    obtain ⟨same, sameTrees⟩ := returned.uncommented_eq
    rw [Phrase.attach, List.map_singleton, attached_of_not_sequence rfl, sameTrees]
    simp only [uncommented_append, uncommented_mark, uncommented_keyword, same, List.cons_append,
      uncommented_nil]
    exact .returning returned
  | block _ ih =>
    rw [Phrase.attach, List.map_singleton, attached_block]
    simp only [uncommented_append, uncommented_mark, List.cons_append, uncommented_nil]
    exact .block ih
  | expression evaluated =>
    obtain ⟨same, sameTree⟩ := evaluated.uncommented_eq
    rw [uncommented_append, same, Phrase.attach, List.map_singleton, sameTree]
    exact .expression evaluated

/-- A program stays one without its comments, with the bodies that come together again. -/
theorem IsProgram.uncommented (derived : IsProgram word tree) :
    IsProgram (uncommented word) tree.attached := by
  obtain ⟨trees, rfl, derived⟩ := derived
  exact ⟨_, attached_node .., derived.uncommented⟩

end Grammar

open Grammar SyntaxTree

/-- Without its comments a program is still a program. Its tree is the same exactly if no block stood
directly behind a function's declaration without a body, and otherwise every such block becomes the
function's body. -/
theorem parse_withoutComments {tokens : List Token} {tree : SyntaxTree}
    (parsed : parse tokens = .ok tree) :
    parse (withoutComments tokens) = .ok tree.attached ∧
      (parse (withoutComments tokens) = .ok tree ↔ ¬ tree.HasDetachedBody) := by
  have derived := exists_takes_program.mp (parse_eq_ok_iff_takes.mp parsed)
  have reads : parse (withoutComments tokens) = .ok tree.attached := by
    rw [parse_eq_ok_iff_takes, exists_takes_program, map_withoutComments]
    exact derived.uncommented
  refine ⟨reads, ?_⟩
  rw [reads, Except.ok.injEq]
  exact attached_eq_self_iff tree

/-- `int f() // body follows` and a pair of braces on the next line. -/
def commentBeforeBody : List Token :=
  [⟨⟨.keyword, "int"⟩, ⟨1, 1⟩⟩, ⟨⟨.identifier, "f"⟩, ⟨1, 5⟩⟩, ⟨⟨.punctuation, "("⟩, ⟨1, 6⟩⟩,
    ⟨⟨.punctuation, ")"⟩, ⟨1, 7⟩⟩, ⟨⟨.comment, "// body follows"⟩, ⟨1, 9⟩⟩,
    ⟨⟨.punctuation, "\x7b"⟩, ⟨2, 1⟩⟩, ⟨⟨.punctuation, "\x7d"⟩, ⟨2, 2⟩⟩]

/-- The comment parts the function from the block. -/
theorem parse_commentBeforeBody :
    parse commentBeforeBody = .ok ⟨.program, none,
      [⟨.functionDeclaration, some "f", [.leaf .type "int", ⟨.parameters, none, []⟩]⟩,
        ⟨.block, none, []⟩]⟩ ∧
    parse (withoutComments commentBeforeBody) = .ok ⟨.program, none,
      [⟨.functionDeclaration, some "f",
        [.leaf .type "int", ⟨.parameters, none, []⟩, ⟨.block, none, []⟩]⟩]⟩ ∧
    parse commentBeforeBody ≠ parse (withoutComments commentBeforeBody) := by
  have parted : parse commentBeforeBody = .ok ⟨.program, none,
      [⟨.functionDeclaration, some "f", [.leaf .type "int", ⟨.parameters, none, []⟩]⟩,
        ⟨.block, none, []⟩]⟩ := rfl
  have joined : parse (withoutComments commentBeforeBody) = .ok ⟨.program, none,
      [⟨.functionDeclaration, some "f",
        [.leaf .type "int", ⟨.parameters, none, []⟩, ⟨.block, none, []⟩]⟩]⟩ := rfl
  refine ⟨parted, joined, ?_⟩
  rw [parted, joined]
  simp

theorem parse_withoutComments_commentBeforeBody :
    ∃ tree, parse commentBeforeBody = .ok tree ∧
      parse (withoutComments commentBeforeBody) = .ok tree.attached ∧
      (parse (withoutComments commentBeforeBody) = .ok tree ↔ ¬ tree.HasDetachedBody) := by
  refine ⟨_, rfl, ?_⟩
  apply parse_withoutComments
  rfl

end SyntaxExplorer
