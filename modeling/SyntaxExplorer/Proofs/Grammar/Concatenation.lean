import SyntaxExplorer.Proofs.Grammar.Blame
import SyntaxExplorer.Proofs.Grammar.Comments
import SyntaxExplorer.Proofs.Grammar.EarlyFailure

namespace SyntaxExplorer

namespace Grammar

open Rule SyntaxTree

variable {word middle rest : List Lexeme} {tree : SyntaxTree} {trees others : List SyntaxTree}

/-- All declarations up to the end of the input. -/
def allDeclarations : Rule (List SyntaxTree) :=
  repeating (declarations (· = none) declaration)

theorem allDeclarations_eq : allDeclarations = (do
    skipComments
    ahead (· = none) (succeed []) do
      let first ← declaration
      let others ← allDeclarations
      return first :: others) :=
  declarations_eq (decide_eq_true rfl) declaration_takesSome declaration_takesFront

/-- Behind the word the rest is read as if it stood alone, with the trees in front of its own. -/
structure Leads (word : List Lexeme) (trees : List SyntaxTree) (rest : List Lexeme) : Prop where
  takes : ∀ others last, Takes allDeclarations rest others last →
    Takes allDeclarations (word ++ rest) (trees ++ others) last
  fails : ∀ fault last, Fails allDeclarations rest fault last →
    Fails allDeclarations (word ++ rest) fault last

theorem Leads.trans (one : Leads word trees (middle ++ rest)) (two : Leads middle others rest) :
    Leads (word ++ middle) (trees ++ others) rest where
  takes more last takes := by
    rw [List.append_assoc, List.append_assoc]
    exact one.takes _ _ (two.takes _ _ takes)
  fails fault last fails := by
    rw [List.append_assoc]
    exact one.fails _ _ (two.fails _ _ fails)

theorem leads_comments {comments : List Lexeme} (skipped : AllComments comments)
    (rest : List Lexeme) : Leads comments [] rest := by
  have passed : skipComments (comments ++ rest) = skipComments rest := by
    have without : (comments ++ rest).dropWhile (·.kind = .comment) =
        rest.dropWhile (·.kind = .comment) :=
      List.dropWhile_append_of_pos fun lexeme member => decide_eq_true (skipped lexeme member)
    rw [skipComments, skipComments, without]
  have same : allDeclarations (comments ++ rest) = allDeclarations rest := by
    rw [allDeclarations_eq, bind_apply, bind_apply, andThen, andThen, passed]
  constructor
  · rintro others last ⟨events, reply⟩
    exact ⟨events, same.trans reply⟩
  · rintro fault last ⟨events, reply⟩
    exact ⟨events, same.trans reply⟩

theorem leads_declaration (derived : IsPhrase .declaration word [tree]) (fits : tree.Fits rest) :
    Leads word [tree] rest := by
  have read : Takes declaration (word ++ rest) tree rest := derived.reads tree rest rfl fits
  obtain ⟨start, later, rfl, begins⟩ := declaration_begins derived
  have here : Takes skipComments (start :: later ++ rest) () (start :: later ++ rest) :=
    takes_skipComments.mpr (List.dropWhile_cons_of_neg
      (by simpa using (kind_of_beginsDeclaration begins).1)).symm
  rw [List.cons_append] at here read
  constructor
  · intro others last takes
    rw [allDeclarations_eq]
    refine takes_bind.mpr ⟨(), _, here, takes_ahead.mpr ?_⟩
    rw [List.head?_cons, if_neg (by simp)]
    exact takes_bind.mpr ⟨tree, rest, read, takes_bind.mpr ⟨others, last, takes,
      takes_pure.mpr ⟨rfl, rfl⟩⟩⟩
  · intro fault last fails
    rw [allDeclarations_eq]
    refine fails_bind.mpr (.inr ⟨(), _, here, fails_ahead.mpr ?_⟩)
    rw [List.head?_cons, if_neg (by simp)]
    exact fails_bind.mpr (.inr ⟨tree, rest, read, fails_bind.mpr (.inl fails)⟩)

/-- Declarations lead what is behind them, if their last one fits it. -/
theorem leads_declarations (derived : IsPhrase .declarations word trees)
    (noElse : rest.head? ≠ some (keyword "else"))
    (noBody : word.getLast? = some (mark ")") → rest.head? ≠ some (mark "\x7b")) :
    Leads word trees rest := by
  induction trees generalizing word with
  | nil =>
    cases derived with
    | finish skipped => exact leads_comments skipped rest
  | cons tree trees ih =>
    cases derived with
    | @next comments before words _ _ skipped first others apart =>
      have fits : tree.Fits (words ++ rest) := by
        refine fits_append others apart ?_
        rintro rfl
        refine ⟨fun bare => noBody ?_, fun _ => noElse⟩
        obtain ⟨_, _, _, _, _, rfl, -⟩ := declaration_of_isHeader first bare
        rw [List.append_nil, ← List.append_assoc, List.getLast?_concat]
      have leadsOthers : Leads words trees rest := by
        refine ih others fun closes => noBody ?_
        rw [List.getLast?_append, closes, Option.some_or]
      have leadsComments := leads_comments skipped (before ++ (words ++ rest))
      exact (leadsComments.trans (leads_declaration first fits)).trans leadsOthers

theorem takes_program {last : List Lexeme} :
    Takes program word ⟨.program, none, trees⟩ last ↔ Takes allDeclarations word trees last := by
  constructor
  · intro takes
    obtain ⟨trees, last, read, built⟩ := takes_bind.mp takes
    obtain ⟨⟨⟩, rfl⟩ := takes_pure.mp built
    exact read
  · intro read
    exact takes_bind.mpr ⟨trees, last, read, takes_pure.mpr ⟨rfl, rfl⟩⟩

theorem fails_program {fault : Fault} {last : List Lexeme} :
    Fails program word fault last ↔ Fails allDeclarations word fault last := by
  constructor
  · intro fails
    rcases fails_bind.mp fails with fails | ⟨trees, middle, -, built⟩
    · exact fails
    · exact absurd built not_fails_succeed
  · intro fails
    exact fails_bind.mpr (.inl fails)

end Grammar

open Grammar Rule Parsing

/-- Behind the tokens of a program others are parsed as if they stood alone: the trees are those of
both, and an error is the very same. But an `else` may belong to the program's last statement, and a
brace behind a parenthesis may open the body of its last function. -/
theorem parse_append {first second : List Token} {trees : List SyntaxTree}
    (read : parse first = .ok ⟨.program, none, trees⟩)
    (noElse : second.head?.map Token.toLexeme ≠ some (keyword "else"))
    (noBody : ¬ (first.getLast?.map Token.toLexeme = some (mark ")") ∧
      second.head?.map Token.toLexeme = some (mark "\x7b"))) :
    (∀ others, parse second = .ok ⟨.program, none, others⟩ →
      parse (first ++ second) = .ok ⟨.program, none, trees ++ others⟩) ∧
    ∀ error, parse second = .error error → parse (first ++ second) = .error error := by
  obtain ⟨_, ⟨⟩, derived⟩ := exists_takes_program.mp (parse_eq_ok_iff_takes.mp read)
  have leads : Leads (first.map Token.toLexeme) trees (second.map Token.toLexeme) := by
    refine leads_declarations derived ?_ ?_
    · rwa [List.head?_map]
    · rw [List.getLast?_map, List.head?_map]
      exact fun closes opens => noBody ⟨closes, opens⟩
  constructor
  · intro others readSecond
    obtain ⟨rest, takes⟩ := parse_eq_ok_iff_takes.mp readSecond
    rw [parse_eq_ok_iff_takes, List.map_append]
    exact ⟨rest, takes_program.mpr (leads.takes _ _ (takes_program.mp takes))⟩
  · intro error failed
    obtain ⟨taken, left, fault, whole, rfl, fails⟩ := exists_fails failed
    rw [← List.map_append, ← whole] at fails
    have behind := fails_program.mpr (leads.fails _ _ (fails_program.mp fails))
    rw [← List.map_append] at behind
    rw [parse_of_fails behind, locate_behind fails]

/-- An `if` without `else`, and a function without body before a comment. -/
def openEnded : List Token :=
  [keyword "if", mark "(", ⟨.identifier, "a"⟩, mark ")", ⟨.identifier, "b"⟩, mark ";",
    keyword "int", ⟨.identifier, "f"⟩, mark "(", mark ")", ⟨.comment, "// c"⟩].mapIdx
    fun index lexeme => ⟨lexeme, ⟨1, index + 1⟩⟩

/-- A block of one statement, or with a target that is none. -/
def blockOf (target : Lexeme) : List Token :=
  [mark "\x7b", target, operator "=", ⟨.number, "2"⟩, mark ";", mark "\x7d"].mapIdx
    fun index lexeme => ⟨lexeme, ⟨2, index + 1⟩⟩

/-- The comment keeps the block from becoming the function's body, and the error is located as
before. -/
theorem parse_append_openEnded :
    let trees : List SyntaxTree :=
      [⟨.ifStatement, none, [.leaf .identifier "a", .leaf .identifier "b"]⟩,
        ⟨.functionDeclaration, some "f", [.leaf .type "int", ⟨.parameters, none, []⟩]⟩]
    let block : SyntaxTree :=
      ⟨.block, none, [⟨.assignment, some "x", [.leaf .literal "2"]⟩]⟩
    parse openEnded = .ok ⟨.program, none, trees⟩ ∧
      parse (openEnded ++ blockOf ⟨.identifier, "x"⟩) = .ok ⟨.program, none, trees ++ [block]⟩ ∧
      parse (openEnded ++ blockOf ⟨.number, "1"⟩) = .error ⟨.invalidAssignmentTarget, ⟨2, 3⟩⟩ := by
  intro trees block
  have read : parse openEnded = .ok ⟨.program, none, trees⟩ := rfl
  have readBlock : parse (blockOf ⟨.identifier, "x"⟩) = .ok ⟨.program, none, [block]⟩ := rfl
  have failed : parse (blockOf ⟨.number, "1"⟩) = .error ⟨.invalidAssignmentTarget, ⟨2, 3⟩⟩ := rfl
  obtain ⟨joins, -⟩ :=
    @parse_append openEnded (blockOf ⟨.identifier, "x"⟩) trees read (by decide) (by decide)
  obtain ⟨-, fails⟩ :=
    @parse_append openEnded (blockOf ⟨.number, "1"⟩) trees read (by decide) (by decide)
  exact ⟨read, joins [block] readBlock, fails _ failed⟩

end SyntaxExplorer
