import SyntaxExplorer.Proofs.Grammar.Parsing
import SyntaxExplorer.Proofs.Tree.WellFormed

namespace SyntaxExplorer.Grammar

open Rule SyntaxTree

variable {word : List Lexeme} {tree : SyntaxTree} {trees : List SyntaxTree} {sign : String}

/-- The least precedence that an expression may have which is split no further. -/
def Binding.rank : Binding → Nat
  | any => 0
  | levels operators => 5 - operators.length
  | closed => 6

/-- The levels that are left to split at are the tightest of all levels. -/
def Binding.IsTail : Binding → Prop
  | levels operators => operators <:+ binaryOperators
  | any | closed => True

/-- An operator's precedence counts the levels that are tighter. -/
theorem precedenceOf_of_tail {operators : List String} {levels : List (List String)}
    (tail : operators :: levels <:+ binaryOperators) (known : sign ∈ operators) :
    precedenceOf sign + levels.length = 4 := by
  have table : ∀ skipped < 4, ∀ operators ∈ (binaryOperators.drop skipped).head?,
      ∀ sign ∈ operators, precedenceOf sign + (binaryOperators.drop skipped).tail.length = 4 := by
    decide
  obtain ⟨front, split⟩ := tail
  have dropped : binaryOperators.drop front.length = operators :: levels := by
    rw [← split, List.drop_left]
  have few : front.length + (levels.length + 1) = 4 := by
    have length := congrArg List.length split
    rwa [List.length_append, List.length_cons] at length
  have level := table front.length (by omega) operators (by rw [dropped]; rfl) sign known
  rwa [dropped] at level

theorem IsExpression.isExpressionTree {binding : Binding} (derived : IsExpression binding word tree)
    (tail : binding.IsTail) : IsExpressionTree tree ∧ binding.rank ≤ tree.precedence := by
  -- The rank of a binding says how tight its expressions are, and closes the operands' bounds.
  induction derived with
  | number => exact ⟨.literal _, Nat.le_refl _⟩
  | name => exact ⟨.identifier _, Nat.le_refl _⟩
  | grouping _ ih => exact ⟨.grouping (ih trivial).1, Nat.le_refl _⟩
  | operand _ ih =>
    obtain ⟨formed, closed⟩ := ih trivial
    exact ⟨formed, Nat.le_trans (by decide) closed⟩
  | unary known _ ih =>
    obtain ⟨formed, tight⟩ := ih tail
    exact ⟨.unary known formed tight, Nat.le_refl _⟩
  | @tighter operators levels _ _ _ ih =>
    obtain ⟨formed, tight⟩ := ih (List.IsSuffix.trans (List.suffix_cons ..) tail)
    refine ⟨formed, ?_⟩
    simp only [Binding.rank, List.length_cons] at tight ⊢
    omega
  | @binary operators levels sign _ _ left right known _ _ ihFirst ihSecond =>
    obtain ⟨formedLeft, tight⟩ := ihFirst tail
    obtain ⟨formedRight, tighter⟩ := ihSecond (List.IsSuffix.trans (List.suffix_cons ..) tail)
    have level := precedenceOf_of_tail tail known
    have within : operators ∈ binaryOperators := tail.mem (List.mem_cons_self ..)
    simp only [Binding.rank, List.length_cons] at tight tighter ⊢
    refine ⟨.binary (List.mem_flatten_of_mem within known) formedLeft formedRight ?_ ?_, ?_⟩
    · omega
    · omega
    · have here : precedence ⟨.binary, some sign, [left, right]⟩ = precedenceOf sign := rfl
      omega
  | operation _ ih => exact ⟨(ih (List.suffix_refl _)).1, Nat.zero_le _⟩
  | assignment _ ih => exact ⟨.assignment _ (ih trivial).1, Nat.zero_le _⟩

theorem IsExpression.isTree (derived : IsExpression .any word tree) : IsExpressionTree tree :=
  (derived.isExpressionTree trivial).1

theorem IsOptional.atMostOne (optional : IsOptional word trees) :
    AtMostOne IsExpressionTree trees := by
  rw [atMostOne_iff]
  cases optional with
  | absent => exact Or.inl rfl
  | present derived => exact Or.inr ⟨_, rfl, derived.isTree⟩

theorem IsVariable.isVariableTree {types : List String} (derived : IsVariable types word tree) :
    IsVariableTree types tree := by
  cases derived with
  | plain known => exact .plain _ known
  | initialized known source => exact .initialized _ known source.isTree

theorem IsForInit.atMostOne (derived : IsForInit word trees) :
    AtMostOne (fun tree => IsVariableTree loopVariableTypes tree ∨ IsExpressionTree tree) trees := by
  rw [atMostOne_iff]
  cases derived with
  | absent => exact Or.inl rfl
  | declared derived => exact Or.inr ⟨_, rfl, Or.inl derived.isVariableTree⟩
  | expression derived => exact Or.inr ⟨_, rfl, Or.inr derived.isTree⟩

/-- What the trees of a phrase are. -/
def Phrase.role : Phrase → Role
  | declarations | declaration => .declaration
  | body | statement => .statement

theorem IsPhrase.wellFormed {phrase : Phrase} (derived : IsPhrase phrase word trees) :
    ∀ tree ∈ trees, WellFormed phrase.role tree := by
  have alone {role : Role} {tree : SyntaxTree} :
      (∀ one ∈ [tree], WellFormed role one) ↔ WellFormed role tree := List.forall_mem_singleton
  induction derived with
  | finish => simp
  | next _ _ _ _ ihFirst ihOthers =>
    intro tree member
    rcases List.mem_cons.mp member with rfl | member
    · exact alone.mp ihFirst
    · exact ihOthers tree member
  | header known => exact alone.mpr (.header _ known)
  | function known _ _ ih => exact alone.mpr (.function _ known ih)
  | declared derived => exact alone.mpr (.declared derived.isVariableTree)
  | plain _ ih => exact alone.mpr (.plain (alone.mp ih))
  | body _ _ ih => exact ih
  | ifThen asked _ ih => exact alone.mpr (.ifThen asked.isTree (alone.mp ih))
  | ifElse asked _ nearest _ ihBranch ihOther =>
    exact alone.mpr (.ifElse asked.isTree (alone.mp ihBranch) nearest (alone.mp ihOther))
  | whileLoop asked _ ih => exact alone.mpr (.whileLoop asked.isTree (alone.mp ih))
  | forLoop begins asked stepped _ ih =>
    exact alone.mpr (.forLoop begins.atMostOne asked.atMostOne stepped.atMostOne (alone.mp ih))
  | returning returned => exact alone.mpr (.returning returned.atMostOne)
  | block _ ih => exact alone.mpr (.block ih)
  | expression evaluated => exact alone.mpr (.expression evaluated.isTree)

/-- How an expression is bound that has at least that precedence. -/
def Binding.ofPrecedence : Nat → Binding
  | 0 => any
  | skipped + 1 => if skipped < 5 then levels (binaryOperators.drop skipped) else closed

theorem Binding.ofPrecedence_succ {skipped : Nat} (few : skipped < 5) :
    ofPrecedence (skipped + 1) = levels (binaryOperators.drop skipped) :=
  if_pos few

/-- What is bound tighter may stand where something looser may. -/
theorem IsExpression.loosen_one {least : Nat}
    (derived : IsExpression (.ofPrecedence (least + 1)) word tree) :
    IsExpression (.ofPrecedence least) word tree := by
  cases least with
  | zero => exact .operation derived
  | succ skipped =>
    by_cases inner : skipped + 1 < 5
    · have here : skipped < binaryOperators.length := by
        have length : binaryOperators.length = 4 := rfl
        omega
      rw [Binding.ofPrecedence_succ inner] at derived
      rw [Binding.ofPrecedence_succ (by omega), List.drop_eq_getElem_cons here]
      exact .tighter derived
    · rw [Binding.ofPrecedence, if_neg inner] at derived
      by_cases last : skipped < 5
      · obtain rfl : skipped = 4 := by omega
        exact .operand derived
      · rwa [Binding.ofPrecedence, if_neg last]

theorem IsExpression.loosen {least most : Nat} (le : least ≤ most)
    (derived : IsExpression (.ofPrecedence most) word tree) :
    IsExpression (.ofPrecedence least) word tree := by
  induction le with
  | refl => exact derived
  | step _ ih => exact ih derived.loosen_one

/-- Behind the levels that are looser stands the level of the operator. -/
theorem level_of_mem (known : sign ∈ binaryOperators.flatten) :
    ∃ skipped operators, skipped + 1 < 5 ∧ precedenceOf sign = skipped + 1 ∧ sign ∈ operators ∧
      binaryOperators.drop skipped = operators :: binaryOperators.drop (skipped + 1) := by
  have length : binaryOperators.length = 4 := rfl
  have found : binaryOperators.findIdx (sign ∈ ·) < binaryOperators.length := by
    obtain ⟨operators, member, here⟩ := List.mem_flatten.mp known
    exact List.findIdx_lt_length_of_exists ⟨operators, member, decide_eq_true here⟩
  have here := List.findIdx_getElem (w := found)
  refine ⟨_, _, ?_, Nat.add_comm .., of_decide_eq_true here, List.drop_eq_getElem_cons found⟩
  omega

/-- Every expression has a word that needs no more parentheses than the tree says. -/
theorem exists_isExpression (formed : IsExpressionTree tree) :
    ∃ word, IsExpression (.ofPrecedence tree.precedence) word tree := by
  induction formed with
  | literal text => exact ⟨_, .number⟩
  | identifier name => exact ⟨_, .name⟩
  | grouping _ ih =>
    obtain ⟨word, inner⟩ := ih
    exact ⟨_, .grouping (inner.loosen (Nat.zero_le _))⟩
  | unary known _ tight ih =>
    obtain ⟨word, inner⟩ := ih
    exact ⟨_, .unary known (inner.loosen tight)⟩
  | @binary sign left right known _ _ tight tighter ihFirst ihSecond =>
    obtain ⟨before, first⟩ := ihFirst
    obtain ⟨after, second⟩ := ihSecond
    obtain ⟨skipped, operators, few, level, here, split⟩ := level_of_mem known
    have least := first.loosen tight
    have above := second.loosen tighter
    rw [level, Binding.ofPrecedence_succ (by omega), split] at least
    rw [level, Binding.ofPrecedence_succ few] at above
    have top : precedence ⟨.binary, some sign, [left, right]⟩ = precedenceOf sign := rfl
    rw [top, level, Binding.ofPrecedence_succ (by omega), split]
    exact ⟨_, .binary here least above⟩
  | assignment name _ ih =>
    obtain ⟨word, value⟩ := ih
    exact ⟨_, .assignment (value.loosen (Nat.zero_le _))⟩

theorem exists_isExpression_any (formed : IsExpressionTree tree) :
    ∃ word, IsExpression .any word tree := by
  obtain ⟨word, derived⟩ := exists_isExpression formed
  exact ⟨word, derived.loosen (Nat.zero_le _)⟩

theorem exists_isOptional (few : AtMostOne IsExpressionTree trees) : ∃ word, IsOptional word trees := by
  rcases atMostOne_iff.mp few with rfl | ⟨tree, rfl, formed⟩
  · exact ⟨[], .absent⟩
  · obtain ⟨word, derived⟩ := exists_isExpression_any formed
    exact ⟨word, .present derived⟩

theorem exists_isVariable {types : List String} (formed : IsVariableTree types tree) :
    ∃ word, IsVariable types word tree := by
  cases formed with
  | plain name known => exact ⟨_, .plain known⟩
  | initialized name known source =>
    obtain ⟨word, derived⟩ := exists_isExpression_any source
    exact ⟨_, .initialized known derived⟩

theorem exists_isForInit
    (few : AtMostOne (fun tree => IsVariableTree loopVariableTypes tree ∨ IsExpressionTree tree)
      trees) : ∃ word, IsForInit word trees := by
  rcases atMostOne_iff.mp few with rfl | ⟨tree, rfl, formed | formed⟩
  · exact ⟨[], .absent⟩
  · obtain ⟨word, derived⟩ := exists_isVariable formed
    exact ⟨word, .declared derived⟩
  · obtain ⟨word, derived⟩ := exists_isExpression_any formed
    exact ⟨word, .expression derived⟩

/-- With a comment before each of them, declarations keep apart. -/
theorem exists_declarations
    (each : ∀ tree ∈ trees, ∃ word, IsPhrase .declaration word [tree]) :
    ∃ word, IsPhrase .declarations word trees := by
  -- That no word begins with a brace makes the induction go through.
  have apart : ∃ word, IsPhrase .declarations word trees ∧ word.head? ≠ some (mark "\x7b") := by
    induction trees with
    | nil => exact ⟨[], .finish .nil, by simp⟩
    | cons tree trees ih =>
      obtain ⟨word, first⟩ := each tree (List.mem_cons_self ..)
      obtain ⟨words, others, noBrace⟩ := ih fun later member => each later (List.mem_cons_of_mem _ member)
      have comment : AllComments [⟨.comment, ""⟩] := by simp [AllComments]
      exact ⟨_, .next comment first others fun _ => noBrace, by simp [mark]⟩
  obtain ⟨word, derived, -⟩ := apart
  exact ⟨word, derived⟩

/-- A statement under another one needs no comments. -/
theorem IsPhrase.asBody (derived : IsPhrase .statement word [tree]) : IsPhrase .body word [tree] :=
  @IsPhrase.body [] word tree .nil derived

/-- The phrase that stands where a tree does. -/
def Role.phrase : Role → Phrase
  | .declaration => .declaration
  | .statement => .statement

theorem exists_isPhrase {role : Role} (formed : WellFormed role tree) :
    ∃ word, IsPhrase (Role.phrase role) word [tree] := by
  induction formed with
  | header name known => exact ⟨_, .header known .nil⟩
  | function name known _ ih =>
    obtain ⟨word, inner⟩ := exists_declarations ih
    exact ⟨_, .function known .nil inner⟩
  | declared formed =>
    obtain ⟨word, derived⟩ := exists_isVariable formed
    exact ⟨_, .declared derived⟩
  | plain _ ih =>
    obtain ⟨word, derived⟩ := ih
    exact ⟨word, .plain derived⟩
  | ifThen asked _ ih =>
    obtain ⟨condition, test⟩ := exists_isExpression_any asked
    obtain ⟨word, branch⟩ := ih
    exact ⟨_, .ifThen test branch.asBody⟩
  | ifElse asked _ nearest _ ihBranch ihOther =>
    obtain ⟨condition, test⟩ := exists_isExpression_any asked
    obtain ⟨word, branch⟩ := ihBranch
    obtain ⟨words, other⟩ := ihOther
    exact ⟨_, .ifElse test branch.asBody nearest other.asBody⟩
  | whileLoop asked _ ih =>
    obtain ⟨condition, test⟩ := exists_isExpression_any asked
    obtain ⟨word, repeated⟩ := ih
    exact ⟨_, .whileLoop test repeated.asBody⟩
  | forLoop begins asked stepped _ ih =>
    obtain ⟨start, init⟩ := exists_isForInit begins
    obtain ⟨condition, test⟩ := exists_isOptional asked
    obtain ⟨step, increment⟩ := exists_isOptional stepped
    obtain ⟨word, repeated⟩ := ih
    exact ⟨_, .forLoop init test increment repeated.asBody⟩
  | returning returned =>
    obtain ⟨word, value⟩ := exists_isOptional returned
    exact ⟨_, .returning value⟩
  | block _ ih =>
    obtain ⟨word, inner⟩ := exists_declarations ih
    exact ⟨_, .block inner⟩
  | expression evaluated =>
    obtain ⟨word, derived⟩ := exists_isExpression_any evaluated
    exact ⟨_, .expression derived⟩

theorem exists_isProgram : (∃ word, IsProgram word tree) ↔ IsProgramTree tree := by
  constructor
  · rintro ⟨word, trees, rfl, derived⟩
    exact ⟨rfl, rfl, derived.wellFormed⟩
  · intro formed
    obtain ⟨kind, value, trees⟩ := tree
    obtain ⟨rfl, rfl, each⟩ := formed
    obtain ⟨word, derived⟩ := exists_declarations fun tree member => exists_isPhrase (each tree member)
    exact ⟨word, trees, rfl, derived⟩

end SyntaxExplorer.Grammar

namespace SyntaxExplorer

open Grammar SyntaxTree

/-- The parser gives exactly the well-formed trees. -/
theorem exists_parse_eq_ok_iff_isProgramTree (tree : SyntaxTree) :
    (∃ tokens, parse tokens = .ok tree) ↔ IsProgramTree tree := by
  rw [← exists_isProgram]
  constructor
  · intro parsed
    obtain ⟨tokens, parsed⟩ := parsed
    exact ⟨_, exists_takes_program.mp (parse_eq_ok_iff_takes.mp parsed)⟩
  · intro derived
    obtain ⟨word, derived⟩ := derived
    have lexemes : (word.map fun lexeme => Token.mk lexeme .start).map Token.toLexeme = word := by
      rw [List.map_map]
      exact List.map_id word
    refine ⟨word.map fun lexeme => ⟨lexeme, .start⟩, ?_⟩
    rw [parse_eq_ok_iff_takes, exists_takes_program, lexemes]
    exact derived

end SyntaxExplorer
