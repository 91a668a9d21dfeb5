import SyntaxExplorer.Compilation
import SyntaxExplorer.Proofs.Grammar.Parsing
import SyntaxExplorer.Proofs.Token.Printing
import SyntaxExplorer.Proofs.Tree.Outline

namespace SyntaxExplorer

namespace Grammar

open Rule SyntaxTree

variable {holds : String → Prop} {word words : List Lexeme} {text : String} {tree : SyntaxTree}
  {trees : List SyntaxTree}

/-- The texts of all lexemes but comments are such. -/
def HasTexts (holds : String → Prop) (word : List Lexeme) : Prop :=
  ∀ lexeme ∈ word, lexeme.kind ≠ .comment → holds lexeme.text

@[simp] theorem hasTexts_append :
    HasTexts holds (word ++ words) ↔ HasTexts holds word ∧ HasTexts holds words :=
  List.forall_mem_append

theorem hasTexts_cons {lexeme : Lexeme} (solid : lexeme.kind ≠ .comment) :
    HasTexts holds (lexeme :: word) ↔ holds lexeme.text ∧ HasTexts holds word := by
  rw [HasTexts, List.forall_mem_cons, forall_prop_of_true solid]
  rfl

@[simp] theorem hasTexts_keyword :
    HasTexts holds (keyword text :: word) ↔ holds text ∧ HasTexts holds word :=
  hasTexts_cons (by simp [keyword])

@[simp] theorem hasTexts_mark :
    HasTexts holds (mark text :: word) ↔ holds text ∧ HasTexts holds word :=
  hasTexts_cons (by simp [mark])

@[simp] theorem hasTexts_operator :
    HasTexts holds (operator text :: word) ↔ holds text ∧ HasTexts holds word :=
  hasTexts_cons (by simp [operator])

@[simp] theorem hasTexts_identifier :
    HasTexts holds (⟨.identifier, text⟩ :: word) ↔ holds text ∧ HasTexts holds word :=
  hasTexts_cons (by simp)

@[simp] theorem hasTexts_number :
    HasTexts holds (⟨.number, text⟩ :: word) ↔ holds text ∧ HasTexts holds word :=
  hasTexts_cons (by simp)

@[simp] theorem hasValues_some {kind : NodeKind} :
    SyntaxTree.HasValues holds ⟨kind, some text, trees⟩ ↔
      holds text ∧ ∀ tree ∈ trees, tree.HasValues holds := by
  simp [hasValues_node]

@[simp] theorem hasValues_none {kind : NodeKind} :
    SyntaxTree.HasValues holds ⟨kind, none, trees⟩ ↔ ∀ tree ∈ trees, tree.HasValues holds := by
  simp [hasValues_node]

@[simp] theorem hasValues_leaf {kind : NodeKind} : (leaf kind text).HasValues holds ↔ holds text := by
  simp [leaf]

theorem IsExpression.hasValues {binding : Binding} (derived : IsExpression binding word tree)
    (texts : HasTexts holds word) : tree.HasValues holds := by
  induction derived with
  | number =>
    rw [hasTexts_number] at texts
    simpa using texts.1
  | name =>
    rw [hasTexts_identifier] at texts
    simpa using texts.1
  | grouping _ ih =>
    simp only [List.cons_append, hasTexts_mark, hasTexts_append] at texts
    simpa using ih texts.2.1
  | operand _ ih | tighter _ ih | operation _ ih => exact ih texts
  | unary _ _ ih =>
    rw [hasTexts_operator] at texts
    simpa using ⟨texts.1, ih texts.2⟩
  | binary _ _ _ ihFirst ihSecond =>
    rw [hasTexts_append, hasTexts_operator] at texts
    simpa using ⟨texts.2.1, ihFirst texts.1, ihSecond texts.2.2⟩
  | assignment _ ih =>
    rw [hasTexts_identifier, hasTexts_operator] at texts
    simpa using ⟨texts.1, ih texts.2.2⟩

theorem IsOptional.hasValues (derived : IsOptional word trees) (texts : HasTexts holds word) :
    ∀ tree ∈ trees, tree.HasValues holds := by
  cases derived with
  | absent => simp
  | present expression => simpa using expression.hasValues texts

theorem IsVariable.hasValues {types : List String} (derived : IsVariable types word tree)
    (texts : HasTexts holds word) : tree.HasValues holds := by
  cases derived with
  | plain =>
    rw [hasTexts_keyword, hasTexts_identifier] at texts
    simpa using ⟨texts.2.1, texts.1⟩
  | initialized _ source =>
    rw [hasTexts_keyword, hasTexts_identifier, hasTexts_operator] at texts
    simpa using ⟨texts.2.1, texts.1, source.hasValues texts.2.2.2⟩

theorem IsForInit.hasValues (derived : IsForInit word trees) (texts : HasTexts holds word) :
    ∀ tree ∈ trees, tree.HasValues holds := by
  cases derived with
  | absent => simp
  | declared derived => simpa using derived.hasValues texts
  | expression start => simpa using start.hasValues texts

/-- What holds of the texts of all lexemes but comments holds of all values. -/
theorem IsPhrase.hasValues {phrase : Phrase} (derived : IsPhrase phrase word trees)
    (texts : HasTexts holds word) : ∀ tree ∈ trees, tree.HasValues holds := by
  induction derived with
  | finish => simp
  | next _ _ _ _ ihFirst ihOthers =>
    rw [hasTexts_append, hasTexts_append] at texts
    exact List.forall_mem_cons.mpr ⟨ihFirst texts.1.2 _ (by simp), ihOthers texts.2⟩
  | header =>
    simp only [List.cons_append, hasTexts_keyword, hasTexts_identifier] at texts
    simpa using ⟨texts.2.1, texts.1⟩
  | function _ _ _ ih =>
    simp only [List.cons_append, List.append_assoc, hasTexts_keyword, hasTexts_identifier,
      hasTexts_mark, hasTexts_append] at texts
    obtain ⟨type, name, -, -, -, -, within, -⟩ := texts
    simpa using ⟨name, type, ih within⟩
  | declared derived =>
    rw [hasTexts_append] at texts
    simpa using derived.hasValues texts.1
  | plain _ ih => exact ih texts
  | body _ _ ih =>
    rw [hasTexts_append] at texts
    exact ih texts.2
  | ifThen asked _ ih =>
    simp only [List.cons_append, hasTexts_keyword, hasTexts_mark, hasTexts_append] at texts
    obtain ⟨-, -, condition, -, branch⟩ := texts
    simpa using ⟨asked.hasValues condition, ih branch _ (by simp)⟩
  | ifElse asked _ _ _ ihYes ihNo =>
    simp only [List.cons_append, List.append_assoc, hasTexts_keyword, hasTexts_mark,
      hasTexts_append] at texts
    obtain ⟨-, -, condition, -, branch, -, other⟩ := texts
    simpa using ⟨asked.hasValues condition, ihYes branch _ (by simp), ihNo other _ (by simp)⟩
  | whileLoop asked _ ih =>
    simp only [List.cons_append, hasTexts_keyword, hasTexts_mark, hasTexts_append] at texts
    obtain ⟨-, -, condition, -, repeated⟩ := texts
    simpa using ⟨asked.hasValues condition, ih repeated _ (by simp)⟩
  | forLoop begins asked stepped _ ih =>
    simp only [List.cons_append, List.append_assoc, hasTexts_keyword, hasTexts_mark,
      hasTexts_append] at texts
    obtain ⟨-, -, start, -, condition, -, step, -, repeated⟩ := texts
    simpa using ⟨begins.hasValues start, asked.hasValues condition, stepped.hasValues step,
      ih repeated _ (by simp)⟩
  | returning returned =>
    simp only [List.cons_append, hasTexts_keyword, hasTexts_append] at texts
    simpa using returned.hasValues texts.2.1
  | block _ ih =>
    simp only [List.cons_append, hasTexts_mark, hasTexts_append] at texts
    simpa using ih texts.2.1
  | expression evaluated =>
    rw [hasTexts_append] at texts
    simpa using evaluated.hasValues texts.1

/-- What holds of the texts of all lexemes but comments holds of all values of a program. -/
theorem IsProgram.hasValues (derived : IsProgram word tree) (texts : HasTexts holds word) :
    tree.HasValues holds := by
  obtain ⟨trees, rfl, phrase⟩ := derived
  exact hasValues_none.mpr (phrase.hasValues texts)

end Grammar

/-- Only comments go on over lines. -/
theorem HasShape.noFeed {kind : TokenKind} {text : List Char} (shape : HasShape kind text)
    (solid : kind ≠ .comment) : '\n' ∉ text := by
  cases shape with
  | keyword reserved =>
    intro feed
    have words : keywords.all (fun word => !word.toList.contains '\n') = true := by decide
    have here := List.all_eq_true.mp words _ reserved
    simp [feed] at here
  | identifier start parts =>
    rintro (_ | ⟨_, later⟩)
    · cases start
    · cases parts _ later
  | number start parts =>
    rintro (_ | ⟨_, later⟩)
    · cases start
    · cases parts _ later
  | sign known =>
    rintro (_ | ⟨_, ⟨⟩⟩)
    exact absurd known (by decide)
  | pair known =>
    rintro (_ | ⟨_, _ | ⟨_, ⟨⟩⟩⟩)
    · exact absurd (sign_of_pair known).1 (by decide)
    · simp [operatorPairs] at known
  | punctuation known =>
    rintro (_ | ⟨_, ⟨⟩⟩)
    exact absurd known (by decide)
  | lineComment | blockComment => exact absurd rfl solid

/-- The values of a source's tree are on one line each, even if its comments are not. -/
theorem isLinear_of_compile {source : String} {compilation : Compilation}
    (compiled : compile source = .ok compilation) : compilation.tree.IsLinear := by
  obtain ⟨scanned, parsed, -⟩ := compile_eq_ok_iff.mp compiled
  refine ((parse_eq_ok_iff_isProgram _ _).mp parsed).hasValues ?_
  intro lexeme member solid
  obtain ⟨token, here, rfl⟩ := List.mem_map.mp member
  exact HasShape.noFeed (isValid_of_tokenize scanned token here) solid

end SyntaxExplorer
