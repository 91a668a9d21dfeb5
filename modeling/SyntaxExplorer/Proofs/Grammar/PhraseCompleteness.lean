import SyntaxExplorer.Proofs.Grammar.ClauseCompleteness

namespace SyntaxExplorer.Grammar

open Rule

variable {word rest : List Lexeme} {tree : SyntaxTree} {trees : List SyntaxTree}

theorem dropWhile_comments {comments : List Lexeme} (skipped : AllComments comments)
    (next : ∀ lexeme ∈ rest.head?, lexeme.kind ≠ .comment) :
    (comments ++ rest).dropWhile (·.kind = .comment) = rest := by
  rw [List.dropWhile_append_of_pos fun lexeme member => decide_eq_true (skipped lexeme member)]
  cases rest with
  | nil => rfl
  | cons lexeme rest => exact List.dropWhile_cons_of_neg (by simpa using next lexeme rfl)

/-- A sequence of declarations ends before these lexemes, and never before a declaration. -/
structure Ends (closes : Option Lexeme → Bool) (rest : List Lexeme) : Prop where
  atEnd : closes none = true
  opens : ∀ lexeme, beginsDeclaration lexeme = true → closes (some lexeme) = false
  here : closes rest.head? = true
  brace : ∀ lexeme ∈ rest.head?, lexeme = mark "\x7d"

/-- What reading the word of a phrase comes to, whatever fits behind it. -/
def Reads : Phrase → List Lexeme → List SyntaxTree → Prop
  | .declarations, word, trees => ∀ closes rest, Ends closes rest →
    Takes (repeating (declarations closes declaration)) (word ++ rest) trees rest
  | .declaration, word, trees => ∀ tree rest, trees = [tree] → tree.Fits rest →
    Takes declaration (word ++ rest) tree rest
  | .body, word, trees => ∀ tree rest, trees = [tree] → tree.Fits rest →
    Takes statement (word ++ rest) tree rest
  | .statement, word, trees => ∀ tree rest, trees = [tree] → tree.Fits rest →
    Takes (statementHere declaration statement) (word ++ rest) tree rest

theorem Ends.noComment {closes : Option Lexeme → Bool} (ends : Ends closes rest) :
    ∀ lexeme ∈ rest.head?, lexeme.kind ≠ .comment := by
  intro lexeme next
  rw [ends.brace lexeme next]
  simp [mark]

theorem reads_finish {comments : List Lexeme} (skipped : AllComments comments) :
    Reads .declarations comments [] := by
  intro closes rest ends
  rw [declarations_eq ends.atEnd declaration_takesSome declaration_takesFront]
  refine takes_bind.mpr ⟨(), rest, takes_skipComments.mpr ?_, ?_⟩
  · exact (dropWhile_comments skipped ends.noComment).symm
  · rw [takes_ahead, if_pos ends.here]
    exact takes_succeed.mpr ⟨rfl, rfl⟩

/-- The lexeme behind a declaration begins a comment or a declaration, or it ends the sequence. -/
theorem declarations_head (derived : IsPhrase .declarations word trees) :
    ∀ lexeme ∈ word.head?, lexeme.kind = .comment ∨ beginsDeclaration lexeme = true := by
  intro lexeme next
  cases derived with
  | finish skipped => exact Or.inl (skipped lexeme (List.mem_of_mem_head? next))
  | @next comments _ _ _ _ skipped first =>
    obtain ⟨start, later, rfl, begins⟩ := declaration_begins first
    cases comments with
    | nil =>
      obtain rfl : start = lexeme := by simpa using next
      exact Or.inr begins
    | cons comment comments =>
      obtain rfl : comment = lexeme := by simpa using next
      exact Or.inl (skipped comment (List.mem_cons_self ..))

/-- Within a sequence a declaration is followed by a comment or by another one, so what fits it is a
matter of its own rule, or of the lexeme behind the sequence. -/
theorem fits_append {words : List Lexeme} (others : IsPhrase .declarations words trees)
    (apart : tree.isHeader = true → words.head? ≠ some (mark "\x7b"))
    (last : words = [] → tree.Fits rest) : tree.Fits (words ++ rest) := by
  cases words with
  | nil => exact last rfl
  | cons lexeme words =>
    refine ⟨apart, fun _ next => ?_⟩
    obtain rfl : lexeme = keyword "else" := by simpa using next
    rcases declarations_head others _ rfl with comment | declares
    · simp [keyword] at comment
    · exact (kind_of_beginsDeclaration declares).2.1 rfl

theorem Ends.fits {closes : Option Lexeme → Bool} (ends : Ends closes rest) : tree.Fits rest := by
  constructor
  · intro _ next
    have brace := ends.brace _ next
    simp [mark] at brace
  · intro _ next
    have brace := ends.brace _ next
    simp [mark, keyword] at brace

theorem reads_next {comments words : List Lexeme} (skipped : AllComments comments)
    (first : IsPhrase .declaration word [tree]) (others : IsPhrase .declarations words trees)
    (apart : tree.isHeader = true → words.head? ≠ some (mark "\x7b"))
    (readsFirst : Reads .declaration word [tree]) (readsOthers : Reads .declarations words trees) :
    Reads .declarations (comments ++ word ++ words) (tree :: trees) := by
  intro closes rest ends
  obtain ⟨start, later, rfl, begins⟩ := declaration_begins first
  have fits : tree.Fits (words ++ rest) := fits_append others apart fun _ => ends.fits
  have skips : (comments ++ start :: later ++ words ++ rest).dropWhile (·.kind = .comment) =
      start :: later ++ (words ++ rest) := by
    rw [List.append_assoc, List.append_assoc]
    refine dropWhile_comments skipped ?_
    rintro _ ⟨⟩
    exact (kind_of_beginsDeclaration begins).1
  rw [declarations_eq ends.atEnd declaration_takesSome declaration_takesFront]
  refine takes_bind.mpr ⟨(), _, takes_skipComments.mpr skips.symm, ?_⟩
  rw [takes_ahead, if_neg]
  · exact takes_bind.mpr ⟨tree, _, readsFirst tree _ rfl fits, takes_bind.mpr ⟨trees, rest,
      readsOthers closes rest ends, takes_pure.mpr ⟨rfl, rfl⟩⟩⟩
  · simp [ends.opens start begins]

/-- A block ends before its closing brace. -/
theorem ends_brace (rest : List Lexeme) :
    Ends (fun next => next = none || next = some (mark "\x7d")) (mark "\x7d" :: rest) where
  atEnd := rfl
  opens lexeme begins := by simp [(kind_of_beginsDeclaration begins).2.2]
  here := rfl
  brace := by
    rintro _ ⟨⟩
    rfl

/-- A program ends where the input does. -/
theorem ends_nil : Ends (· = none) [] := by
  constructor <;> simp

theorem blockRest_complete (reads : Reads .declarations word trees) :
    Takes (blockRest declaration) (word ++ mark "\x7d" :: rest) ⟨.block, none, trees⟩ rest :=
  takes_bind.mpr ⟨trees, mark "\x7d" :: rest, reads _ _ (ends_brace rest), takes_bind.mpr ⟨(), rest,
    takes_expectMark.mpr rfl, takes_pure.mpr ⟨rfl, rfl⟩⟩⟩

/-- A type keyword, a name, and what the rule behind them makes of the rest. -/
theorem declaration_of_type {type name : String} {lexemes : List Lexeme} (known : type ∈ typeNames)
    (takes : Takes (take (· = mark "(") (fun _ => functionRest declaration (keyword type) name) (do
      let declared ← variableRest (keyword type) name
      expectMark ";" .afterVariableDeclaration
      return declared)) lexemes tree rest) :
    Takes declaration (keyword type :: ⟨.identifier, name⟩ :: lexemes) tree rest := by
  rw [declaration_eq]
  refine takes_bind.mpr ⟨(), keyword type :: ⟨.identifier, name⟩ :: lexemes,
    takes_skipComments.mpr (List.dropWhile_cons_of_neg (by simp [keyword])).symm, ?_⟩
  rw [takes_take_of_holds (isKeywordIn_keyword.mpr known)]
  exact takes_bind.mpr ⟨name, lexemes, takes_expectIdentifier.mpr rfl, takes⟩

theorem reads_header {type name : String} {parameters : List Lexeme} (known : type ∈ typeNames)
    (matched : Balanced parameters) :
    Reads .declaration
      (keyword type :: ⟨.identifier, name⟩ :: mark "(" :: parameters ++ [mark ")"])
      [⟨.functionDeclaration, some name, [.leaf .type type, ⟨.parameters, none, []⟩]⟩] := by
  rintro _ rest ⟨⟩ fits
  have bare : rest.head? ≠ some (mark "\x7b") := fits.1 rfl
  simp only [List.cons_append, List.append_assoc, List.nil_append]
  apply declaration_of_type known
  rw [takes_take_of_holds (decide_eq_true rfl)]
  refine takes_bind.mpr ⟨(), _, takes_note.mpr rfl, takes_bind.mpr ⟨(), rest,
    parameters_complete matched, takes_take_eq.mpr (Or.inr ⟨bare, ?_⟩)⟩⟩
  exact takes_succeed.mpr ⟨rfl, rfl⟩

theorem reads_function {type name : String} {parameters : List Lexeme} (known : type ∈ typeNames)
    (matched : Balanced parameters) (reads : Reads .declarations word trees) :
    Reads .declaration
      (keyword type :: ⟨.identifier, name⟩ :: mark "(" :: parameters ++
        mark ")" :: mark "\x7b" :: word ++ [mark "\x7d"])
      [⟨.functionDeclaration, some name,
        [.leaf .type type, ⟨.parameters, none, []⟩, ⟨.block, none, trees⟩]⟩] := by
  rintro _ rest ⟨⟩ _
  simp only [List.cons_append, List.append_assoc, List.nil_append]
  apply declaration_of_type known
  rw [takes_take_of_holds (decide_eq_true rfl)]
  refine takes_bind.mpr ⟨(), _, takes_note.mpr rfl, takes_bind.mpr ⟨(), _,
    parameters_complete matched, ?_⟩⟩
  rw [takes_take_of_holds (decide_eq_true rfl)]
  exact takes_bind.mpr ⟨_, rest, blockRest_complete reads, takes_pure.mpr ⟨rfl, rfl⟩⟩

theorem reads_declared (derived : IsVariable typeNames word tree) :
    Reads .declaration (word ++ [mark ";"]) [tree] := by
  rintro _ rest ⟨⟩ _
  obtain ⟨type, name, later, known, rfl⟩ := derived.begins
  have read := @variableRest_complete later rest _ _ _ _ derived
  simp only [List.cons_append, List.append_assoc, List.nil_append]
  apply declaration_of_type known
  rw [takes_take_of_not]
  · exact takes_bind.mpr ⟨tree, _, read, takes_bind.mpr ⟨(), rest, takes_expectMark.mpr rfl,
      takes_pure.mpr ⟨rfl, rfl⟩⟩⟩
  · intro lexeme next
    cases derived with
    | plain =>
      obtain rfl : mark ";" = lexeme := by simpa using next
      decide
    | initialized =>
      obtain rfl : operator "=" = lexeme := by simpa using next
      decide

/-- A statement behind comments is read past them. -/
theorem anyStatement_complete {comments : List Lexeme} (skipped : AllComments comments)
    (derived : IsPhrase .statement word [tree]) (reads : Reads .statement word [tree])
    (fits : tree.Fits rest) :
    Takes (anyStatement declaration statement) (comments ++ word ++ rest) tree rest := by
  obtain ⟨first, later, rfl, begins⟩ := statement_begins derived
  have skips : (comments ++ first :: later ++ rest).dropWhile (·.kind = .comment) =
      first :: later ++ rest := by
    rw [List.append_assoc]
    refine dropWhile_comments skipped ?_
    rintro _ ⟨⟩
    exact (kind_of_beginsStatement begins).1
  refine takes_bind.mpr ⟨(), _, takes_skipComments.mpr skips.symm, ?_⟩
  rw [takes_ahead, if_neg (by simp)]
  exact reads tree rest rfl fits

theorem reads_plain (derived : IsPhrase .statement word [tree])
    (reads : Reads .statement word [tree]) : Reads .declaration word [tree] := by
  rintro _ rest ⟨⟩ fits
  have statement := @anyStatement_complete _ rest _ [] .nil derived reads fits
  obtain ⟨first, later, rfl, begins⟩ := statement_begins derived
  obtain ⟨noComment, noType, -⟩ := kind_of_beginsStatement begins
  rw [declaration_eq]
  refine takes_bind.mpr ⟨(), first :: later ++ rest, takes_skipComments.mpr
    (List.dropWhile_cons_of_neg (by simpa using noComment)).symm, ?_⟩
  rw [takes_take_of_not (by rintro _ ⟨⟩; exact noType)]
  exact statement

theorem reads_body {comments : List Lexeme} (skipped : AllComments comments)
    (derived : IsPhrase .statement word [tree]) (reads : Reads .statement word [tree]) :
    Reads .body (comments ++ word) [tree] := by
  rintro _ rest ⟨⟩ fits
  rw [statement_eq]
  exact anyStatement_complete skipped derived reads fits

/-- What the first lexeme decides comes after what is only counted and noted. -/
theorem statementHere_complete {lexemes : List Lexeme}
    (takes : Takes (take (· = keyword "if") (fun _ => ifRest statement) <|
      take (· = keyword "while") (fun _ => whileRest statement) <|
      take (· = keyword "for") (fun _ => forRest statement) <|
      take (· = keyword "return") (fun _ => returnRest) <|
      take (· = mark "\x7b") (fun _ => blockRest declaration)
        expressionStatement) lexemes tree rest) :
    Takes (statementHere declaration statement) lexemes tree rest :=
  takes_bind.mpr ⟨lexemes.length, lexemes, takes_left.mpr ⟨rfl, rfl⟩,
    takes_bind.mpr ⟨(), lexemes, takes_note.mpr rfl, takes⟩⟩

theorem isHeader_of_statement (derived : IsPhrase .statement word [tree]) :
    tree.isHeader = false := by
  cases derived with
  | expression evaluated => exact SyntaxTree.isHeader_of_kind (evaluated.kind_ne (by decide))
  | ifThen | ifElse | whileLoop | forLoop | returning | block => rfl

/-- Under another statement there are statements only, so just an `else` may not fit. -/
theorem body_fits (derived : IsPhrase .body word [tree])
    (alone : tree.acceptsElse = true → rest.head? ≠ some (keyword "else")) : tree.Fits rest := by
  refine ⟨fun header => ?_, alone⟩
  cases derived with
  | body _ derived =>
    rw [isHeader_of_statement derived] at header
    cases header

theorem reads_ifThen {question : List Lexeme} {test yes : SyntaxTree}
    (asked : IsExpression .any question test) (derived : IsPhrase .body word [yes])
    (branch : Reads .body word [yes]) :
    Reads .statement (keyword "if" :: mark "(" :: question ++ mark ")" :: word)
      [⟨.ifStatement, none, [test, yes]⟩] := by
  rintro _ rest ⟨⟩ fits
  have alone : rest.head? ≠ some (keyword "else") := fits.2 rfl
  apply statementHere_complete
  simp only [List.cons_append, List.append_assoc]
  rw [takes_take_of_holds (decide_eq_true rfl)]
  refine takes_bind.mpr ⟨test, _, condition_complete asked, takes_bind.mpr ⟨yes, rest,
    branch yes rest rfl (body_fits derived fun _ => alone), takes_take_eq.mpr (Or.inr ⟨alone, ?_⟩)⟩⟩
  exact takes_succeed.mpr ⟨rfl, rfl⟩

theorem reads_ifElse {question words : List Lexeme} {test yes no : SyntaxTree}
    (asked : IsExpression .any question test) (derived : IsPhrase .body word [yes])
    (nearest : yes.acceptsElse = false) (derivedNo : IsPhrase .body words [no])
    (branch : Reads .body word [yes]) (other : Reads .body words [no]) :
    Reads .statement
      (keyword "if" :: mark "(" :: question ++ mark ")" :: word ++ keyword "else" :: words)
      [⟨.ifStatement, none, [test, yes, no]⟩] := by
  rintro _ rest ⟨⟩ fits
  have fitsYes : yes.Fits (keyword "else" :: (words ++ rest)) :=
    body_fits derived fun accepts => by simp [nearest] at accepts
  have fitsNo : no.Fits rest := body_fits derivedNo fits.2
  apply statementHere_complete
  simp only [List.cons_append, List.append_assoc]
  rw [takes_take_of_holds (decide_eq_true rfl)]
  refine takes_bind.mpr ⟨test, _, condition_complete asked, takes_bind.mpr ⟨yes, _,
    branch yes _ rfl fitsYes, ?_⟩⟩
  rw [takes_take_of_holds (decide_eq_true rfl)]
  exact takes_bind.mpr ⟨no, rest, other no rest rfl fitsNo, takes_pure.mpr ⟨rfl, rfl⟩⟩

theorem reads_whileLoop {question : List Lexeme} {test body : SyntaxTree}
    (asked : IsExpression .any question test) (derived : IsPhrase .body word [body])
    (repeated : Reads .body word [body]) :
    Reads .statement (keyword "while" :: mark "(" :: question ++ mark ")" :: word)
      [⟨.whileStatement, none, [test, body]⟩] := by
  rintro _ rest ⟨⟩ fits
  apply statementHere_complete
  simp only [List.cons_append, List.append_assoc]
  rw [takes_take_of_not (by rintro _ ⟨⟩; decide), takes_take_of_holds (decide_eq_true rfl)]
  exact takes_bind.mpr ⟨test, _, condition_complete asked, takes_bind.mpr ⟨body, rest,
    repeated body rest rfl (body_fits derived fits.2), takes_pure.mpr ⟨rfl, rfl⟩⟩⟩

theorem reads_forLoop {start question step : List Lexeme} {init test increment : List SyntaxTree}
    {body : SyntaxTree} (begins : IsForInit start init) (asked : IsOptional question test)
    (stepped : IsOptional step increment) (derived : IsPhrase .body word [body])
    (repeated : Reads .body word [body]) :
    Reads .statement
      (keyword "for" :: mark "(" :: start ++ mark ";" :: question ++ mark ";" :: step ++
        mark ")" :: word)
      [⟨.forStatement, none, [⟨.forInit, none, init⟩, ⟨.forCondition, none, test⟩,
        ⟨.forIncrement, none, increment⟩, body]⟩] := by
  rintro _ rest ⟨⟩ fits
  apply statementHere_complete
  simp only [List.cons_append, List.append_assoc]
  rw [takes_take_of_not (by rintro _ ⟨⟩; decide), takes_take_of_not (by rintro _ ⟨⟩; decide),
    takes_take_of_holds (decide_eq_true rfl)]
  refine takes_bind.mpr ⟨(), _, takes_expectMark.mpr rfl, ?_⟩
  refine takes_bind.mpr ⟨_, _, forInit_complete begins, ?_⟩
  refine takes_bind.mpr ⟨test, _, expressionUnless_complete asked (by decide), ?_⟩
  refine takes_bind.mpr ⟨(), _, takes_expectMark.mpr rfl, ?_⟩
  refine takes_bind.mpr ⟨increment, _, expressionUnless_complete stepped (by decide), ?_⟩
  refine takes_bind.mpr ⟨(), _, takes_expectMark.mpr rfl, ?_⟩
  exact takes_bind.mpr ⟨body, rest, repeated body rest rfl (body_fits derived fits.2),
    takes_pure.mpr ⟨rfl, rfl⟩⟩

theorem reads_returning (returned : IsOptional word trees) :
    Reads .statement (keyword "return" :: word ++ [mark ";"]) [⟨.returnStatement, none, trees⟩] := by
  rintro _ rest ⟨⟩ _
  apply statementHere_complete
  simp only [List.cons_append, List.append_assoc, List.nil_append]
  rw [takes_take_of_not (by rintro _ ⟨⟩; decide), takes_take_of_not (by rintro _ ⟨⟩; decide),
    takes_take_of_not (by rintro _ ⟨⟩; decide), takes_take_of_holds (decide_eq_true rfl)]
  exact takes_bind.mpr ⟨trees, _, expressionUnless_complete returned (by decide),
    takes_bind.mpr ⟨(), rest, takes_expectMark.mpr rfl, takes_pure.mpr ⟨rfl, rfl⟩⟩⟩

theorem reads_block (within : Reads .declarations word trees) :
    Reads .statement (mark "\x7b" :: word ++ [mark "\x7d"]) [⟨.block, none, trees⟩] := by
  rintro _ rest ⟨⟩ _
  apply statementHere_complete
  simp only [List.cons_append, List.append_assoc, List.nil_append]
  rw [takes_take_of_not (by rintro _ ⟨⟩; decide), takes_take_of_not (by rintro _ ⟨⟩; decide),
    takes_take_of_not (by rintro _ ⟨⟩; decide), takes_take_of_not (by rintro _ ⟨⟩; decide),
    takes_take_of_holds (decide_eq_true rfl)]
  exact blockRest_complete within

theorem reads_expression (evaluated : IsExpression .any word tree) :
    Reads .statement (word ++ [mark ";"]) [tree] := by
  rintro _ rest ⟨⟩ _
  obtain ⟨first, later, rfl, begins⟩ := evaluated.begins
  obtain ⟨noKeyword, -, onlyMark⟩ := kind_ne_of_beginsExpression begins
  have other (text : String) : first ≠ keyword text := by
    rintro rfl
    exact noKeyword rfl
  have noBrace : first ≠ mark "\x7b" := by
    rintro rfl
    simpa [mark] using onlyMark rfl
  have read := expression_complete evaluated (stops_mark .any ";" rest)
  apply statementHere_complete
  simp only [List.cons_append, List.append_assoc, List.nil_append]
  rw [takes_take_of_not, takes_take_of_not, takes_take_of_not, takes_take_of_not, takes_take_of_not]
  · exact takes_bind.mpr ⟨tree, _, read, takes_bind.mpr ⟨(), rest, takes_expectMark.mpr rfl,
      takes_pure.mpr ⟨rfl, rfl⟩⟩⟩
  · rintro _ ⟨⟩; exact decide_eq_false noBrace
  all_goals rintro _ ⟨⟩; exact decide_eq_false (other _)

theorem IsPhrase.reads {phrase : Phrase} (derived : IsPhrase phrase word trees) :
    Reads phrase word trees := by
  induction derived with
  | finish skipped => exact reads_finish skipped
  | next skipped first others apart ihFirst ihOthers =>
    exact reads_next skipped first others apart ihFirst ihOthers
  | header known matched => exact reads_header known matched
  | function known matched _ ih => exact reads_function known matched ih
  | declared derived => exact reads_declared derived
  | plain derived ih => exact reads_plain derived ih
  | body skipped derived ih => exact reads_body skipped derived ih
  | ifThen asked branch ih => exact reads_ifThen asked branch ih
  | ifElse asked branch nearest other ihBranch ihOther =>
    exact reads_ifElse asked branch nearest other ihBranch ihOther
  | whileLoop asked repeated ih => exact reads_whileLoop asked repeated ih
  | forLoop begins asked stepped repeated ih => exact reads_forLoop begins asked stepped repeated ih
  | returning returned => exact reads_returning returned
  | block _ ih => exact reads_block ih
  | expression evaluated => exact reads_expression evaluated

/-- A program that is derived is read to its end. -/
theorem program_complete (derived : IsProgram word tree) : Takes program word tree [] := by
  obtain ⟨trees, rfl, derived⟩ := derived
  have read := derived.reads _ _ ends_nil
  rw [List.append_nil] at read
  exact takes_bind.mpr ⟨trees, [], read, takes_pure.mpr ⟨rfl, rfl⟩⟩

end SyntaxExplorer.Grammar
