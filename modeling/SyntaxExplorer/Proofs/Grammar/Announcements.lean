import Mathlib.Data.List.Forall2
import SyntaxExplorer.Proofs.Grammar.Notes
import SyntaxExplorer.Proofs.Grammar.PhraseSoundness
import SyntaxExplorer.Proofs.Tree.Announced

namespace SyntaxExplorer.Grammar

open Rule SyntaxTree

variable {all lexemes rest word : List Lexeme} {events : List Event} {tree : SyntaxTree}
  {trees : List SyntaxTree} {inner statement : Rule SyntaxTree} {stated : Bool}

/-- What an event says of the node that it announces. A statement is known by where it begins among all
the lexemes, and its node is that of a statement which begins there. -/
def Event.Tells (all : List Lexeme) : Event → SyntaxTree → Prop
  | .functionDeclaration name, tree => tree.kind = .functionDeclaration ∧ tree.value = some name
  | .variableDeclaration name, tree => tree.kind = .variableDeclaration ∧ tree.value = some name
  | .statement left, tree =>
    ∃ word rest, word ++ rest <:+ all ∧ left = (word ++ rest).length ∧ IsPhrase .statement word [tree]

/-- The rule notes what its tree announces, wherever it reads among all the lexemes. -/
def Announces (all : List Lexeme) (stated : Bool) (rule : Rule SyntaxTree) : Prop :=
  ∀ lexemes events tree rest, lexemes <:+ all → Notes rule lexemes events tree rest →
    List.Forall₂ (Event.Tells all) events (tree.announced stated)

section Trees

/-- No statement is a declaration. -/
theorem IsPhrase.isDeclaration_eq_false (derived : IsPhrase .statement word [tree]) :
    tree.kind.isDeclaration = false := by
  cases derived with
  | expression evaluated =>
    have notFunction : tree.kind ≠ .functionDeclaration := evaluated.kind_ne (by decide)
    have notVariable : tree.kind ≠ .variableDeclaration := evaluated.kind_ne (by decide)
    simp [NodeKind.isDeclaration, notFunction, notVariable]
  | ifThen | ifElse | whileLoop | forLoop | returning | block => rfl

theorem IsPhrase.ne_nil (derived : IsPhrase .statement word [tree]) : word ≠ [] := by
  cases derived <;> simp

/-- Nothing in an expression is announced. -/
theorem IsExpression.announced_eq_nil {binding : Binding} (derived : IsExpression binding word tree) :
    tree.announced false = [] := by
  induction derived with
  | number | name => rfl
  | operand _ ih | tighter _ ih | operation _ ih => exact ih
  | grouping _ ih | unary _ _ ih | assignment _ ih =>
    exact announced_of_silent rfl (fun _ => rfl) (List.forall_mem_singleton.mpr ih)
  | binary _ _ _ ihFirst ihSecond =>
    exact announced_of_silent rfl (fun _ => rfl)
      (List.forall_mem_cons.mpr ⟨ihFirst, List.forall_mem_singleton.mpr ihSecond⟩)

theorem IsOptional.announced_eq_nil (optional : IsOptional word trees) :
    ∀ tree ∈ trees, tree.announced false = [] := by
  cases optional with
  | absent => exact List.forall_mem_nil _
  | present derived => exact List.forall_mem_singleton.mpr derived.announced_eq_nil

end Trees

namespace Announces

theorem fail (cause : Option Lexeme → Cause) : Announces all stated (Rule.fail cause) :=
  fun _ _ _ _ _ notes => absurd notes.takes not_takes_fail

theorem repeating {rule : Nat → Rule SyntaxTree} (each : ∀ rounds, Announces all stated (rule rounds)) :
    Announces all stated (Rule.repeating rule) :=
  fun lexemes => each lexemes.length lexemes

theorem take {holds : Lexeme → Bool} {taken : Lexeme → Rule SyntaxTree}
    {otherwise : Rule SyntaxTree} (one : ∀ lexeme, Announces all stated (taken lexeme))
    (two : Announces all stated otherwise) : Announces all stated (Rule.take holds taken otherwise) := by
  intro lexemes events tree rest inside notes
  rcases notes_take notes with ⟨lexeme, later, rfl, -, notes⟩ | notes
  · exact one lexeme _ _ _ _ ((List.suffix_cons _ _).trans inside) notes
  · exact two _ _ _ _ inside notes

theorem ahead {holds : Option Lexeme → Bool} {yes no : Rule SyntaxTree}
    (one : Announces all stated yes) (two : Announces all stated no) :
    Announces all stated (Rule.ahead holds yes no) := by
  intro lexemes events tree rest inside notes
  rcases notes_ahead notes with notes | notes
  · exact one _ _ _ _ inside notes
  · exact two _ _ _ _ inside notes

/-- What is read in silence first may stand anywhere. -/
theorem behind {α : Type} {first : Rule α} {second : α → Rule SyntaxTree} (front : TakesFront first)
    (silent : Silent first) (later : ∀ value, Announces all stated (second value)) :
    Announces all stated (first >>= second) := by
  intro lexemes events tree rest inside notes
  obtain ⟨value, middle, takes, notes⟩ := silent.notes_bind notes
  exact later value _ _ _ _ ((front.suffix takes).trans inside) notes

/-- The mark that ends a phrase is not told, nor is a node that only wraps another. -/
theorem closed {rule : Rule SyntaxTree} {text : String} {place : Place} {wrap : SyntaxTree → SyntaxTree}
    (same : ∀ tree, (wrap tree).announced stated = tree.announced stated)
    (announces : Announces all stated rule) :
    Announces all stated (rule >>= fun tree => expectMark text place >>= fun _ => pure (wrap tree)) := by
  intro lexemes events tree rest inside notes
  obtain ⟨value, middle, read, ended⟩ :=
    Silent.bind_notes (fun _ => .bind (.expectMark _ _) fun _ => .pure _) notes
  obtain ⟨_, last, -, built⟩ := takes_bind.mp ended
  obtain ⟨rfl, -⟩ := takes_pure.mp built
  rw [same]
  exact announces _ _ _ _ inside read

end Announces

section Clauses

theorem expression_announces : Announces all false expression := by
  intro lexemes events tree rest _ notes
  obtain ⟨word, -, derived⟩ := expression_readsExpression _ _ _ notes.takes
  rw [expression_silent.notes notes, derived.announced_eq_nil]
  exact .nil

/-- A variable announces itself wherever it stands, and nothing else. -/
theorem variableRest_announces (type : Lexeme) (name : String) :
    Announces all stated (variableRest type name) := by
  intro lexemes events tree rest _ notes
  obtain ⟨before, after, _, start, rfl, noted, declared⟩ := notes_bind notes
  obtain ⟨rfl, -⟩ := notes_note noted
  suffices itself : tree.kind = .variableDeclaration ∧ tree.value = some name ∧
      after = [] ∧ ∀ child ∈ tree.children, child.announced false = [] by
    obtain ⟨declares, named, rfl, silent⟩ := itself
    rw [announced_declaration (by rw [declares]; rfl), declares,
      announcedBelow_eq_nil silent (fun _ => rfl)]
    exact .cons ⟨declares, named⟩ .nil
  rcases notes_take declared with ⟨sign, later, rfl, -, assigned⟩ | ended
  · obtain ⟨value, middle, read, built⟩ := expression_silent.notes_bind assigned
    obtain ⟨word, -, derived⟩ := expression_readsExpression _ _ _ read
    obtain ⟨rfl, -⟩ := takes_pure.mp built.takes
    have initial : announced false ⟨.initialization, none, [value]⟩ = [] :=
      announced_of_silent rfl (fun _ => rfl) (List.forall_mem_singleton.mpr derived.announced_eq_nil)
    exact ⟨rfl, rfl, (Silent.pure _).notes built,
      List.forall_mem_cons.mpr ⟨rfl, List.forall_mem_singleton.mpr initial⟩⟩
  · obtain ⟨rfl, -⟩ := takes_succeed.mp ended.takes
    exact ⟨rfl, rfl, (Silent.succeed _).notes ended, List.forall_mem_singleton.mpr rfl⟩

/-- The first clause of a `for` statement announces the variable that it declares. -/
theorem forInit_announces : Announces all false forInit := by
  have wrapped (child : SyntaxTree) :
      announced false ⟨.forInit, none, [child]⟩ = child.announced false := by
    rw [announced_other rfl]
    exact List.append_nil _
  have empty : Announces all false (succeed ⟨.forInit, none, []⟩) := by
    intro lexemes events tree rest _ notes
    obtain ⟨rfl, -⟩ := takes_succeed.mp notes.takes
    rw [(Silent.succeed _).notes notes]
    exact .nil
  exact .take (fun _ => empty) <|
    .take (fun type => .behind (.expectIdentifier _) (.expectIdentifier _) fun name =>
      .closed wrapped (variableRest_announces type name)) <|
    .closed wrapped expression_announces

end Clauses

section Phrases

/-- The declarations of a sequence are announced one after the other. -/
theorem declarations_announces {closes : Option Lexeme → Bool} (front : TakesFront inner)
    (announces : Announces all true inner) (rounds : Nat) (inside : lexemes <:+ all)
    (notes : Notes (declarations closes inner rounds) lexemes events trees rest) :
    List.Forall₂ (Event.Tells all) events (trees.flatMap (announced true)) := by
  induction rounds generalizing lexemes events trees with
  | zero =>
    obtain ⟨rfl, -⟩ := takes_succeed.mp notes.takes
    rw [(Silent.succeed _).notes notes]
    exact .nil
  | succ rounds ih =>
    obtain ⟨_, start, skipped, choice⟩ := Silent.skipComments.notes_bind notes
    have inside := (TakesFront.skipComments.suffix skipped).trans inside
    rcases notes_ahead choice with ended | more
    · obtain ⟨rfl, -⟩ := takes_succeed.mp ended.takes
      rw [(Silent.succeed _).notes ended]
      exact .nil
    · obtain ⟨before, after, first, middle, rfl, read, more⟩ := notes_bind more
      obtain ⟨others, last, again, built⟩ := Silent.bind_notes (fun _ => .pure _) more
      obtain ⟨rfl, rfl⟩ := takes_pure.mp built
      have here := announces _ _ _ _ inside read
      have later := ih ((front.suffix read.takes).trans inside) again
      rw [List.flatMap_cons]
      exact List.rel_append here later

/-- A block announces what it holds. -/
theorem blockRest_announces (front : TakesFront inner) (announces : Announces all true inner) :
    Announces all false (blockRest inner) := by
  intro lexemes events tree rest inside notes
  obtain ⟨trees, middle, read, closed⟩ :=
    Silent.bind_notes (fun _ => .bind (.expectMark _ _) fun _ => .pure _) notes
  obtain ⟨_, last, -, built⟩ := takes_bind.mp closed
  obtain ⟨rfl, -⟩ := takes_pure.mp built
  rw [announced_other rfl, announcedBelow_of_statements fun _ => rfl]
  exact declarations_announces front announces lexemes.length inside read

/-- A function announces itself before what its body holds. Its body is no statement. -/
theorem functionRest_announces (front : TakesFront inner) (announces : Announces all true inner)
    (type : Lexeme) (name : String) : Announces all stated (functionRest inner type name) := by
  intro lexemes events tree rest inside notes
  obtain ⟨before, after, _, start, rfl, noted, listed⟩ := notes_bind notes
  obtain ⟨rfl, rfl⟩ := notes_note noted
  obtain ⟨_, middle, skipped, choice⟩ :=
    (Silent.repeating (parametersRest_silent · 0)).notes_bind listed
  have inside := ((TakesFront.repeating (parametersRest_takesFront · 0)).suffix skipped).trans inside
  suffices itself : tree.kind = .functionDeclaration ∧ tree.value = some name ∧
      List.Forall₂ (Event.Tells all) after (announcedBelow tree.kind 0 tree.children) by
    obtain ⟨declared, named, below⟩ := itself
    rw [announced_declaration (by rw [declared]; rfl)]
    exact .cons ⟨declared, named⟩ below
  rcases notes_take choice with ⟨mark, later, rfl, -, bodied⟩ | ended
  · obtain ⟨body, last, read, built⟩ := Silent.bind_notes (fun _ => .pure _) bodied
    obtain ⟨rfl, -⟩ := takes_pure.mp built
    have told := blockRest_announces front announces _ _ _ _ ((List.suffix_cons _ _).trans inside) read
    refine ⟨rfl, rfl, ?_⟩
    have below : announcedBelow .functionDeclaration 0
        [.leaf .type type.text, ⟨.parameters, none, []⟩, body] = body.announced false :=
      List.append_nil _
    rw [← below] at told
    exact told
  · obtain ⟨rfl, -⟩ := takes_succeed.mp ended.takes
    rw [(Silent.succeed _).notes ended]
    exact ⟨rfl, rfl, .nil⟩

/-- An `if` announces its branches. -/
theorem ifRest_announces (front : TakesFront statement) (announces : Announces all true statement) :
    Announces all false (ifRest statement) := by
  intro lexemes events tree rest inside notes
  obtain ⟨test, start, asked, more⟩ := (condition_silent _ _).notes_bind notes
  have inside := ((condition_takesFront _ _).suffix asked).trans inside
  obtain ⟨word, -, tested⟩ := condition_sound asked
  obtain ⟨before, after, yes, middle, rfl, read, choice⟩ := notes_bind more
  have told := announces _ _ _ _ inside read
  have inside := (front.suffix read.takes).trans inside
  rcases notes_take choice with ⟨lexeme, later, rfl, -, other⟩ | ended
  · obtain ⟨no, last, read', built⟩ := Silent.bind_notes (fun _ => .pure _) other
    obtain ⟨rfl, -⟩ := takes_pure.mp built
    have told' := announces _ _ _ _ ((List.suffix_cons _ _).trans inside) read'
    have below : announced false ⟨.ifStatement, none, [test, yes, no]⟩ =
        yes.announced true ++ no.announced true := by
      rw [announced_other rfl]
      simp [announcedBelow, NodeKind.holdsStatement, tested.announced_eq_nil]
    rw [below]
    exact List.rel_append told told'
  · obtain ⟨rfl, -⟩ := takes_succeed.mp ended.takes
    have below : announced false ⟨.ifStatement, none, [test, yes]⟩ = yes.announced true := by
      rw [announced_other rfl]
      simp [announcedBelow, NodeKind.holdsStatement, tested.announced_eq_nil]
    rw [(Silent.succeed _).notes ended, List.append_nil, below]
    exact told

/-- A `while` announces its body. -/
theorem whileRest_announces (announces : Announces all true statement) :
    Announces all false (whileRest statement) := by
  intro lexemes events tree rest inside notes
  obtain ⟨test, start, asked, more⟩ := (condition_silent _ _).notes_bind notes
  have inside := ((condition_takesFront _ _).suffix asked).trans inside
  obtain ⟨word, -, tested⟩ := condition_sound asked
  obtain ⟨body, middle, read, built⟩ := Silent.bind_notes (fun _ => .pure _) more
  obtain ⟨rfl, -⟩ := takes_pure.mp built
  have below : announced false ⟨.whileStatement, none, [test, body]⟩ = body.announced true := by
    rw [announced_other rfl]
    simp [announcedBelow, NodeKind.holdsStatement, tested.announced_eq_nil]
  rw [below]
  exact announces _ _ _ _ inside read

/-- A `for` announces what its first clause declares, and then its body. -/
theorem forRest_announces (announces : Announces all true statement) :
    Announces all false (forRest statement) := by
  intro lexemes events tree rest inside notes
  obtain ⟨_, opened, opening, begun⟩ := (Silent.expectMark _ _).notes_bind notes
  have inside := ((TakesFront.expectMark _ _).suffix opening).trans inside
  obtain ⟨before, after, init, afterInit, rfl, initial, asks⟩ := notes_bind begun
  have told := forInit_announces _ _ _ _ inside initial
  have inside := (forInit_takesFront.suffix initial.takes).trans inside
  obtain ⟨test, afterTest, tested, separated⟩ := (expressionUnless_silent _).notes_bind asks
  have inside := ((expressionUnless_takesFront _).suffix tested).trans inside
  obtain ⟨question, -, asked⟩ := expressionUnless_sound tested
  obtain ⟨_, separator, semicolon, steps⟩ := (Silent.expectMark _ _).notes_bind separated
  have inside := ((TakesFront.expectMark _ _).suffix semicolon).trans inside
  obtain ⟨increment, afterStep, incremented, closes⟩ := (expressionUnless_silent _).notes_bind steps
  have inside := ((expressionUnless_takesFront _).suffix incremented).trans inside
  obtain ⟨step, -, stepped⟩ := expressionUnless_sound incremented
  obtain ⟨_, closed, closing, runs⟩ := (Silent.expectMark _ _).notes_bind closes
  have inside := ((TakesFront.expectMark _ _).suffix closing).trans inside
  obtain ⟨body, last, read, built⟩ := Silent.bind_notes (fun _ => .pure _) runs
  obtain ⟨rfl, -⟩ := takes_pure.mp built
  have below : announced false ⟨.forStatement, none,
      [init, ⟨.forCondition, none, test⟩, ⟨.forIncrement, none, increment⟩, body]⟩ =
        init.announced false ++ body.announced true := by
    have condition : announced false ⟨.forCondition, none, test⟩ = [] :=
      announced_of_silent rfl (fun _ => rfl) asked.announced_eq_nil
    have next : announced false ⟨.forIncrement, none, increment⟩ = [] :=
      announced_of_silent rfl (fun _ => rfl) stepped.announced_eq_nil
    rw [announced_other rfl]
    simp [announcedBelow, NodeKind.holdsStatement, condition, next]
  rw [below]
  exact List.rel_append told (announces _ _ _ _ inside read)

theorem returnRest_announces : Announces all false returnRest := by
  intro lexemes events tree rest _ notes
  obtain ⟨value, middle, read, closed⟩ := takes_bind.mp notes.takes
  obtain ⟨_, last, -, built⟩ := takes_bind.mp closed
  obtain ⟨rfl, -⟩ := takes_pure.mp built
  obtain ⟨word, -, returned⟩ := expressionUnless_sound read
  rw [returnRest_silent.notes notes, announced_of_silent rfl (fun _ => rfl) returned.announced_eq_nil]
  exact .nil

theorem expressionStatement_announces : Announces all false expressionStatement :=
  .closed (fun _ => rfl) expression_announces

section Nested

variable (some : TakesSome inner) (front : TakesFront inner) (frontStatement : TakesFront statement)
  (sound : ReadsDeclaration inner) (soundStatement : ReadsBody statement)
  (announces : Announces all true inner) (announcesStatement : Announces all true statement)

include some front frontStatement sound soundStatement announces announcesStatement

/-- A statement announces itself before what stands in it. -/
theorem statementHere_announces : Announces all true (statementHere inner statement) := by
  intro lexemes events tree rest inside notes
  -- The event knows only the place; that the node's own statement begins there is known from its derivation.
  obtain ⟨word, rfl, -, derived⟩ := statementHere_sound sound some front soundStatement notes.takes
  obtain ⟨count, here, counted, more⟩ := Silent.left.notes_bind notes
  obtain ⟨rfl, rfl⟩ := takes_left.mp counted
  obtain ⟨before, after, _, start, rfl, noted, chosen⟩ := notes_bind more
  obtain ⟨rfl, rfl⟩ := notes_note noted
  have choice : Announces all false
      (take (· = keyword "if") (fun _ => ifRest statement) <|
        take (· = keyword "while") (fun _ => whileRest statement) <|
        take (· = keyword "for") (fun _ => forRest statement) <|
        take (· = keyword "return") (fun _ => returnRest) <|
        take (· = mark "\x7b") (fun _ => blockRest inner) expressionStatement) :=
    .take (fun _ => ifRest_announces frontStatement announcesStatement) <|
      .take (fun _ => whileRest_announces announcesStatement) <|
      .take (fun _ => forRest_announces announcesStatement) <|
      .take (fun _ => returnRest_announces) <|
      .take (fun _ => blockRest_announces front announces) expressionStatement_announces
  have below := choice _ _ _ _ inside chosen
  rw [announced_other derived.isDeclaration_eq_false] at below
  rw [announced_statement]
  exact .cons ⟨word, rest, inside, rfl, derived⟩ below

theorem anyStatement_announces : Announces all true (anyStatement inner statement) :=
  have here := statementHere_announces some front frontStatement sound soundStatement announces
    announcesStatement
  .behind .skipComments .skipComments fun _ => .ahead (.fail _) here

theorem anyDeclaration_announces : Announces all true (anyDeclaration inner statement) :=
  have otherwise := anyStatement_announces some front frontStatement sound soundStatement announces
    announcesStatement
  .behind .skipComments .skipComments fun _ =>
    .take (fun type => .behind (.expectIdentifier _) (.expectIdentifier _) fun name =>
      .take (fun _ => functionRest_announces front announces type name)
        (.closed (fun _ => rfl) (variableRest_announces type name)))
      otherwise

end Nested

/-- Declarations and statements announce what they hold however deep they are nested. -/
theorem within_announces (levels : Nat) :
    Announces all true (declarationWithin levels) ∧ Announces all true (statementWithin levels) := by
  induction levels with
  | zero =>
    exact ⟨.fail _, .fail _⟩
  | succ levels ih =>
    obtain ⟨announces, announcesStatement⟩ := ih
    obtain ⟨front, frontStatement⟩ := within_takesFront levels
    obtain ⟨sound, soundStatement⟩ := within_sound levels
    have some := declarationWithin_takesSome levels
    exact ⟨anyDeclaration_announces some front frontStatement sound soundStatement announces
        announcesStatement,
      anyStatement_announces some front frontStatement sound soundStatement announces
        announcesStatement⟩

/-- The events of a program tell its announced nodes, one by one and in the order of the outline. -/
theorem program_announces (notes : Notes program lexemes events tree rest) :
    List.Forall₂ (Event.Tells lexemes) events (tree.announced false) := by
  obtain ⟨trees, middle, read, built⟩ := Silent.bind_notes (fun _ => .pure _) notes
  obtain ⟨rfl, -⟩ := takes_pure.mp built
  have declarations : Announces lexemes true declaration :=
    .repeating fun levels => (within_announces levels).1
  rw [announced_other rfl, announcedBelow_of_statements fun _ => rfl]
  exact declarations_announces declaration_takesFront declarations lexemes.length
    (List.suffix_refl _) read

end Phrases

end SyntaxExplorer.Grammar
