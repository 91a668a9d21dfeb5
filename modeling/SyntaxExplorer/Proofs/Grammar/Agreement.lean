import SyntaxExplorer.Proofs.Grammar.Rule

namespace SyntaxExplorer.Grammar.Rule

variable {α β : Type}

theorem bind_apply (first : Rule α) (second : α → Rule β) (lexemes : List Lexeme) :
    (first >>= second) lexemes = andThen first second lexemes :=
  rfl

theorem left_bind (second : Nat → Rule β) (lexemes : List Lexeme) :
    (left >>= second) lexemes = second lexemes.length lexemes :=
  rfl

section Take

variable {holds : Lexeme → Bool} {taken : Lexeme → Rule α} {otherwise : Rule α} {lexeme : Lexeme}

theorem take_of_pos (fits : holds lexeme = true) (lexemes : List Lexeme) :
    take holds taken otherwise (lexeme :: lexemes) = taken lexeme lexemes :=
  if_pos fits

theorem take_of_neg (unfit : holds lexeme = false) (lexemes : List Lexeme) :
    take holds taken otherwise (lexeme :: lexemes) = otherwise (lexeme :: lexemes) :=
  if_neg (Bool.not_eq_true _ ▸ unfit)

end Take

/-- What the rule leaves is what it was given, without some lexemes at the front. -/
def TakesFront (rule : Rule α) : Prop :=
  ∀ lexemes, (rule lexemes).rest <:+ lexemes

namespace TakesFront

theorem pure (value : α) : TakesFront (Pure.pure value : Rule α) :=
  fun _ => List.suffix_refl _

theorem succeed (value : α) : TakesFront (Rule.succeed value) :=
  fun _ => List.suffix_refl _

theorem fail (cause : Option Lexeme → Cause) : TakesFront (Rule.fail cause : Rule α) :=
  fun _ => List.suffix_refl _

theorem failAt (left : Nat) (cause : Cause) : TakesFront (Rule.failAt left cause : Rule α) :=
  fun _ => List.suffix_refl _

theorem left : TakesFront Rule.left :=
  fun _ => List.suffix_refl _

theorem note (event : Event) : TakesFront (Rule.note event) :=
  fun _ => List.suffix_refl _

theorem skipComments : TakesFront Rule.skipComments :=
  fun _ => List.dropWhile_suffix _

theorem bind {first : Rule α} {second : α → Rule β} (one : TakesFront first)
    (two : ∀ value, TakesFront (second value)) : TakesFront (first >>= second) := by
  intro lexemes
  rw [bind_apply, andThen]
  split
  · exact one lexemes
  · rename_i value _
    exact (two value _).trans (one lexemes)

theorem take {holds : Lexeme → Bool} {taken : Lexeme → Rule α} {otherwise : Rule α}
    (one : ∀ lexeme, TakesFront (taken lexeme)) (two : TakesFront otherwise) :
    TakesFront (Rule.take holds taken otherwise) := by
  intro lexemes
  cases lexemes with
  | nil => exact two []
  | cons lexeme lexemes =>
    simp only [Rule.take]
    split
    · exact (one lexeme lexemes).trans (List.suffix_cons ..)
    · exact two _

theorem ahead {holds : Option Lexeme → Bool} {yes no : Rule α} (one : TakesFront yes)
    (two : TakesFront no) : TakesFront (Rule.ahead holds yes no) := by
  intro lexemes
  simp only [Rule.ahead]
  split
  · exact one lexemes
  · exact two lexemes

theorem repeating {rule : Nat → Rule α} (each : ∀ rounds, TakesFront (rule rounds)) :
    TakesFront (Rule.repeating rule) :=
  fun lexemes => each _ lexemes

theorem expectMark (text : String) (place : Place) : TakesFront (Rule.expectMark text place) :=
  take (fun _ => succeed ()) (fail _)

theorem expectIdentifier (place : Place) : TakesFront (Rule.expectIdentifier place) :=
  take (fun _ => succeed _) (fail _)

end TakesFront

/-- The rules give the same reply wherever fewer than so many lexemes are left. -/
def AgreeBelow (bound : Nat) (first second : Rule α) : Prop :=
  ∀ lexemes, lexemes.length < bound → first lexemes = second lexemes

namespace AgreeBelow

variable {bound : Nat}

theorem refl (rule : Rule α) : AgreeBelow bound rule rule :=
  fun _ _ => rfl

theorem mono {first second : Rule α} (agree : AgreeBelow (bound + 1) first second) :
    AgreeBelow bound first second :=
  fun lexemes fewer => agree lexemes (Nat.lt_succ_of_lt fewer)

theorem bind {first first' : Rule α} {second second' : α → Rule β} (front : TakesFront first)
    (one : AgreeBelow bound first first')
    (two : ∀ value, AgreeBelow bound (second value) (second' value)) :
    AgreeBelow bound (first >>= second) (first' >>= second') := by
  intro lexemes fewer
  simp only [bind_apply, andThen, ← one lexemes fewer]
  split
  · rfl
  · rename_i value _
    rw [two value _ (Nat.lt_of_le_of_lt (front lexemes).length_le fewer)]

/-- What comes after the same beginning need agree only. -/
theorem bind_right {first : Rule α} {second second' : α → Rule β} (front : TakesFront first)
    (two : ∀ value, AgreeBelow bound (second value) (second' value)) :
    AgreeBelow bound (first >>= second) (first >>= second') :=
  bind front (refl first) two

/-- What comes before the same end need agree only. -/
theorem bind_left {first first' : Rule α} {second : α → Rule β} (front : TakesFront first)
    (one : AgreeBelow bound first first') :
    AgreeBelow bound (first >>= second) (first' >>= second) :=
  bind front one fun _ => refl _

/-- Behind a lexeme that is taken, agreement on one lexeme fewer is enough. -/
theorem take {holds : Lexeme → Bool} {taken taken' : Lexeme → Rule α}
    {otherwise otherwise' : Rule α}
    (one : ∀ lexeme, AgreeBelow bound (taken lexeme) (taken' lexeme))
    (two : AgreeBelow (bound + 1) otherwise otherwise') :
    AgreeBelow (bound + 1) (Rule.take holds taken otherwise)
      (Rule.take holds taken' otherwise') := by
  intro lexemes fewer
  cases lexemes with
  | nil => exact two [] fewer
  | cons lexeme lexemes =>
    simp only [Rule.take]
    split
    · exact one lexeme lexemes (Nat.lt_of_succ_lt_succ fewer)
    · exact two _ fewer

theorem take_both {holds : Lexeme → Bool} {taken taken' : Lexeme → Rule α}
    {otherwise otherwise' : Rule α}
    (one : ∀ lexeme, AgreeBelow bound (taken lexeme) (taken' lexeme))
    (two : AgreeBelow bound otherwise otherwise') :
    AgreeBelow bound (Rule.take holds taken otherwise) (Rule.take holds taken' otherwise') := by
  cases bound with
  | zero => exact fun _ fewer => absurd fewer (Nat.not_lt_zero _)
  | succ bound => exact take (fun lexeme => (one lexeme).mono) two

theorem ahead {holds : Option Lexeme → Bool} {yes yes' no no' : Rule α}
    (one : AgreeBelow bound yes yes') (two : AgreeBelow bound no no') :
    AgreeBelow bound (Rule.ahead holds yes no) (Rule.ahead holds yes' no') := by
  intro lexemes fewer
  simp only [Rule.ahead]
  split
  · exact one lexemes fewer
  · exact two lexemes fewer

theorem repeating {rule rule' : Nat → Rule α}
    (each : ∀ rounds, AgreeBelow bound (rule rounds) (rule' rounds)) :
    AgreeBelow bound (Rule.repeating rule) (Rule.repeating rule') :=
  fun lexemes fewer => each _ lexemes fewer

end AgreeBelow

end SyntaxExplorer.Grammar.Rule
