import SyntaxExplorer.Proofs.Grammar.Fails
import SyntaxExplorer.Proofs.Grammar.PhraseCompleteness
import SyntaxExplorer.Proofs.Grammar.PhraseSoundness

namespace SyntaxExplorer.Grammar.Rule

variable {α β : Type} {follow before narrow : List Lexeme → Prop} {bound within : Nat}

/-- The rule takes all before `rest`, or it fails only because of the target of an assignment. -/
def Finishes (rule : Rule α) (lexemes rest : List Lexeme) : Prop :=
  (∃ value, Takes rule lexemes value rest) ∨
    ∃ left stopped, Fails rule lexemes ⟨.invalidAssignmentTarget, left⟩ stopped

/-- The rule looks one lexeme ahead, as long as it reads fewer lexemes than the bound. Its success
stands with any lexemes behind it that may follow. -/
structure Steady (follow : List Lexeme → Prop) (bound : Nat) (rule : Rule α) : Prop where
  front : TakesFront rule
  keeps : ∀ {read rest value later}, read.length < bound → Takes rule (read ++ rest) value rest →
    later.head? = rest.head? ∨ follow later → Takes rule (read ++ later) value later
  again : ∀ {read rest fault}, read.length < bound → Fails rule (read ++ rest) fault rest →
    ∃ back, fault.left = back + rest.length ∧ ∀ later, later.head? = rest.head? →
      Fails rule (read ++ later) ⟨fault.cause, back + later.length⟩ later
  resumes : ∀ {read rest fault}, read ≠ [] → read.length < bound →
    Fails rule (read ++ rest) fault rest → fault.cause = .invalidAssignmentTarget ∨
      ∃ more, ∀ tail, follow tail → Finishes rule (read ++ (more ++ tail)) tail

/-- A steady rule that never succeeds without taking a lexeme. -/
structure Eager (follow : List Lexeme → Prop) (bound : Nat) (rule : Rule α) : Prop
    extends Steady follow bound rule where
  some : TakesSome rule

/-- The rule takes the word, whatever may follow it. -/
def Opens (word : List Lexeme) (follow : List Lexeme → Prop) (rule : Rule α) : Prop :=
  ∀ tail, follow tail → ∃ value, Takes rule (word ++ tail) value tail

/-- A steady rule and a word for it, by which it may be completed before it has read anything. -/
structure Prompt (word : List Lexeme) (follow : List Lexeme → Prop) (bound : Nat) (rule : Rule α) :
    Prop extends Steady follow bound rule where
  opens : Opens word follow rule

theorem head?_append_of_ne_nil {read rest later : List Lexeme} (some : read ≠ []) :
    (read ++ later).head? = (read ++ rest).head? := by
  cases read with
  | nil => exact absurd rfl some
  | cons lexeme read => rfl

theorem head?_append_congr {read rest later : List Lexeme} (same : later.head? = rest.head?) :
    (read ++ later).head? = (read ++ rest).head? := by
  cases read with
  | nil => exact same
  | cons lexeme read => rfl

namespace Steady

variable {rule : Rule α}

theorem zero (front : TakesFront rule) : Steady follow 0 rule where
  front := front
  keeps less := absurd less (Nat.not_lt_zero _)
  again less := absurd less (Nat.not_lt_zero _)
  resumes _ less := absurd less (Nat.not_lt_zero _)

theorem mono (steady : Steady follow bound rule) (fewer : within ≤ bound) :
    Steady follow within rule where
  front := steady.front
  keeps less := steady.keeps (Nat.lt_of_lt_of_le less fewer)
  again less := steady.again (Nat.lt_of_lt_of_le less fewer)
  resumes some less := steady.resumes some (Nat.lt_of_lt_of_le less fewer)

theorem weaken (steady : Steady follow bound rule) (less : ∀ tail, narrow tail → follow tail) :
    Steady narrow bound rule where
  front := steady.front
  keeps fewer takes next := steady.keeps fewer takes (next.imp_right (less _))
  again := steady.again
  resumes some fewer fails := by
    rcases steady.resumes some fewer fails with target | ⟨more, finishes⟩
    · exact .inl target
    · exact .inr ⟨more, fun tail narrow => finishes tail (less tail narrow)⟩

/-- Events make no difference. -/
theorem of_iff {other : Rule α} (steady : Steady follow bound rule) (front : TakesFront other)
    (takes : ∀ lexemes value rest, Takes other lexemes value rest ↔ Takes rule lexemes value rest)
    (fails : ∀ lexemes fault rest, Fails other lexemes fault rest ↔ Fails rule lexemes fault rest) :
    Steady follow bound other where
  front := front
  keeps fewer taken next := (takes ..).mpr (steady.keeps fewer ((takes ..).mp taken) next)
  again fewer failed := by
    obtain ⟨back, left, same⟩ := steady.again fewer ((fails ..).mp failed)
    exact ⟨back, left, fun later next => (fails ..).mpr (same later next)⟩
  resumes some fewer failed := by
    rcases steady.resumes some fewer ((fails ..).mp failed) with target | ⟨more, finishes⟩
    · exact .inl target
    · refine .inr ⟨more, fun tail next => ?_⟩
      rcases finishes tail next with ⟨value, taken⟩ | ⟨left, stopped, failed⟩
      · exact .inl ⟨value, (takes ..).mpr taken⟩
      · exact .inr ⟨left, stopped, (fails ..).mpr failed⟩

theorem fail (cause : Option Lexeme → Cause) : Steady follow bound (Rule.fail cause : Rule α) where
  front := .fail cause
  keeps _ takes := absurd takes not_takes_fail
  again {read rest fault} _ fails := by
    obtain ⟨rfl, whole⟩ := fails_fail.mp fails
    obtain rfl : read = [] := by simpa using whole
    refine ⟨0, by simp, fun later next => fails_fail.mpr ⟨?_, rfl⟩⟩
    simp [next]
  resumes {read rest fault} some _ fails := by
    obtain ⟨-, whole⟩ := fails_fail.mp fails
    exact absurd (by simpa using whole) some

section Bind

variable {first : Rule α} {second : α → Rule β} {word read rest : List Lexeme} {value : α}

/-- What is read is what the first rule takes and what the second reads behind it. That is fewer
lexemes if the first has taken some. -/
theorem split (front : TakesFront first) (fewer : bound ≤ within ∨ bound ≤ within + 1 ∧ TakesSome first)
    (less : read.length < bound) {middle : List Lexeme} (takes : Takes first (read ++ rest) value middle)
    (behind : rest <:+ middle) :
    ∃ early late, read = early ++ late ∧ middle = late ++ rest ∧
      Takes first (early ++ (late ++ rest)) value (late ++ rest) ∧
      early.length < bound ∧ late.length < within := by
  obtain ⟨early, whole⟩ := front.suffix takes
  obtain ⟨late, rfl⟩ := behind
  have cut : read = early ++ late := by
    rw [← List.append_assoc] at whole
    exact (List.append_cancel_right whole).symm
  rw [cut, List.length_append] at less
  rw [← whole] at takes
  refine ⟨early, late, cut, rfl, takes, by omega, ?_⟩
  rcases fewer with all | ⟨most, some⟩
  · omega
  · have taken := some _ _ _ takes
    simp only [List.length_append] at taken
    omega

/-- One rule after the other. The second need be steady on fewer lexemes only if the first has taken
some, and its word is what the first is followed by when the second is yet to read anything. -/
theorem bind (one : Steady before bound first) (two : ∀ value, Prompt word follow within (second value))
    (fewer : bound ≤ within ∨ bound ≤ within + 1 ∧ TakesSome first)
    (stays : (∀ tail, follow tail → before tail) ∨ ∀ value, TakesSome (second value))
    (leads : ∀ tail, follow tail → before (word ++ tail)) :
    Steady follow bound (first >>= second) where
  front := .bind one.front fun value => (two value).front
  keeps {read rest result later} less takes next := by
    obtain ⟨value, middle, takesFirst, takesSecond⟩ := takes_bind.mp takes
    obtain ⟨early, late, rfl, rfl, takesEarly, early_lt, late_lt⟩ :=
      split one.front fewer less takesFirst ((two value).front.suffix takesSecond)
    have between : (late ++ later).head? = (late ++ rest).head? ∨ before (late ++ later) := by
      rcases next with same | next
      · exact .inl (head?_append_congr same)
      by_cases none : late = []
      · subst none
        rcases stays with stays | some
        · exact .inr (stays later next)
        · exact absurd (some _ _ _ _ takesSecond) (Nat.lt_irrefl _)
      · exact .inl (head?_append_of_ne_nil none)
    have takesLate := (two value).keeps late_lt takesSecond next
    rw [List.append_assoc]
    exact takes_bind.mpr ⟨value, _, one.keeps early_lt takesEarly between, takesLate⟩
  again {read rest fault} less fails := by
    rcases fails_bind.mp fails with failsFirst | ⟨value, middle, takesFirst, failsSecond⟩
    · obtain ⟨back, left, same⟩ := one.again less failsFirst
      exact ⟨back, left, fun later next => fails_bind.mpr (.inl (same later next))⟩
    obtain ⟨early, late, rfl, rfl, takesEarly, early_lt, late_lt⟩ :=
      split one.front fewer less takesFirst ((two value).front.suffix_of_fails failsSecond)
    obtain ⟨back, left, same⟩ := (two value).again late_lt failsSecond
    refine ⟨back, left, fun later next => ?_⟩
    have takes := one.keeps early_lt takesEarly (.inl (head?_append_congr next))
    rw [List.append_assoc]
    exact fails_bind.mpr (.inr ⟨value, _, takes, same later next⟩)
  resumes {read rest fault} some less fails := by
    rcases fails_bind.mp fails with failsFirst | ⟨value, middle, takesFirst, failsSecond⟩
    · -- The first rule is completed, and the second begins behind it with its word.
      rcases one.resumes some less failsFirst with target | ⟨more, finishes⟩
      · exact .inl target
      refine .inr ⟨more ++ word, fun tail next => ?_⟩
      rw [List.append_assoc]
      rcases finishes (word ++ tail) (leads tail next) with ⟨value, takes⟩ | ⟨left, stopped, fails⟩
      · obtain ⟨result, opens⟩ := (two value).opens tail next
        exact .inl ⟨result, takes_bind.mpr ⟨value, _, takes, opens⟩⟩
      · exact .inr ⟨left, stopped, fails_bind.mpr (.inl fails)⟩
    obtain ⟨early, late, rfl, rfl, takesEarly, early_lt, late_lt⟩ :=
      split one.front fewer less takesFirst ((two value).front.suffix_of_fails failsSecond)
    by_cases none : late = []
    · -- The second rule has read nothing, so it begins with its word instead.
      subst none
      refine .inr ⟨word, fun tail next => ?_⟩
      obtain ⟨result, opens⟩ := (two value).opens tail next
      have takes := one.keeps early_lt takesEarly (.inr (leads tail next))
      rw [List.append_nil]
      exact .inl ⟨result, takes_bind.mpr ⟨value, _, takes, opens⟩⟩
    · rcases (two value).resumes none late_lt failsSecond with target | ⟨more, finishes⟩
      · exact .inl target
      refine .inr ⟨more, fun tail next => ?_⟩
      have same : (late ++ (more ++ tail)).head? = (late ++ rest).head? :=
        head?_append_of_ne_nil none
      have takes := one.keeps early_lt takesEarly (.inl same)
      rw [List.append_assoc]
      rcases finishes tail next with ⟨result, later⟩ | ⟨left, stopped, later⟩
      · exact .inl ⟨result, takes_bind.mpr ⟨value, _, takes, later⟩⟩
      · exact .inr ⟨left, stopped, fails_bind.mpr (.inr ⟨value, _, takes, later⟩)⟩

end Bind

section Choice

variable {holds : Lexeme → Bool} {taken : Lexeme → Rule α} {otherwise : Rule α}

theorem finishes_take_of_holds {lexeme : Lexeme} (yes : holds lexeme = true)
    (lexemes rest : List Lexeme) :
    Finishes (Rule.take holds taken otherwise) (lexeme :: lexemes) rest ↔
      Finishes (taken lexeme) lexemes rest := by
  simp only [Finishes, takes_take_of_holds yes, fails_take_of_holds yes]

theorem finishes_take_of_not {lexemes rest : List Lexeme}
    (no : ∀ lexeme ∈ lexemes.head?, holds lexeme = false) :
    Finishes (Rule.take holds taken otherwise) lexemes rest ↔ Finishes otherwise lexemes rest := by
  simp only [Finishes, takes_take_of_not no, fails_take_of_not no]

/-- The next lexeme decides. A rule that may leave it must not be followed by one that it takes. -/
theorem take (words : Lexeme → List Lexeme)
    (one : ∀ lexeme, Prompt (words lexeme) follow bound (taken lexeme))
    (two : Steady follow (bound + 1) otherwise)
    (settled : TakesSome otherwise ∨
      ∀ tail, follow tail → ∀ lexeme ∈ tail.head?, holds lexeme = false) :
    Steady follow (bound + 1) (Rule.take holds taken otherwise) where
  front := .take (fun lexeme => (one lexeme).front) two.front
  keeps {read rest value later} less takes next := by
    cases read with
    | nil =>
      rcases takes_take.mp takes with ⟨lexeme, others, rfl, -, takes⟩ | ⟨no, takes⟩
      · have back := ((one lexeme).front.suffix takes).length_le
        exact absurd back (by simp)
      have still : ∀ lexeme ∈ later.head?, holds lexeme = false := by
        rcases next with same | next
        · rwa [same]
        · rcases settled with some | settled
          · exact absurd (some _ _ _ takes) (Nat.lt_irrefl _)
          · exact settled later next
      exact (takes_take_of_not still).mpr (two.keeps less takes next)
    | cons lexeme read =>
      by_cases yes : holds lexeme = true
      · rw [List.cons_append, takes_take_of_holds yes] at takes ⊢
        exact (one lexeme).keeps (Nat.lt_of_succ_lt_succ less) takes next
      · have no : holds lexeme = false := by simpa using yes
        rw [takes_take_of_not (by simpa using no)] at takes ⊢
        exact two.keeps less takes next
  again {read rest fault} less fails := by
    cases read with
    | nil =>
      rcases fails_take.mp fails with ⟨lexeme, others, rfl, -, fails⟩ | ⟨no, fails⟩
      · have back := ((one lexeme).front.suffix_of_fails fails).length_le
        exact absurd back (by simp)
      obtain ⟨back, left, same⟩ := two.again less fails
      refine ⟨back, left, fun later next => ?_⟩
      have still : ∀ lexeme ∈ later.head?, holds lexeme = false := by rwa [next]
      exact (fails_take_of_not still).mpr (same later next)
    | cons lexeme read =>
      by_cases yes : holds lexeme = true
      · rw [List.cons_append, fails_take_of_holds yes] at fails
        obtain ⟨back, left, same⟩ := (one lexeme).again (Nat.lt_of_succ_lt_succ less) fails
        exact ⟨back, left, fun later next => (fails_take_of_holds yes).mpr (same later next)⟩
      · have no : holds lexeme = false := by simpa using yes
        rw [fails_take_of_not (by simpa using no)] at fails
        obtain ⟨back, left, same⟩ := two.again less fails
        exact ⟨back, left, fun later next =>
          (fails_take_of_not (by simpa using no)).mpr (same later next)⟩
  resumes {read rest fault} some less fails := by
    obtain ⟨lexeme, read, rfl⟩ := List.exists_cons_of_ne_nil some
    by_cases yes : holds lexeme = true
    · have finish := @finishes_take_of_holds _ _ taken otherwise _ yes
      rw [List.cons_append, fails_take_of_holds yes] at fails
      by_cases none : read = []
      · -- Nothing is read behind the lexeme, so what it leads to begins with its word.
        subst none
        exact .inr ⟨words lexeme, fun tail next => (finish ..).mpr (.inl ((one lexeme).opens tail next))⟩
      · rcases (one lexeme).resumes none (Nat.lt_of_succ_lt_succ less) fails with
          target | ⟨more, finishes⟩
        · exact .inl target
        · exact .inr ⟨more, fun tail next => (finish ..).mpr (finishes tail next)⟩
    · have no : holds lexeme = false := by simpa using yes
      rw [fails_take_of_not (by simpa using no)] at fails
      rcases two.resumes some less fails with target | ⟨more, finishes⟩
      · exact .inl target
      · exact .inr ⟨more, fun tail next =>
          (finishes_take_of_not (by simpa using no)).mpr (finishes tail next)⟩

/-- The next lexeme decides, and is not taken yet. -/
theorem ahead {holds : Option Lexeme → Bool} {yes no : Rule α} (one : Steady follow bound yes)
    (two : Eager follow bound no)
    (settled : TakesSome yes ∨ ∀ tail, follow tail → holds tail.head? = true) :
    Steady follow bound (Rule.ahead holds yes no) := by
  have branch (lexemes : List Lexeme) :
      (∀ value rest, Takes (Rule.ahead holds yes no) lexemes value rest ↔
          Takes (bif holds lexemes.head? then yes else no) lexemes value rest) ∧
        ∀ fault rest, Fails (Rule.ahead holds yes no) lexemes fault rest ↔
          Fails (bif holds lexemes.head? then yes else no) lexemes fault rest := by
    simp only [takes_ahead, fails_ahead]
    cases holds lexemes.head? <;> simp
  have either (decision : Bool) : Steady follow bound (bif decision then yes else no) := by
    cases decision
    · exact two.toSteady
    · exact one
  refine ⟨.ahead one.front two.front, ?_, ?_, ?_⟩
  · intro read rest value later less takes next
    have takes := ((branch _).1 _ _).mp takes
    have same : holds (read ++ later).head? = holds (read ++ rest).head? := by
      rcases next with same | next
      · rw [head?_append_congr same]
      by_cases none : read = []
      · subst none
        cases decision : holds rest.head? with
        | false =>
          rw [List.nil_append, decision] at takes
          exact absurd (two.some _ _ _ takes) (Nat.lt_irrefl _)
        | true =>
          rw [List.nil_append, decision] at takes
          rcases settled with some | settled
          · exact absurd (some _ _ _ takes) (Nat.lt_irrefl _)
          · exact (settled later next).trans decision.symm
      · rw [head?_append_of_ne_nil none]
    refine ((branch _).1 _ _).mpr ?_
    rw [same]
    exact (either _).keeps less takes next
  · intro read rest fault less fails
    obtain ⟨back, left, again⟩ := (either _).again less (((branch _).2 _ _).mp fails)
    refine ⟨back, left, fun later next => ((branch _).2 _ _).mpr ?_⟩
    rw [head?_append_congr next]
    exact again later next
  · intro read rest fault filled less fails
    rcases (either _).resumes filled less (((branch _).2 _ _).mp fails) with target | ⟨more, finishes⟩
    · exact .inl target
    refine .inr ⟨more, fun tail next => ?_⟩
    have same : (read ++ (more ++ tail)).head? = (read ++ rest).head? :=
      head?_append_of_ne_nil filled
    simp only [Finishes, (branch _).1, (branch _).2, same]
    exact finishes tail next

end Choice

theorem skipComments (solid : ∀ tail, follow tail → ∀ lexeme ∈ tail.head?, lexeme.kind ≠ .comment) :
    Steady follow bound Rule.skipComments where
  front := .skipComments
  keeps {read rest done later} _ takes next := by
    have whole := takes_skipComments.mp takes
    have stops : ∀ lexeme ∈ rest.head?, lexeme.kind ≠ .comment := by
      intro lexeme here
      have stop := List.head?_dropWhile_not (·.kind = .comment) (read ++ rest)
      rw [← whole, Option.mem_def.mp here] at stop
      simpa using stop
    obtain ⟨comments, allComments, split⟩ := skipComments_split (read ++ rest)
    rw [← whole] at split
    obtain rfl := List.append_cancel_right split
    have still : ∀ lexeme ∈ later.head?, lexeme.kind ≠ .comment := by
      rcases next with same | next
      · rwa [same]
      · exact solid later next
    exact takes_skipComments.mpr (dropWhile_comments allComments still).symm
  again _ fails := absurd fails not_fails_skipComments
  resumes _ _ fails := absurd fails not_fails_skipComments

/-- A note of how many lexemes are left makes no difference. -/
theorem notedLeft (steady : Steady follow bound rule) (event : Nat → Event) :
    Steady follow bound (Rule.left >>= fun left => note (event left) >>= fun _ => rule) := by
  refine steady.of_iff (.bind .left fun _ => .bind (.note _) fun _ => steady.front) ?_ ?_
  · intro lexemes value rest
    simp [takes_bind, and_assoc]
  · intro lexemes fault rest
    simp [fails_bind, and_assoc]

end Steady

namespace Eager

theorem fail (cause : Option Lexeme → Cause) : Eager follow bound (Rule.fail cause : Rule α) :=
  ⟨.fail cause, .fail cause⟩

/-- As long as the other way takes a lexeme, it does not matter what may follow. -/
theorem take {holds : Lexeme → Bool} {taken : Lexeme → Rule α} {otherwise : Rule α}
    (words : Lexeme → List Lexeme) (one : ∀ lexeme, Prompt (words lexeme) follow bound (taken lexeme))
    (two : Eager follow (bound + 1) otherwise) :
    Eager follow (bound + 1) (Rule.take holds taken otherwise) :=
  ⟨.take words one two.toSteady (.inl two.some), .take (fun lexeme => (one lexeme).front) two.some⟩

end Eager

namespace Prompt

variable {rule : Rule α} {word : List Lexeme}

theorem mono (prompt : Prompt word follow bound rule) (fewer : within ≤ bound) :
    Prompt word follow within rule :=
  ⟨prompt.toSteady.mono fewer, prompt.opens⟩

theorem weaken (prompt : Prompt word follow bound rule) (less : ∀ tail, narrow tail → follow tail) :
    Prompt word narrow bound rule :=
  ⟨prompt.toSteady.weaken less, fun tail next => prompt.opens tail (less tail next)⟩

theorem succeed (value : α) : Prompt [] follow bound (Rule.succeed value) where
  front := .succeed value
  keeps {read rest given later} _ takes _ := by
    obtain ⟨rfl, whole⟩ := takes_succeed.mp takes
    obtain rfl : read = [] := by simpa using whole
    exact takes_succeed.mpr ⟨rfl, rfl⟩
  again _ fails := absurd fails not_fails_succeed
  resumes _ _ fails := absurd fails not_fails_succeed
  opens tail _ := ⟨value, takes_succeed.mpr ⟨rfl, rfl⟩⟩

theorem pure (value : α) : Prompt [] follow bound (Pure.pure value : Rule α) :=
  succeed value

theorem note (event : Event) : Prompt [] follow bound (Rule.note event) where
  front := .note event
  keeps {read rest done later} _ takes _ := by
    have whole := takes_note.mp takes
    obtain rfl : read = [] := by simpa using whole
    exact takes_note.mpr rfl
  again _ fails := absurd fails not_fails_note
  resumes _ _ fails := absurd fails not_fails_note
  opens tail _ := ⟨(), takes_note.mpr rfl⟩

theorem skipComments (solid : ∀ tail, follow tail → ∀ lexeme ∈ tail.head?, lexeme.kind ≠ .comment) :
    Prompt [] follow bound Rule.skipComments := by
  refine ⟨.skipComments solid, fun tail next => ⟨(), takes_skipComments.mpr ?_⟩⟩
  exact (dropWhile_comments .nil (solid tail next)).symm

theorem expectMark (text : String) (place : Place) :
    Prompt [mark text] follow bound (Rule.expectMark text place) :=
  ⟨(Eager.take (fun _ => []) (fun _ => .succeed ()) (.fail _)).toSteady.mono (Nat.le_succ bound),
    fun _ _ => ⟨(), takes_expectMark.mpr rfl⟩⟩

theorem expectIdentifier (name : String) (place : Place) :
    Prompt [⟨.identifier, name⟩] follow bound (Rule.expectIdentifier place) :=
  ⟨(Eager.take (fun _ => []) (fun _ => .succeed _) (.fail _)).toSteady.mono (Nat.le_succ bound),
    fun _ _ => ⟨name, takes_expectIdentifier.mpr rfl⟩⟩

/-- Counting what is left makes no difference. -/
theorem counted (prompt : Prompt word follow bound rule) :
    Prompt word follow bound (Rule.left >>= fun _ => rule) := by
  have takes (lexemes : List Lexeme) (value : α) (rest : List Lexeme) :
      Takes (Rule.left >>= fun _ => rule) lexemes value rest ↔ Takes rule lexemes value rest := by
    simp [takes_bind, and_assoc]
  have fails (lexemes : List Lexeme) (fault : Fault) (rest : List Lexeme) :
      Fails (Rule.left >>= fun _ => rule) lexemes fault rest ↔ Fails rule lexemes fault rest := by
    simp [fails_bind, and_assoc]
  refine ⟨prompt.toSteady.of_iff (.bind .left fun _ => prompt.front) takes fails, fun tail next => ?_⟩
  obtain ⟨value, opens⟩ := prompt.opens tail next
  exact ⟨value, (takes ..).mpr opens⟩

/-- The words of two rules make a word of the one after the other. -/
theorem bind {first : Rule α} {second : α → Rule β} {words : List Lexeme}
    (one : Prompt word before bound first) (two : ∀ value, Prompt words follow bound (second value))
    (stays : (∀ tail, follow tail → before tail) ∨ ∀ value, TakesSome (second value))
    (leads : ∀ tail, follow tail → before (words ++ tail)) :
    Prompt (word ++ words) follow bound (first >>= second) := by
  refine ⟨one.toSteady.bind two (.inl (Nat.le_refl _)) stays leads, fun tail next => ?_⟩
  obtain ⟨value, takes⟩ := one.opens (words ++ tail) (leads tail next)
  obtain ⟨result, later⟩ := (two value).opens tail next
  rw [List.append_assoc]
  exact ⟨result, takes_bind.mpr ⟨value, _, takes, later⟩⟩

/-- What need not be there behind a rule is left out. -/
theorem extended {first : Rule α} {second : α → Rule β} (one : Prompt word follow bound first)
    (two : ∀ value, Prompt [] follow bound (second value)) :
    Prompt word follow bound (first >>= second) := by
  have both := one.bind two (.inl fun _ next => next) fun _ next => next
  rwa [List.append_nil] at both

/-- What is made of the value makes no difference. -/
theorem returning {later : α → β} (prompt : Prompt word follow bound rule) :
    Prompt word follow bound (rule >>= fun value => Pure.pure (later value)) :=
  prompt.extended fun _ => .pure _

/-- A rule that anything may follow comes before another. -/
theorem leading {first : Rule α} {second : α → Rule β} {words : List Lexeme}
    (one : Prompt word (fun _ => True) bound first)
    (two : ∀ value, Prompt words follow bound (second value)) :
    Prompt (word ++ words) follow bound (first >>= second) :=
  one.bind two (.inl fun _ _ => trivial) fun _ _ => trivial

/-- A mark that must come next comes next. -/
theorem marked {text : String} {place : Place} (behind : Prompt word follow bound rule) :
    Prompt (mark text :: word) follow bound (Rule.expectMark text place >>= fun _ => rule) :=
  (expectMark text place).leading fun _ => behind

/-- An identifier that must come next comes next. -/
theorem named {later : String → Rule β} {place : Place} (name : String)
    (behind : ∀ given, Prompt word follow bound (later given)) :
    Prompt (⟨.identifier, name⟩ :: word) follow bound (Rule.expectIdentifier place >>= later) :=
  (expectIdentifier name place).leading behind

/-- A rule is ended by a mark that may follow it. -/
theorem closed {text : String} {place : Place} {later : α → Rule β} {words : List Lexeme}
    (prompt : Prompt word before bound rule) (closes : ∀ tail, before (mark text :: tail))
    (behind : ∀ value, Prompt words follow bound (later value)) :
    Prompt (word ++ mark text :: words) follow bound
      (rule >>= fun value => Rule.expectMark text place >>= fun _ => later value) :=
  prompt.bind (fun value => (behind value).marked)
    (.inr fun value => .bind_left (.expectMark text place) fun _ => (behind value).front)
    fun tail _ => closes (words ++ tail)

/-- A choice that may be left out is left out. -/
theorem take_succeed {holds : Lexeme → Bool} {taken : Lexeme → Rule α} {value : α}
    (words : Lexeme → List Lexeme) (one : ∀ lexeme, Prompt (words lexeme) follow bound (taken lexeme))
    (apart : ∀ tail, follow tail → ∀ lexeme ∈ tail.head?, holds lexeme = false) :
    Prompt [] follow (bound + 1) (Rule.take holds taken (Rule.succeed value)) :=
  ⟨.take words one (succeed value).toSteady (.inr apart), fun tail next =>
    ⟨value, (takes_take_of_not (apart tail next)).mpr (takes_succeed.mpr ⟨rfl, rfl⟩)⟩⟩

/-- Comments before a rule make no difference, if none comes where it begins or ends. -/
theorem skipped (behind : Prompt word follow bound rule)
    (solid : ∀ tail, follow tail → ∀ lexeme ∈ (word ++ tail).head?, lexeme.kind ≠ .comment)
    (stays : (∀ tail, follow tail → ∀ lexeme ∈ tail.head?, lexeme.kind ≠ .comment) ∨
      TakesSome rule) :
    Prompt word follow bound (Rule.skipComments >>= fun _ => rule) :=
  have comments : Prompt [] (fun tail => ∀ lexeme ∈ tail.head?, lexeme.kind ≠ .comment) bound
      Rule.skipComments :=
    .skipComments fun _ solid => solid
  comments.bind (fun _ => behind) (stays.imp_right fun some _ => some) solid

/-- A word may begin with a lexeme that is left to the other way. -/
theorem take_otherwise {holds : Lexeme → Bool} {taken : Lexeme → Rule α} {otherwise : Rule α}
    (words : Lexeme → List Lexeme) (one : ∀ lexeme, Prompt (words lexeme) follow bound (taken lexeme))
    (two : Prompt word follow (bound + 1) otherwise) (some : TakesSome otherwise)
    (apart : ∀ tail, ∀ lexeme ∈ (word ++ tail).head?, holds lexeme = false) :
    Prompt word follow (bound + 1) (Rule.take holds taken otherwise) := by
  refine ⟨.take words one two.toSteady (.inl some), fun tail next => ?_⟩
  obtain ⟨value, takes⟩ := two.opens tail next
  exact ⟨value, (takes_take_of_not (apart tail)).mpr takes⟩

/-- What is not there before a lexeme that may follow is left out. -/
theorem ahead_succeed {holds : Option Lexeme → Bool} {value : α} (rest : Eager follow bound rule)
    (here : ∀ tail, follow tail → holds tail.head? = true) :
    Prompt [] follow bound (Rule.ahead holds (Rule.succeed value) rule) := by
  refine ⟨.ahead (succeed value).toSteady rest (.inr here), fun tail next =>
    ⟨value, takes_ahead.mpr ?_⟩⟩
  rw [List.nil_append, if_pos (here tail next)]
  exact takes_succeed.mpr ⟨rfl, rfl⟩

end Prompt

end SyntaxExplorer.Grammar.Rule
