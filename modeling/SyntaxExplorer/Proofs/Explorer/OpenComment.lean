import SyntaxExplorer.Proofs.Explorer.Shades
import SyntaxExplorer.Proofs.Token.Failure

namespace SyntaxExplorer.Highlight

/-- Neither opening of a comment begins in the text, nor at its end if a slash follows. -/
def IsOpenerFree (text : List Char) : Prop :=
  ¬ ['/', '/'] <:+: text ++ ['/'] ∧ ¬ ['/', '*'] <:+: text ++ ['/']

/-- A text, read from outside of comments or from inside one, ends inside one. Outside, a block comment
begins at the first mark that opens a comment, if that mark opens no line comment. A block comment goes
on to the first closing mark behind its opening, or to the end. -/
inductive EndsInside : Bool → List Char → Prop
  | opened {front inside} (first : IsOpenerFree front) (later : EndsInside true inside) :
      EndsInside false (front ++ '/' :: '*' :: inside)
  | closed {inside rest} (first : ClosesOnce inside) (later : EndsInside false rest) :
      EndsInside true (inside ++ rest)
  | unclosed {inside} (goesOn : ¬ ['*', '/'] <:+: inside) : EndsInside true inside

variable {c : Char} {text chunk front : List Char}

theorem isOpenerFree_nil : IsOpenerFree [] := by
  simp [IsOpenerFree, List.infix_cons_iff]

theorem isOpenerFree_cons :
    IsOpenerFree (c :: front) ↔
      ¬ (c = '/' ∧ ((front ++ ['/']).head? = some '/' ∨ (front ++ ['/']).head? = some '*')) ∧
        IsOpenerFree front := by
  have opening (d : Char) (others : List Char) :
      ['/', d] <+: c :: others ↔ c = '/' ∧ others.head? = some d := by
    cases others <;> simp [List.cons_prefix_cons, eq_comm]
  simp only [IsOpenerFree, List.cons_append, List.infix_cons_iff, opening, not_or, and_or_left]
  exact and_and_and_comm

theorem endsInside_false_iff :
    EndsInside false text ↔
      ∃ front inside, text = front ++ '/' :: '*' :: inside ∧ IsOpenerFree front ∧
        EndsInside true inside := by
  constructor
  · intro ends
    cases ends with
    | opened first later => exact ⟨_, _, rfl, first, later⟩
  · rintro ⟨front, inside, rfl, first, later⟩
    exact .opened first later

/-- The first closing mark decides, if there is one. -/
theorem endsInside_of_closed {inside rest : List Char}
    (closed : Cut.closeComment text = some (inside, rest)) :
    EndsInside true text ↔ EndsInside false rest := by
  constructor
  · intro ends
    cases ends with
    | closed first later =>
      rw [Cut.closeComment_eq_some_iff.mpr ⟨first, rfl⟩] at closed
      obtain ⟨-, rfl⟩ := Prod.mk.inj (Option.some.inj closed)
      exact later
    | unclosed goesOn =>
      rw [Cut.closeComment_eq_none_iff.mpr goesOn] at closed
      cases closed
  · intro later
    obtain ⟨first, rfl⟩ := Cut.closeComment_eq_some_iff.mp closed
    exact .closed first later

theorem not_endsInside_nil : ¬ EndsInside false [] := by
  simp [endsInside_false_iff]

/-- A character that opens no comment is passed over. -/
theorem endsInside_cons (alone : c = '/' → text.head? ≠ some '/' ∧ text.head? ≠ some '*') :
    EndsInside false (c :: text) ↔ EndsInside false text := by
  have next (front inside : List Char) :
      (front ++ '/' :: '*' :: inside).head? = (front ++ ['/']).head? := by
    cases front <;> rfl
  rw [endsInside_false_iff, endsInside_false_iff]
  constructor
  · rintro ⟨front, inside, whole, first, later⟩
    cases front with
    | nil =>
      obtain ⟨rfl, rfl⟩ := List.cons.inj whole
      exact absurd rfl (alone rfl).2
    | cons d front =>
      obtain ⟨rfl, rfl⟩ := List.cons.inj whole
      exact ⟨front, inside, rfl, (isOpenerFree_cons.mp first).2, later⟩
  · rintro ⟨front, inside, rfl, first, later⟩
    refine ⟨c :: front, inside, rfl, isOpenerFree_cons.mpr ⟨?_, first⟩, later⟩
    rw [← next front inside]
    rintro ⟨slash, opening | opening⟩
    · exact (alone slash).1 opening
    · exact (alone slash).2 opening

theorem endsInside_append (noSlash : '/' ∉ chunk) :
    EndsInside false (chunk ++ text) ↔ EndsInside false text := by
  induction chunk with
  | nil => rfl
  | cons c chunk ih =>
    rw [List.mem_cons, not_or] at noSlash
    rw [List.cons_append, endsInside_cons fun slash => absurd slash.symm noSlash.1, ih noSlash.2]

theorem not_endsInside_lineComment : ¬ EndsInside false ('/' :: '/' :: text) := by
  rw [endsInside_false_iff]
  rintro ⟨front, inside, whole, first, -⟩
  cases front with
  | nil => simp at whole
  | cons c front =>
    obtain ⟨rfl, rest⟩ := List.cons.inj whole
    refine (isOpenerFree_cons.mp first).1 ⟨rfl, Or.inl ?_⟩
    cases front with
    | nil => rfl
    | cons d front => exact congrArg some (List.cons.inj rest).1.symm

theorem endsInside_opening : EndsInside false ('/' :: '*' :: text) ↔ EndsInside true text := by
  refine ⟨?_, EndsInside.opened isOpenerFree_nil⟩
  rw [endsInside_false_iff]
  rintro ⟨front, inside, whole, first, later⟩
  cases front with
  | nil =>
    obtain rfl : text = inside := by simpa using whole
    exact later
  | cons c front =>
    obtain ⟨rfl, rest⟩ := List.cons.inj whole
    refine absurd ⟨rfl, Or.inr ?_⟩ (isOpenerFree_cons.mp first).1
    cases front with
    | nil => simp at rest
    | cons d front => exact congrArg some (List.cons.inj rest).1.symm

/-- A comment is open behind a line exactly if the line ends inside one. -/
theorem line_snd_iff (inComment : Bool) (text : List Char) :
    (line inComment text).2 = true ↔ EndsInside inComment text := by
  fun_induction line inComment text with
  | case1 inComment =>
    cases inComment with
    | true => simp [EndsInside.unclosed]
    | false => simp [not_endsInside_nil]
  | case2 c text unclosed =>
    simpa using EndsInside.unclosed (Cut.closeComment_eq_none_iff.mp unclosed)
  | case3 c text inside rest closed _ pieces later eq ih =>
    rw [eq] at ih
    rw [endsInside_of_closed closed]
    exact ih
  | case4 c text part _ word pieces later eq ih =>
    rw [eq] at ih
    have goes : ∀ d ∈ text.takeWhile (continues c), continues c d = true :=
      List.all_eq_true.mp List.all_takeWhile
    have whole : c :: text = word ++ text.dropWhile (continues c) := by
      rw [List.cons_append, List.takeWhile_append_dropWhile]
    rw [whole, endsInside_append (notMem_of_continues part goes rfl (by decide))]
    exact ih
  | case5 c text _ opening =>
    obtain ⟨rfl, slash⟩ := opening
    obtain ⟨text, rfl⟩ := List.head?_eq_some_iff.mp slash
    simpa using not_endsInside_lineComment
  | case6 c text _ _ opening pieces later eq ih =>
    rw [eq] at ih
    obtain ⟨rfl, star⟩ := opening
    obtain ⟨text, rfl⟩ := List.head?_eq_some_iff.mp star
    rw [endsInside_opening]
    exact ih
  | case7 c text noPart noLine noBlock pieces later eq ih =>
    rw [eq] at ih
    have alone : c = '/' → text.head? ≠ some '/' ∧ text.head? ≠ some '*' :=
      fun slash => ⟨fun next => noLine ⟨slash, next⟩, fun next => noBlock ⟨slash, next⟩⟩
    rw [endsInside_cons alone]
    exact ih

/-- The star of an opening does not close the comment too. -/
example : (line false ['/', '*', '/']).2 = true := by cbv

end SyntaxExplorer.Highlight
