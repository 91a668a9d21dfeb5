namespace SyntaxExplorer

/-- A place in a text. Lines and columns count from one, columns in characters. -/
structure Location where
  line : Nat
  column : Nat
  deriving DecidableEq, Repr, Inhabited

namespace Location

def start : Location := ⟨1, 1⟩

/-- The place after one more character: a line feed opens a line, all else moves one column. -/
def next (place : Location) (c : Char) : Location :=
  if c = '\n' then ⟨place.line + 1, 1⟩ else ⟨place.line, place.column + 1⟩

def after (place : Location) (text : List Char) : Location :=
  text.foldl next place

def description (place : Location) : String :=
  "line " ++ toString place.line ++ ", column " ++ toString place.column

@[simp] theorem after_nil (place : Location) : place.after [] = place := rfl

@[simp] theorem after_cons (place : Location) (c : Char) (text : List Char) :
    place.after (c :: text) = (place.next c).after text := rfl

theorem after_append (place : Location) (front back : List Char) :
    place.after (front ++ back) = (place.after front).after back :=
  List.foldl_append

/-- Only line feeds open lines. -/
theorem after_line (place : Location) (text : List Char) :
    (place.after text).line = place.line + text.count '\n' := by
  induction text generalizing place with
  | nil => rfl
  | cons c text ih =>
    rw [after_cons, ih]
    by_cases feed : c = '\n'
    · simp only [next, feed, if_true, List.count_cons_self]
      omega
    · simp [next, feed]

end Location

namespace Source

/-- The pieces between line feeds, one more than there are line feeds. -/
def pieces : List Char → List (List Char)
  | [] => [[]]
  | c :: text =>
    if c = '\n' then [] :: pieces text
    else match pieces text with
      | [] => [[c]]
      | line :: lines => (c :: line) :: lines

/-- A line without the carriage return that stood before its line feed. -/
def withoutReturn (line : List Char) : List Char :=
  if line.getLast? = some '\r' then line.dropLast else line

/-- The lines among the pieces: each piece that a line feed ended, and the last piece if it holds
anything. Only a carriage return before a line feed belongs to the line's end. -/
def endedLines : List (List Char) → List (List Char)
  | [] => []
  | [last] => if last = [] then [] else [last]
  | line :: lines => withoutReturn line :: endedLines lines

/-- The lines of a text. A line feed at the very end opens no further line. -/
def lines (text : String) : List (List Char) :=
  endedLines (pieces text.toList)

theorem pieces_ne_nil (text : List Char) : pieces text ≠ [] := by
  cases text with
  | nil => simp [pieces]
  | cons c text =>
    simp only [pieces]
    split
    · simp
    · split <;> simp

end Source

/-- The text with blanks behind it, up to a number of characters. Longer text stays as it is. -/
def padRight (width : Nat) (text : String) : String :=
  text ++ String.ofList (List.replicate (width - text.length) ' ')

/-- The text with blanks before it, up to a number of characters. Longer text stays as it is. -/
def padLeft (width : Nat) (text : String) : String :=
  String.ofList (List.replicate (width - text.length) ' ') ++ text

/-- The text with some characters replaced by a backslash and a letter. -/
def escape (letters : List (Char × Char)) (text : String) : String :=
  String.ofList (text.toList.flatMap fun c =>
    match letters.lookup c with
    | some letter => ['\\', letter]
    | none => [c])

end SyntaxExplorer
