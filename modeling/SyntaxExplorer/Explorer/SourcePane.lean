import SyntaxExplorer.Explorer.Pane
import SyntaxExplorer.Source
import SyntaxExplorer.Token.Scanner

namespace SyntaxExplorer

open Terminal

/-- The line that deserves attention, and whether an error is the reason. -/
structure Mark where
  line : Nat
  isError : Bool
  deriving DecidableEq, Repr

namespace Highlight

/-- The style of a word, a number included. -/
def wordStyle (word : List Char) : Style :=
  if String.ofList word ∈ typeNames then .ink Theme.typeName
  else if String.ofList word ∈ keywords then (Style.ink Theme.keyword).strong
  else if word.head?.any Char.isDigit then .ink Theme.number
  else .ink Theme.letters

/-- The style of a character that belongs to no word. -/
def signStyle (c : Char) : Style :=
  if c ∈ brackets then .ink Theme.primary
  else if c ∈ operatorSigns then .ink Theme.operator
  else .ink Theme.letters

/-- Whether a character goes on with a word that begins with another. Points go on with numbers. -/
def continues (first c : Char) : Bool :=
  isWordPart c || (c = '.' && first.isDigit)

/-- A piece of a line in its style. -/
def piece (text : List Char) (style : Style) : Span :=
  ⟨String.ofList text, style⟩

def commentStyle : Style :=
  .ink Theme.comment

/-- A closing mark takes characters. -/
theorem length_lt_of_closeComment {text inside rest : List Char}
    (closed : Cut.closeComment text = some (inside, rest)) : rest.length < text.length := by
  induction text generalizing inside with
  | nil => simp [Cut.closeComment] at closed
  | cons c text ih =>
    simp only [Cut.closeComment] at closed
    split at closed
    · obtain ⟨_, rfl⟩ := Prod.mk.inj (Option.some.inj closed)
      simp only [List.length_tail, List.length_cons]
      omega
    · obtain ⟨⟨before, after⟩, later, pair⟩ := Option.map_eq_some_iff.mp closed
      obtain ⟨_, rfl⟩ := Prod.mk.inj pair
      exact Nat.lt_succ_of_lt (ih later)

/-- The coloured pieces of a line, and whether a comment is open at its end, given whether one is
open at its start. -/
def line (inComment : Bool) (text : List Char) : List Span × Bool :=
  match inComment, text with
  | inComment, [] => ([], inComment)
  | true, c :: text =>
    match closed : Cut.closeComment (c :: text) with
    | none => ([piece (c :: text) commentStyle], true)
    | some (inside, rest) =>
      have := length_lt_of_closeComment closed
      let (pieces, inComment) := line false rest
      (piece inside commentStyle :: pieces, inComment)
  | false, c :: text =>
    if isWordPart c then
      have := (List.dropWhile_sublist (continues c) (l := text)).length_le
      let word := c :: text.takeWhile (continues c)
      let (pieces, inComment) := line false (text.dropWhile (continues c))
      (piece word (wordStyle word) :: pieces, inComment)
    else if c = '/' ∧ text.head? = some '/' then ([piece (c :: text) commentStyle], false)
    else if c = '/' ∧ text.head? = some '*' then
      let (pieces, inComment) := line true text.tail
      (piece [c, '*'] commentStyle :: pieces, inComment)
    else
      let (pieces, inComment) := line false text
      (piece [c] (signStyle c) :: pieces, inComment)
termination_by text.length
decreasing_by all_goals grind

/-- The coloured pieces of lines that follow one another. -/
def lines (inComment : Bool) : List (List Char) → List (List Span)
  | [] => []
  | text :: texts =>
    let (pieces, inComment) := line inComment text
    pieces :: lines inComment texts

/-- Whether a comment is open behind lines that follow one another. -/
def openBehind (inComment : Bool) (texts : List (List Char)) : Bool :=
  texts.foldl (fun inComment text => (line inComment text).2) inComment

/-- Colouring a line changes none of its characters. -/
theorem flatMap_text_line (inComment : Bool) (text : List Char) :
    (line inComment text).1.flatMap (·.text.toList) = text := by
  fun_induction line inComment text with
  | case1 => rfl
  | case2 c text unclosed => simp [piece]
  | case3 c text inside rest closed _ pieces later eq ih =>
    rw [eq] at ih
    simp only [List.flatMap_cons, piece, String.toList_ofList]
    rw [ih]
    exact Cut.closeComment_append closed
  | case4 c text part _ word pieces later eq ih =>
    rw [eq] at ih
    simp only [List.flatMap_cons, piece, String.toList_ofList]
    rw [ih]
    simp [word, List.takeWhile_append_dropWhile]
  | case5 c text _ opening => simp [piece]
  | case6 c text _ _ opening pieces later eq ih =>
    rw [eq] at ih
    simp only [List.flatMap_cons, piece, String.toList_ofList]
    rw [ih]
    cases text with
    | nil => simp at opening
    | cons d text => simp_all
  | case7 c text _ _ _ pieces later eq ih =>
    rw [eq] at ih
    simp [piece, ih]

end Highlight

namespace SourcePane

def numberStyle : Option Mark → Style
  | some ⟨_, true⟩ => (Style.ink Theme.error).strong
  | some ⟨_, false⟩ => (Style.ink Theme.secondary).strong
  | none => .ink Theme.comment

/-- The style in which a marked line's text is shown over its colours. -/
def markStyle (mark : Mark) : Style :=
  if mark.isError then .inkOn .white Theme.error else .ground Theme.selection

/-- A line with its number in front, marked if the mark is on it. -/
def numbered (mark : Option Mark) (number : Nat) (pieces : List Span) : Line :=
  let here := mark.filter (·.line = number)
  let marked (span : Span) : Span :=
    { span with style := (here.elim .plain markStyle).onto span.style }
  ⟨⟨padLeft 4 (toString number) ++ " ", numberStyle here⟩ :: pieces.map marked, .plain⟩

/-- The offset at which the pane is drawn. It follows the mark if it is told to. -/
def settle (height : Nat) (source : String) (mark : Option Mark) (follow : Bool) (offset : Nat) :
    Nat :=
  let shown := Pane.visibleLines height
  let followed := match mark with
    | some mark => if follow then Scroll.toLine shown (mark.line - 1) offset else offset
    | none => offset
  Scroll.within shown (Source.lines source).length followed

/-- Lines that follow one another, each with its number, given whether a comment is open before them. -/
def numberedAll (mark : Option Mark) (inComment : Bool) : List (List Char × Nat) → List Line
  | [] => []
  | (text, number) :: texts =>
    let (pieces, inComment) := Highlight.line inComment text
    numbered mark number pieces :: numberedAll mark inComment texts

/-- The lines in view. Those scrolled past are gone through for the comment that they may leave open. -/
def visible (height : Nat) (source : String) (mark : Option Mark) (offset : Nat) : List Line :=
  let lines := Source.lines source
  let inComment := Highlight.openBehind false (lines.take offset)
  numberedAll mark inComment (((lines.zipIdx 1).drop offset).take (Pane.visibleLines height))

def content (height : Nat) (source : String) (mark : Option Mark) (offset : Nat) : Paragraph where
  lines := visible height source mark offset

def frame (focused : Bool) : Frame :=
  Pane.frame " Source Code " focused 0

end SourcePane

end SyntaxExplorer
