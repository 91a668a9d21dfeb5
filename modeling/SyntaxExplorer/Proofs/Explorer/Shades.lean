import SyntaxExplorer.Explorer.SourcePane
import SyntaxExplorer.Proofs.Token.Shape

namespace SyntaxExplorer.Highlight

open Terminal

/-- The characters of pieces, each in its style. -/
def cells (pieces : List Span) : List (Char × Style) :=
  pieces.flatMap fun span => span.text.toList.map (·, span.style)

theorem cells_piece (text : List Char) (style : Style) (pieces : List Span) :
    cells (piece text style :: pieces) = text.map (·, style) ++ cells pieces := by
  rw [cells, List.flatMap_cons, piece, String.toList_ofList]
  rfl

/-- What is coloured, behind pieces that are coloured already. -/
def follow (pieces : List Span) (coloured : List Span × Bool) : List Span × Bool :=
  (pieces ++ coloured.1, coloured.2)

theorem follow_append (one two : List Span) (coloured : List Span × Bool) :
    follow (one ++ two) coloured = follow one (follow two coloured) := by
  simp [follow]

/-- A line's characters in their styles, and whether a comment is open at its end. -/
def tint (inComment : Bool) (text : List Char) : List (Char × Style) × Bool :=
  (cells (line inComment text).1, (line inComment text).2)

/-- What is tinted, behind some characters in one style. -/
def lead (chunk : List Char) (style : Style) (tinted : List (Char × Style) × Bool) :
    List (Char × Style) × Bool :=
  (chunk.map (·, style) ++ tinted.1, tinted.2)

section Line

variable {c : Char} {text more : List Char}

/-- A word has characters of words and points only. -/
theorem notMem_of_continues {d : Char} (part : isWordPart c = true)
    (goes : ∀ e ∈ more, continues c e = true) (noPart : isWordPart d = false) (noPoint : d ≠ '.') :
    d ∉ c :: more := by
  intro member
  rcases List.mem_cons.mp member with rfl | member
  · rw [noPart] at part
    cases part
  · have goesOn := goes d member
    simp [continues, noPart, noPoint] at goesOn

theorem line_nil (inComment : Bool) : line inComment [] = ([], inComment) := by
  rw [line]

theorem line_word (part : isWordPart c = true) (goes : ∀ d ∈ more, continues c d = true)
    (stops : ∀ d ∈ text.head?, continues c d = false) :
    line false (c :: more ++ text) =
      follow [piece (c :: more) (wordStyle (c :: more))] (line false text) := by
  have cut : Cut.run .identifier (continues c) (more ++ text) = ⟨.identifier, more, text⟩ :=
    Cut.run_eq_iff.mpr ⟨rfl, rfl, goes, stops⟩
  simp only [Cut.run, Cut.mk.injEq, true_and] at cut
  rw [List.cons_append, line, if_pos part, cut.1, cut.2]
  rfl

theorem line_sign (noPart : isWordPart c = false)
    (alone : c = '/' → text.head? ≠ some '/' ∧ text.head? ≠ some '*') :
    line false (c :: text) = follow [piece [c] (signStyle c)] (line false text) := by
  rw [line, if_neg (by simp [noPart]), if_neg (fun opening => (alone opening.1).1 opening.2),
    if_neg (fun opening => (alone opening.1).2 opening.2)]
  rfl

theorem line_lineComment :
    line false ('/' :: '/' :: text) = ([piece ('/' :: '/' :: text) commentStyle], false) := by
  rw [line, if_neg (by decide), if_pos ⟨rfl, rfl⟩]

theorem line_opening :
    line false ('/' :: '*' :: text) = follow [piece ['/', '*'] commentStyle] (line true text) := by
  rw [line, if_neg (by decide), if_neg (by simp), if_pos ⟨rfl, rfl⟩]
  rfl

/-- Inside a comment all up to its closing mark is one piece. -/
theorem line_closed {inside : List Char} (closed : Cut.closeComment (c :: text) = some (inside, more)) :
    line true (c :: text) = follow [piece inside commentStyle] (line false more) := by
  rw [line]
  split
  · rename_i unclosed
    rw [closed] at unclosed
    cases unclosed
  · rename_i same
    rw [closed] at same
    obtain ⟨rfl, rfl⟩ := Prod.mk.inj (Option.some.inj same)
    rfl

theorem line_unclosed (unclosed : Cut.closeComment (c :: text) = none) :
    line true (c :: text) = ([piece (c :: text) commentStyle], true) := by
  rw [line]
  split
  · rfl
  · rename_i closed
    rw [closed] at unclosed
    cases unclosed

/-- A line that is coloured piece by piece is tinted so. -/
theorem tint_of_line {before behind : Bool} {chunk rest : List Char} {style : Style}
    (coloured : line before text = follow [piece chunk style] (line behind rest)) :
    tint before text = lead chunk style (tint behind rest) := by
  rw [tint, coloured, follow, List.singleton_append, cells_piece]
  rfl

theorem tint_nil (inComment : Bool) : tint inComment [] = ([], inComment) := by
  rw [tint, line_nil]
  rfl

theorem tint_word (part : isWordPart c = true) (goes : ∀ d ∈ more, continues c d = true)
    (stops : ∀ d ∈ text.head?, continues c d = false) :
    tint false (c :: more ++ text) = lead (c :: more) (wordStyle (c :: more)) (tint false text) :=
  tint_of_line (line_word part goes stops)

theorem tint_sign (noPart : isWordPart c = false)
    (alone : c = '/' → text.head? ≠ some '/' ∧ text.head? ≠ some '*') :
    tint false (c :: text) = lead [c] (signStyle c) (tint false text) :=
  tint_of_line (line_sign noPart alone)

theorem tint_lineComment : tint false ('/' :: '/' :: text) =
    lead ('/' :: '/' :: text) commentStyle ([], false) := by
  rw [tint, line_lineComment, cells_piece]
  rfl

theorem tint_opening :
    tint false ('/' :: '*' :: text) = lead ['/', '*'] commentStyle (tint true text) :=
  tint_of_line line_opening

theorem tint_closed {inside : List Char} (closed : Cut.closeComment (c :: text) = some (inside, more)) :
    tint true (c :: text) = lead inside commentStyle (tint false more) :=
  tint_of_line (line_closed closed)

theorem tint_unclosed (unclosed : Cut.closeComment text = none) :
    tint true text = lead text commentStyle ([], true) := by
  cases text with
  | nil => exact tint_nil true
  | cons c text =>
    rw [tint, line_unclosed unclosed, cells_piece]
    rfl

theorem tint_closing :
    tint true ('*' :: '/' :: text) = lead ['*', '/'] commentStyle (tint false text) :=
  tint_closed rfl

/-- Inside a comment one character is like the next. -/
theorem tint_inside (goesOn : ¬ (c = '*' ∧ text.head? = some '/')) :
    tint true (c :: text) = lead [c] commentStyle (tint true text) := by
  cases later : Cut.closeComment text with
  | none =>
    have unclosed : Cut.closeComment (c :: text) = none := by
      rw [Cut.closeComment, if_neg goesOn, later]
      rfl
    rw [tint_unclosed unclosed, tint_unclosed later]
    rfl
  | some pair =>
    obtain ⟨inside, more⟩ := pair
    have closed : Cut.closeComment (c :: text) = some (c :: inside, more) := by
      rw [Cut.closeComment, if_neg goesOn, later]
      rfl
    cases text with
    | nil => cases later
    | cons d text =>
      rw [tint_closed closed, tint_closed later]
      rfl

theorem head?_return {d : Char} (other : d ≠ '\r') :
    (text ++ ['\r']).head? = some d ↔ text.head? = some d := by
  cases text with
  | nil => simpa using Ne.symm other
  | cons c text => rfl

theorem closeComment_return (text : List Char) :
    Cut.closeComment (text ++ ['\r']) =
      (Cut.closeComment text).map fun (inside, rest) => (inside, rest ++ ['\r']) := by
  induction text with
  | nil => rfl
  | cons c text ih =>
    simp only [List.cons_append, Cut.closeComment, head?_return (show '/' ≠ '\r' by decide)]
    by_cases mark : c = '*' ∧ text.head? = some '/'
    · obtain ⟨rfl, slash⟩ := mark
      obtain ⟨text, rfl⟩ := List.head?_eq_some_iff.mp slash
      rfl
    · rw [if_neg mark, if_neg mark, ih, Option.map_map, Option.map_map]
      rfl

/-- A carriage return at a line's end changes nothing before it. -/
theorem tint_return (inComment : Bool) (text : List Char) : ∃ style,
    tint inComment (text ++ ['\r']) =
      ((tint inComment text).1 ++ [('\r', style)], (tint inComment text).2) := by
  -- The cases are those in which the line is read; what a case leaves has the return at its end.
  fun_induction line inComment text with
  | case1 inComment =>
    cases inComment with
    | true => exact ⟨commentStyle, by rw [List.nil_append, tint_inside (by simp), tint_nil]; rfl⟩
    | false => exact ⟨signStyle '\r', by rw [List.nil_append, tint_sign rfl (by simp), tint_nil]; rfl⟩
  | case2 c text unclosed =>
    have still : Cut.closeComment (c :: text ++ ['\r']) = none := by
      rw [closeComment_return, unclosed]
      rfl
    refine ⟨commentStyle, ?_⟩
    rw [tint_unclosed still, tint_unclosed unclosed]
    simp [lead]
  | case3 c text inside rest closed _ pieces later eq ih =>
    obtain ⟨style, same⟩ := ih
    have still : Cut.closeComment (c :: (text ++ ['\r'])) = some (inside, rest ++ ['\r']) := by
      rw [← List.cons_append, closeComment_return, closed]
      rfl
    refine ⟨style, ?_⟩
    rw [List.cons_append, tint_closed still, tint_closed closed, same]
    simp [lead]
  | case4 c text part _ word pieces later eq ih =>
    obtain ⟨style, same⟩ := ih
    have goes : ∀ d ∈ text.takeWhile (continues c), continues c d = true :=
      List.all_eq_true.mp List.all_takeWhile
    have stops : ∀ d ∈ (text.dropWhile (continues c)).head?, continues c d = false := by
      intro d next
      have stop := List.head?_dropWhile_not (continues c) text
      rw [Option.mem_def.mp next] at stop
      exact stop
    have still : ∀ d ∈ (text.dropWhile (continues c) ++ ['\r']).head?, continues c d = false := by
      cases rest : text.dropWhile (continues c) with
      | nil => simp [continues, isWordPart]
      | cons d others =>
        rw [rest] at stops
        exact stops
    have whole : c :: text = c :: text.takeWhile (continues c) ++ text.dropWhile (continues c) := by
      rw [List.cons_append, List.takeWhile_append_dropWhile]
    refine ⟨style, ?_⟩
    rw [whole, tint_word part goes stops, List.append_assoc, tint_word part goes still, same]
    simp [lead]
  | case5 c text _ opening =>
    obtain ⟨rfl, slash⟩ := opening
    obtain ⟨text, rfl⟩ := List.head?_eq_some_iff.mp slash
    refine ⟨commentStyle, ?_⟩
    rw [List.cons_append, List.cons_append, tint_lineComment, tint_lineComment]
    simp [lead]
  | case6 c text _ _ opening pieces later eq ih =>
    obtain ⟨style, same⟩ := ih
    obtain ⟨rfl, star⟩ := opening
    obtain ⟨text, rfl⟩ := List.head?_eq_some_iff.mp star
    refine ⟨style, ?_⟩
    rw [List.tail_cons] at same
    rw [List.cons_append, List.cons_append, tint_opening, tint_opening, same]
    simp [lead]
  | case7 c text noPart noLine noBlock pieces later eq ih =>
    obtain ⟨style, same⟩ := ih
    have alone : c = '/' → text.head? ≠ some '/' ∧ text.head? ≠ some '*' :=
      fun slash => ⟨fun next => noLine ⟨slash, next⟩, fun next => noBlock ⟨slash, next⟩⟩
    have still : c = '/' → (text ++ ['\r']).head? ≠ some '/' ∧ (text ++ ['\r']).head? ≠ some '*' := by
      rw [ne_eq, ne_eq, head?_return (by decide), head?_return (by decide)]
      exact alone
    have sign : isWordPart c = false := by simpa using noPart
    refine ⟨style, ?_⟩
    rw [List.cons_append, tint_sign sign still, tint_sign sign alone, same]
    simp [lead]

end Line

/-- Lines that follow one another, tinted, and whether a comment is open at the end of the last. -/
def tints (inComment : Bool) : List (List Char) → List (List (Char × Style)) × Bool
  | [] => ([], inComment)
  | text :: texts =>
    let first := tint inComment text
    let later := tints first.2 texts
    (first.1 :: later.1, later.2)

theorem tints_eq (inComment : Bool) (texts : List (List Char)) :
    tints inComment texts =
      ((lines inComment texts).map cells,
        texts.foldl (fun inComment text => (line inComment text).2) inComment) := by
  induction texts generalizing inComment with
  | nil => rfl
  | cons text texts ih =>
    rw [tints, lines, ih]
    rfl

/-- Styled characters before rows of them. A line feed ends a row and stands in none. -/
def pour (front : List (Char × Style)) (rows : List (List (Char × Style))) :
    List (List (Char × Style)) :=
  front.foldr (fun cell rows =>
    if cell.1 = '\n' then [] :: rows
    else match rows with
      | [] => [[cell]]
      | row :: rows => (cell :: row) :: rows) rows

theorem pour_append (one two : List (Char × Style)) (rows : List (List (Char × Style))) :
    pour (one ++ two) rows = pour one (pour two rows) :=
  List.foldr_append

theorem pour_of_no_feed {front : List (Char × Style)} (noFeed : ∀ cell ∈ front, cell.1 ≠ '\n')
    (row : List (Char × Style)) (rows : List (List (Char × Style))) :
    pour front (row :: rows) = (front ++ row) :: rows := by
  induction front with
  | nil => rfl
  | cons cell front ih =>
    obtain ⟨here, later⟩ := List.forall_mem_cons.mp noFeed
    rw [pour, List.foldr_cons, if_neg here, ← pour, ih later]
    rfl

/-- A text, tinted line by line. -/
def shade (inComment : Bool) (text : List Char) : List (List (Char × Style)) × Bool :=
  tints inComment (Source.pieces text)

/-- What is shaded, behind some characters in one style. -/
def spread (chunk : List Char) (style : Style) (shaded : List (List (Char × Style)) × Bool) :
    List (List (Char × Style)) × Bool :=
  (pour (chunk.map (·, style)) shaded.1, shaded.2)

section Text

variable {c : Char} {text more chunk : List Char} {style : Style}

theorem spread_append (one two : List Char) (shaded : List (List (Char × Style)) × Bool) :
    spread (one ++ two) style shaded = spread one style (spread two style shaded) := by
  simp [spread, pour_append]

theorem shade_feed (inComment : Bool) :
    shade inComment ('\n' :: text) = spread ['\n'] style (shade inComment text) := by
  rw [shade, Source.pieces, if_pos rfl, tints, tint_nil]
  rfl

theorem exists_pieces (text : List Char) :
    ∃ first others, Source.pieces text = first :: others ∧ '\n' ∉ first ∧
      (∀ d ∈ first.head?, text.head? = some d) := by
  cases text with
  | nil => exact ⟨[], [], rfl, by simp, by simp⟩
  | cons c text =>
    by_cases feed : c = '\n'
    · exact ⟨[], Source.pieces text, by rw [Source.pieces, if_pos feed], by simp, by simp⟩
    · obtain ⟨first, others, cut, noFeed, -⟩ := exists_pieces text
      refine ⟨c :: first, others, by rw [Source.pieces, if_neg feed, cut], ?_, by simp⟩
      simp [noFeed, Ne.symm feed]

theorem pieces_append {first : List Char} {others : List (List Char)} (noFeed : '\n' ∉ chunk)
    (cut : Source.pieces text = first :: others) :
    Source.pieces (chunk ++ text) = (chunk ++ first) :: others := by
  induction chunk with
  | nil => exact cut
  | cons c chunk ih =>
    rw [List.mem_cons, not_or] at noFeed
    rw [List.cons_append, Source.pieces, if_neg (Ne.symm noFeed.1), ih noFeed.2]
    rfl

/-- A chunk that is tinted on every line on which it may stand is so in the text. -/
theorem shade_chunk {before behind : Bool} (noFeed : '\n' ∉ chunk)
    (tinted : ∀ rest, '\n' ∉ rest → (∀ d ∈ rest.head?, text.head? = some d) →
      tint before (chunk ++ rest) = lead chunk style (tint behind rest)) :
    shade before (chunk ++ text) = spread chunk style (shade behind text) := by
  obtain ⟨first, others, cut, lineEnds, same⟩ := exists_pieces text
  have noFeeds : ∀ cell ∈ chunk.map (·, style), cell.1 ≠ '\n' := by
    intro cell member feed
    obtain ⟨d, here, rfl⟩ := List.mem_map.mp member
    obtain rfl : d = '\n' := feed
    exact noFeed here
  rw [shade, shade, pieces_append noFeed cut, cut, tints, tints, tinted first lineEnds same, spread,
    pour_of_no_feed noFeeds]
  rfl

/-- Inside a comment all is in its style up to the closing mark, line feeds or not. -/
theorem shade_inside {inside : List Char} (closed : ClosesOnce inside) :
    shade true (inside ++ text) = spread inside commentStyle (shade false text) := by
  induction inside with
  | nil =>
    obtain ⟨⟨body, ends⟩, -⟩ := closed
    simp at ends
  | cons c inside ih =>
    rcases closesOnce_cons.mp closed with ⟨rfl, rfl⟩ | ⟨goesOn, closes⟩
    · exact shade_chunk (by simp) fun rest _ _ => tint_closing
    · have later := ih closes
      rw [List.cons_append, ← List.singleton_append, ← List.singleton_append (l := inside),
        spread_append, ← later]
      by_cases feed : c = '\n'
      · rw [feed]
        exact shade_feed true
      · refine shade_chunk (by simpa using Ne.symm feed) fun rest _ same => tint_inside ?_
        rintro ⟨rfl, slash⟩
        refine goesOn ⟨rfl, ?_⟩
        obtain ⟨⟨body, ends⟩, -⟩ := closes
        have next := same '/' slash
        cases inside with
        | nil => simp at ends
        | cons d inside => exact next

theorem shade_blockComment {inside : List Char} (closed : ClosesOnce inside) :
    shade false ('/' :: '*' :: inside ++ text) =
      spread ('/' :: '*' :: inside) commentStyle (shade false text) := by
  have opening : shade false (['/', '*'] ++ (inside ++ text)) =
      spread ['/', '*'] commentStyle (shade true (inside ++ text)) :=
    shade_chunk (by simp) fun rest _ _ => tint_opening
  have whole : '/' :: '*' :: inside = ['/', '*'] ++ inside := rfl
  rw [whole, spread_append, ← shade_inside closed, ← opening, List.append_assoc]

theorem shade_lineComment {inside : List Char} (oneLine : ∀ d ∈ inside, d ≠ '\n')
    (stops : ∀ d ∈ text.head?, d = '\n') :
    shade false ('/' :: '/' :: inside ++ text) =
      spread ('/' :: '/' :: inside) commentStyle (shade false text) := by
  have noFeed : '\n' ∉ '/' :: '/' :: inside := by
    simpa using fun member => oneLine _ member rfl
  refine shade_chunk noFeed fun rest lineEnds same => ?_
  have last : rest = [] := by
    cases rest with
    | nil => rfl
    | cons d rest =>
      obtain rfl := stops d (same d rfl)
      exact absurd (List.mem_cons_self ..) lineEnds
  rw [last, List.append_nil, tint_nil]
  exact tint_lineComment

theorem shade_sign (noPart : isWordPart c = false) (noFeed : c ≠ '\n')
    (alone : c = '/' → text.head? ≠ some '/' ∧ text.head? ≠ some '*') :
    shade false (c :: text) = spread [c] (signStyle c) (shade false text) := by
  change shade false ([c] ++ text) = _
  refine shade_chunk (by simpa using Ne.symm noFeed) fun rest _ same => tint_sign noPart ?_
  intro slash
  exact ⟨fun next => (alone slash).1 (same _ next), fun next => (alone slash).2 (same _ next)⟩

theorem shade_word (part : isWordPart c = true) (goes : ∀ d ∈ more, continues c d = true)
    (stops : ∀ d ∈ text.head?, continues c d = false) :
    shade false (c :: more ++ text) =
      spread (c :: more) (wordStyle (c :: more)) (shade false text) := by
  have noFeed : '\n' ∉ c :: more := notMem_of_continues part goes rfl (by decide)
  exact shade_chunk noFeed fun rest _ same =>
    tint_word part goes fun d next => stops d (same d next)

end Text

end SyntaxExplorer.Highlight
