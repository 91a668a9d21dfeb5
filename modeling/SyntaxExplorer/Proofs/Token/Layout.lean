import SyntaxExplorer.Proofs.Token.Shape

namespace SyntaxExplorer

/-- The place behind a piece of text, counted in line feeds and in characters after the last one. -/
def Location.behind (before : List Char) : Location where
  line := 1 + before.count '\n'
  column := 1 + (before.reverse.takeWhile (· ≠ '\n')).length

/-- The text, which stands behind `before`, is made of those tokens with blanks between them. -/
inductive IsLayout : List Char → List Char → List Token → Prop
  | finish {before gap} (blanks : ∀ c ∈ gap, isBlank c = true) : IsLayout before gap []
  | token {before gap kind text rest tokens} (blanks : ∀ c ∈ gap, isBlank c = true)
      (lexeme : IsLexeme kind text rest.head?)
      (others : IsLayout (before ++ gap ++ text) rest tokens) :
      IsLayout before (gap ++ text ++ rest)
        (⟨⟨kind, String.ofList text⟩, .behind (before ++ gap)⟩ :: tokens)

/-- Places may be counted character by character or all at once. -/
theorem Location.after_start (before : List Char) : start.after before = behind before := by
  -- The last line is found from the end, so the text is taken apart there.
  have backwards (text : List Char) : start.after text.reverse =
      ⟨1 + text.count '\n', 1 + (text.takeWhile (· ≠ '\n')).length⟩ := by
    induction text with
    | nil => rfl
    | cons c text ih =>
      rw [List.reverse_cons, after_append, ih, after_cons, after_nil, next]
      by_cases feed : c = '\n'
      · rw [if_pos feed, feed, List.count_cons_self, List.takeWhile_cons_of_neg (by simp)]
        simp only [List.length_nil, Location.mk.injEq]
        exact ⟨by omega, trivial⟩
      · rw [if_neg feed, List.count_cons_of_ne feed, List.takeWhile_cons_of_pos (by simpa using feed)]
        simp only [List.length_cons, Location.mk.injEq]
        exact ⟨trivial, by omega⟩
  have forwards := backwards before.reverse
  rw [List.reverse_reverse, List.count_reverse] at forwards
  exact forwards

variable {c : Char} {before text : List Char} {tokens : List Token} {kind : TokenKind}

/-- A class of characters that none of the four blanks belongs to. -/
theorem not_blank {holds : Char → Bool}
    (spared : [' ', '\t', '\r', '\n'].all (!holds ·) = true) (here : holds c = true) :
    isBlank c = false := by
  by_cases blank : isBlank c = true
  · have member : c ∈ [' ', '\t', '\r', '\n'] := by
      simpa [isBlank, or_assoc] using blank
    have outside := List.all_eq_true.mp spared c member
    simp [here] at outside
  · simpa using blank

/-- No lexeme is empty or begins with a blank. -/
theorem HasShape.begins (shape : HasShape kind text) :
    ∃ first more, text = first :: more ∧ isBlank first = false := by
  cases shape with
  | keyword reserved =>
    cases text with
    | nil => exact absurd reserved nil_not_keyword
    | cons first more =>
      exact ⟨first, more, rfl, not_blank rfl (keyword_isWord reserved).1⟩
  | identifier start => exact ⟨_, _, rfl, not_blank rfl start⟩
  | number start => exact ⟨_, _, rfl, not_blank rfl start⟩
  | sign known => exact ⟨_, _, rfl, (of_mem_operatorSigns known).2.2⟩
  | pair known => exact ⟨_, _, rfl, (of_mem_operatorSigns (sign_of_pair known).1).2.2⟩
  | punctuation known => exact ⟨_, _, rfl, (of_mem_punctuationMarks known).2.2.1⟩
  | lineComment | blockComment => exact ⟨'/', _, rfl, rfl⟩

theorem isLayout_nil : IsLayout before [] tokens ↔ tokens = [] := by
  constructor
  · intro layout
    generalize empty : ([] : List Char) = text at layout
    cases layout with
    | finish => rfl
    | @token _ gap _ text rest _ _ lexeme =>
      obtain ⟨first, more, rfl, -⟩ := lexeme.shape.begins
      simp at empty
  · rintro rfl
    exact .finish (by simp)

/-- A blank in front belongs to the first gap. -/
theorem isLayout_blank (blank : isBlank c = true) :
    IsLayout before (c :: text) tokens ↔ IsLayout (before ++ [c]) text tokens := by
  constructor
  · intro layout
    generalize whole : c :: text = all at layout
    cases layout with
    | finish blanks =>
      subst whole
      exact .finish fun d member => blanks d (List.mem_cons_of_mem _ member)
    | @token _ gap _ word rest _ blanks lexeme others =>
      cases gap with
      | nil =>
        obtain ⟨first, more, rfl, solid⟩ := lexeme.shape.begins
        obtain ⟨rfl, -⟩ := List.cons.inj whole
        rw [blank] at solid
        cases solid
      | cons _ gap =>
        obtain ⟨rfl, rfl⟩ := List.cons.inj whole
        have same : before ++ c :: gap = before ++ [c] ++ gap := by simp
        rw [same] at others ⊢
        exact .token (fun d member => blanks d (List.mem_cons_of_mem _ member)) lexeme others
  · intro layout
    cases layout with
    | finish blanks =>
      refine .finish fun d member => ?_
      rcases List.mem_cons.mp member with rfl | member
      · exact blank
      · exact blanks d member
    | @token _ gap _ word rest _ blanks lexeme others =>
      have same : before ++ [c] ++ gap = before ++ c :: gap := by simp
      rw [same] at others ⊢
      refine @IsLayout.token before (c :: gap) _ word rest _ ?_ lexeme others
      intro d member
      rcases List.mem_cons.mp member with rfl | member
      · exact blank
      · exact blanks d member

/-- Where no blank stands in front, a lexeme does. -/
theorem isLayout_lexeme (solid : isBlank c = false) :
    IsLayout before (c :: text) tokens ↔
      ∃ cut later, Cut.first c text = .ok cut ∧
        IsLayout (before ++ c :: cut.more) cut.rest later ∧
        tokens = ⟨⟨cut.kind, String.ofList (c :: cut.more)⟩, .behind before⟩ :: later := by
  constructor
  · intro layout
    generalize whole : c :: text = all at layout
    cases layout with
    | finish blanks =>
      subst whole
      have blank := blanks c (List.mem_cons_self ..)
      rw [solid] at blank
      cases blank
    | @token _ gap kind word rest later blanks lexeme others =>
      cases gap with
      | cons d gap =>
        obtain ⟨rfl, -⟩ := List.cons.inj whole
        have blank := blanks c (List.mem_cons_self ..)
        rw [solid] at blank
        cases blank
      | nil =>
        obtain ⟨first, more, rfl, -⟩ := lexeme.shape.begins
        obtain ⟨rfl, rfl⟩ := List.cons.inj whole
        rw [List.append_nil] at others ⊢
        exact ⟨⟨kind, more, rest⟩, later, Cut.first_eq_ok_iff.mpr ⟨rfl, lexeme⟩, others, rfl⟩
  · rintro ⟨⟨kind, more, rest⟩, later, found, others, rfl⟩
    obtain ⟨rfl, lexeme⟩ := Cut.first_eq_ok_iff.mp found
    have layout := @IsLayout.token before [] kind (c :: more) rest later (by simp) lexeme
    rw [List.append_nil] at layout
    exact layout others

namespace Scanner

theorem tokens_nil (place : Location) : (Scanner.tokens ⟨[], place⟩).1 = .ok [] := by
  rw [Scanner.tokens]

theorem tokens_blank (blank : isBlank c = true) (place : Location) :
    Scanner.tokens ⟨c :: text, place⟩ = Scanner.tokens ⟨text, place.next c⟩ := by
  rw [Scanner.tokens, if_pos blank]

theorem tokens_error {cause : LexError.Cause} (solid : isBlank c = false)
    (found : Cut.first c text = .error cause) (place : Location) :
    (Scanner.tokens ⟨c :: text, place⟩).1 = .error ⟨cause, place⟩ := by
  rw [Scanner.tokens, if_neg (by simp [solid])]
  split
  · rename_i same
    rw [found] at same
    rw [Except.error.inj same]
  · rename_i same
    rw [found] at same
    rw [Except.error.inj same]
  · rename_i same
    rw [found] at same
    cases same

theorem tokens_lexeme {cut : Cut} (solid : isBlank c = false) (found : Cut.first c text = .ok cut)
    (place : Location) :
    (Scanner.tokens ⟨c :: text, place⟩).1 =
      (Scanner.tokens ⟨cut.rest, place.after (c :: cut.more)⟩).1.map
        (⟨⟨cut.kind, String.ofList (c :: cut.more)⟩, place⟩ :: ·) := by
  rw [Scanner.tokens, if_neg (by simp [solid])]
  split
  · rename_i same
    rw [found] at same
    cases same
  · rename_i same
    rw [found] at same
    cases same
  · rename_i cut' same
    rw [found] at same
    obtain rfl := Except.ok.inj same
    rfl

/-- Wherever the scanner stands, it takes the tokens of the layout of what is left. -/
theorem tokens_eq_ok_iff (before text : List Char) (tokens : List Token) :
    (Scanner.tokens ⟨text, .behind before⟩).1 = .ok tokens ↔ IsLayout before text tokens := by
  have behind_append (more : List Char) :
      (Location.behind before).after more = .behind (before ++ more) := by
    rw [← Location.after_start, ← Location.after_start, Location.after_append]
  -- The scanner's cases are those of the layout: the end, a blank, and a lexeme.
  cases text with
  | nil =>
    rw [tokens_nil, isLayout_nil, Except.ok.injEq]
    exact eq_comm
  | cons c text =>
    by_cases blank : isBlank c = true
    · have moved : (Location.behind before).next c = .behind (before ++ [c]) := behind_append [c]
      rw [tokens_blank blank, moved, isLayout_blank blank]
      exact tokens_eq_ok_iff (before ++ [c]) text tokens
    · have solid : isBlank c = false := by simpa using blank
      rw [isLayout_lexeme solid]
      cases found : Cut.first c text with
      | error cause =>
        rw [tokens_error solid found]
        simp
      | ok cut =>
        have shorter := Cut.rest_length_le found
        rw [tokens_lexeme solid found, behind_append]
        have later := tokens_eq_ok_iff (before ++ c :: cut.more) cut.rest
        constructor
        · intro scanned
          cases outcome : (Scanner.tokens ⟨cut.rest, .behind (before ++ c :: cut.more)⟩).1 with
          | error fault =>
            rw [outcome] at scanned
            cases scanned
          | ok others =>
            rw [outcome] at scanned
            exact ⟨cut, others, rfl, (later others).mp outcome, (Except.ok.inj scanned).symm⟩
        · rintro ⟨_, others, same, layout, rfl⟩
          obtain rfl := Except.ok.inj same
          rw [(later others).mpr layout]
          rfl
termination_by text.length

end Scanner

/-- Blanks stand between lexemes only, apart from those in comments. -/
theorem IsLayout.filter_eq (layout : IsLayout before text tokens) :
    text.filter (!isBlank ·) = (tokens.flatMap (·.text.toList)).filter (!isBlank ·) := by
  have none {gap : List Char} (blanks : ∀ d ∈ gap, isBlank d = true) :
      gap.filter (!isBlank ·) = [] := by
    rw [List.filter_eq_nil_iff]
    intro d member
    simp [blanks d member]
  induction layout with
  | finish blanks => exact none blanks
  | token blanks _ _ ih =>
    rw [List.filter_append, List.filter_append, none blanks, ih, List.flatMap_cons,
      List.filter_append, String.toList_ofList, List.nil_append]

/-- The tokens of a text are the lexemes of its layout. A text has no other layout, and the tokens
have all its characters but blanks. -/
theorem tokenize_eq_ok_iff_isLayout (source : String) (tokens : List Token) :
    (tokenize source = .ok tokens ↔ IsLayout [] source.toList tokens) ∧
      (IsLayout [] source.toList tokens →
        (∀ others, IsLayout [] source.toList others → others = tokens) ∧
          source.toList.filter (!isBlank ·) =
            (tokens.flatMap (·.text.toList)).filter (!isBlank ·)) := by
  have scans (tokens : List Token) :
      tokenize source = .ok tokens ↔ IsLayout [] source.toList tokens :=
    Scanner.tokens_eq_ok_iff [] source.toList tokens
  refine ⟨scans tokens, fun layout => ⟨?_, layout.filter_eq⟩⟩
  intro others layout'
  have same := (scans others).mpr layout'
  rw [(scans tokens).mpr layout] at same
  exact (Except.ok.inj same).symm

theorem tokenize_eq_ok_iff_isLayout_comment :
    ∃ tokens, IsLayout [] "a=\t/*/ */".toList tokens ∧
      (∀ others, IsLayout [] "a=\t/*/ */".toList others → others = tokens) ∧
      "a=\t/*/ */".toList.filter (!isBlank ·) =
        (tokens.flatMap (·.text.toList)).filter (!isBlank ·) := by
  have scanned : tokenize "a=\t/*/ */" = .ok [⟨⟨.identifier, "a"⟩, ⟨1, 1⟩⟩,
      ⟨⟨.operator, "="⟩, ⟨1, 2⟩⟩, ⟨⟨.comment, "/*/ */"⟩, ⟨1, 4⟩⟩] := by
    have text : "a=\t/*/ */".toList = ['a', '=', '\t', '/', '*', '/', ' ', '*', '/'] := rfl
    have name : Cut.first 'a' ['=', '\t', '/', '*', '/', ' ', '*', '/'] =
        .ok ⟨.identifier, [], ['=', '\t', '/', '*', '/', ' ', '*', '/']⟩ := rfl
    have sign : Cut.first '=' ['\t', '/', '*', '/', ' ', '*', '/'] =
        .ok ⟨.operator, [], ['\t', '/', '*', '/', ' ', '*', '/']⟩ := rfl
    have comment : Cut.first '/' ['*', '/', ' ', '*', '/'] =
        .ok ⟨.comment, ['*', '/', ' ', '*', '/'], []⟩ := rfl
    rw [tokenize, Scanner.ofString, text, Scanner.tokens_lexeme rfl name,
      Scanner.tokens_lexeme rfl sign, Scanner.tokens_blank rfl, Scanner.tokens_lexeme rfl comment,
      Scanner.tokens_nil]
    rfl
  have layout := (tokenize_eq_ok_iff_isLayout _ _).1.mp scanned
  exact ⟨_, layout, (tokenize_eq_ok_iff_isLayout _ _).2 layout⟩

end SyntaxExplorer
