import SyntaxExplorer.Token.Scanner

namespace SyntaxExplorer

/-- The text ends in a closing mark and has no other. -/
def ClosesOnce (inside : List Char) : Prop :=
  (∃ body, inside = body ++ ['*', '/']) ∧
    ∀ before after, inside = before ++ '*' :: '/' :: after → after = []

/-- The texts of each kind of lexemes. -/
inductive HasShape : TokenKind → List Char → Prop
  | keyword {text} (reserved : String.ofList text ∈ keywords) : HasShape .keyword text
  | identifier {c more} (start : isWordStart c = true) (parts : ∀ d ∈ more, isWordPart d = true)
      (free : String.ofList (c :: more) ∉ keywords) : HasShape .identifier (c :: more)
  | number {c more} (start : c.isDigit = true) (parts : ∀ d ∈ more, isNumberPart d = true) :
      HasShape .number (c :: more)
  | sign {c} (known : c ∈ operatorSigns) : HasShape .operator [c]
  | pair {c d} (known : (c, d) ∈ operatorPairs) : HasShape .operator [c, d]
  | punctuation {c} (known : c ∈ punctuationMarks) : HasShape .punctuation [c]
  | lineComment {inside} (oneLine : ∀ d ∈ inside, d ≠ '\n') :
      HasShape .comment ('/' :: '/' :: inside)
  | blockComment {inside} (closed : ClosesOnce inside) : HasShape .comment ('/' :: '*' :: inside)

/-- The next character does not belong to the lexeme: a word or a number cannot go on with it, an
operator forms no pair with it and opens no comment, and a line comment has come to its line's end. -/
def StopsBefore : TokenKind → List Char → Option Char → Prop
  | .keyword, _, next | .identifier, _, next => ∀ d ∈ next, isWordPart d = false
  | .number, _, next => ∀ d ∈ next, isNumberPart d = false
  | .operator, text, next => ∀ c, text = [c] → ∀ d ∈ next,
      (c, d) ∉ operatorPairs ∧ (c = '/' → d ≠ '/' ∧ d ≠ '*')
  | .punctuation, _, _ => True
  | .comment, text, next => ∀ inside, text = '/' :: '/' :: inside → ∀ d ∈ next, d = '\n'

/-- The end of the text stops every lexeme. -/
theorem stopsBefore_end (kind : TokenKind) (text : List Char) : StopsBefore kind text none := by
  cases kind <;> simp [StopsBefore]

/-- The text is a lexeme of that kind, and as long as it can be before that character. -/
structure IsLexeme (kind : TokenKind) (text : List Char) (next : Option Char) : Prop where
  shape : HasShape kind text
  stops : StopsBefore kind text next

theorem keyword_isWord {c : Char} {more : List Char} (reserved : String.ofList (c :: more) ∈ keywords) :
    isWordStart c = true ∧ ∀ d ∈ more, isWordPart d = true := by
  have words : keywords.all (fun word =>
      word.toList.head?.all isWordStart && word.toList.tail.all isWordPart) = true := by decide
  have here := List.all_eq_true.mp words _ reserved
  rw [String.toList_ofList, Bool.and_eq_true] at here
  exact ⟨here.1, List.all_eq_true.mp here.2⟩

theorem nil_not_keyword : String.ofList [] ∉ keywords := by decide

theorem not_wordStart_of_isDigit {c : Char} (digit : c.isDigit = true) : isWordStart c = false := by
  have between : 48 ≤ c.toNat ∧ c.toNat ≤ 57 := Char.isDigit_iff_toNat.mp digit
  by_cases start : isWordStart c = true
  · rw [isWordStart, Bool.or_eq_true, decide_eq_true_eq] at start
    rcases start with letter | rfl
    · have ranges : (decide (c.val ≥ 65 ∧ c.val ≤ 90) || (c.val ≥ 97 && c.val ≤ 122)) = true := letter
      have value : c.toNat = c.val.toNat := rfl
      simp only [Bool.or_eq_true, Bool.and_eq_true, decide_eq_true_eq, ge_iff_le,
        UInt32.le_iff_toNat_le, UInt32.reduceToNat] at ranges
      omega
    · simp at between
  · simpa using start

theorem of_mem_operatorSigns {c : Char} (known : c ∈ operatorSigns) :
    isWordStart c = false ∧ c.isDigit = false ∧ isBlank c = false := by
  have signs : operatorSigns.all (fun c => !isWordStart c && (!c.isDigit && !isBlank c)) = true := by
    decide
  simpa using List.all_eq_true.mp signs c known

theorem sign_of_pair {c d : Char} (known : (c, d) ∈ operatorPairs) : c ∈ operatorSigns ∧ c ≠ '/' := by
  have pairs : operatorPairs.all (fun pair => operatorSigns.contains pair.1 && pair.1 != '/') = true := by
    decide
  simpa using List.all_eq_true.mp pairs (c, d) known

theorem of_mem_punctuationMarks {c : Char} (known : c ∈ punctuationMarks) :
    isWordStart c = false ∧ c.isDigit = false ∧ isBlank c = false ∧ c ∉ operatorSigns := by
  have marks : punctuationMarks.all (fun c =>
      !isWordStart c && (!c.isDigit && (!isBlank c && !operatorSigns.contains c))) = true := by decide
  simpa using List.all_eq_true.mp marks c known

theorem closesOnce_cons {c : Char} {inside : List Char} :
    ClosesOnce (c :: inside) ↔
      (c = '*' ∧ inside = ['/']) ∨
        (¬ (c = '*' ∧ inside.head? = some '/') ∧ ClosesOnce inside) := by
  constructor
  · intro closed
    obtain ⟨⟨body, ends⟩, once⟩ := closed
    by_cases mark : c = '*' ∧ inside.head? = some '/'
    · obtain ⟨rfl, slash⟩ := mark
      obtain ⟨after, rfl⟩ := List.head?_eq_some_iff.mp slash
      have none : after = [] := once [] after rfl
      exact Or.inl ⟨rfl, by rw [none]⟩
    · cases body with
      | nil =>
        obtain ⟨rfl, rfl⟩ := List.cons.inj ends
        exact absurd ⟨rfl, rfl⟩ mark
      | cons _ body =>
        obtain ⟨rfl, rfl⟩ := List.cons.inj ends
        refine Or.inr ⟨mark, ⟨body, rfl⟩, ?_⟩
        intro before after split
        exact once (c :: before) after (by rw [split, List.cons_append])
  · intro closes
    rcases closes with ⟨rfl, rfl⟩ | ⟨mark, ⟨body, rfl⟩, once⟩
    · refine ⟨⟨[], rfl⟩, ?_⟩
      intro before after split
      have length := congrArg List.length split
      simp only [List.length_append, List.length_cons, List.length_nil] at length
      exact List.length_eq_zero_iff.mp (by omega)
    · refine ⟨⟨c :: body, rfl⟩, ?_⟩
      intro before after split
      cases before with
      | nil =>
        obtain ⟨rfl, slash⟩ := List.cons.inj split
        exact absurd ⟨rfl, by rw [slash]; rfl⟩ mark
      | cons _ before => exact once before after (List.cons.inj split).2

namespace Cut

variable {c : Char} {text inside rest : List Char} {cut : Cut}

/-- A comment is closed by the first mark that closes it. -/
theorem closeComment_eq_some_iff :
    closeComment text = some (inside, rest) ↔ ClosesOnce inside ∧ text = inside ++ rest := by
  constructor
  · intro closed
    refine ⟨?_, (closeComment_append closed).symm⟩
    induction text generalizing inside with
    | nil => simp [closeComment] at closed
    | cons c text ih =>
      rw [closeComment] at closed
      by_cases mark : c = '*' ∧ text.head? = some '/'
      · rw [if_pos mark] at closed
        obtain ⟨rfl, -⟩ := Prod.mk.inj (Option.some.inj closed)
        exact closesOnce_cons.mpr (Or.inl ⟨mark.1, rfl⟩)
      · rw [if_neg mark] at closed
        obtain ⟨⟨before, after⟩, later, pair⟩ := Option.map_eq_some_iff.mp closed
        obtain ⟨rfl, rfl⟩ := Prod.mk.inj pair
        have whole := closeComment_append later
        have closes : ClosesOnce before := ih later
        refine closesOnce_cons.mpr (Or.inr ⟨?_, closes⟩)
        intro early
        obtain ⟨tail, rfl⟩ := List.head?_eq_some_iff.mp early.2
        exact mark ⟨early.1, by rw [← whole]; rfl⟩
  · intro closed
    obtain ⟨closed, rfl⟩ := closed
    induction inside with
    | nil =>
      obtain ⟨⟨body, ends⟩, -⟩ := closed
      simp at ends
    | cons c inside ih =>
      rw [List.cons_append, closeComment]
      rcases closesOnce_cons.mp closed with ⟨rfl, rfl⟩ | ⟨mark, closes⟩
      · rfl
      · have filled : inside ≠ [] := by
          intro none
          obtain ⟨⟨body, ends⟩, -⟩ := closes
          simp [none] at ends
        obtain ⟨d, inside, rfl⟩ := List.exists_cons_of_ne_nil filled
        have unclosed : ¬ (c = '*' ∧ (d :: inside ++ rest).head? = some '/') := mark
        rw [if_neg unclosed, ih closes]
        rfl

/-- A run stops only where it has to. -/
theorem run_eq_iff {kind : TokenKind} {holds : Char → Bool} :
    run kind holds text = cut ↔ cut.kind = kind ∧ text = cut.more ++ cut.rest ∧
      (∀ d ∈ cut.more, holds d = true) ∧ ∀ d ∈ cut.rest.head?, holds d = false := by
  constructor
  · rintro rfl
    refine ⟨rfl, (run_append ..).symm, ?_, ?_⟩
    · intro d member
      exact List.all_eq_true.mp List.all_takeWhile d member
    · intro d next
      have stop := List.head?_dropWhile_not holds text
      have here : (text.dropWhile holds).head? = some d := next
      rw [here] at stop
      exact stop
  · intro shape
    obtain ⟨kind', more, rest⟩ := cut
    obtain ⟨rfl, rfl, all, stop⟩ := shape
    have ends : rest.takeWhile holds = [] ∧ rest.dropWhile holds = rest := by
      cases rest with
      | nil => exact ⟨rfl, rfl⟩
      | cons d rest =>
        have other : ¬ holds d = true := by simpa using stop d rfl
        exact ⟨List.takeWhile_cons_of_neg other, List.dropWhile_cons_of_neg other⟩
    rw [run, List.takeWhile_append_of_pos all, List.dropWhile_append_of_pos all, ends.1, ends.2,
      List.append_nil]

theorem word_eq_iff :
    word c text = cut ↔
      cut.kind = (if String.ofList (c :: cut.more) ∈ keywords then .keyword else .identifier) ∧
        text = cut.more ++ cut.rest ∧
        (∀ d ∈ cut.more, isWordPart d = true) ∧ ∀ d ∈ cut.rest.head?, isWordPart d = false := by
  have part := @run_eq_iff text ⟨.identifier, cut.more, cut.rest⟩ .identifier isWordPart
  constructor
  · rintro rfl
    exact ⟨rfl, (part.mp rfl).2⟩
  · intro shape
    have same := part.mpr ⟨rfl, shape.2⟩
    have named := shape.1
    obtain ⟨kind, more, rest⟩ := cut
    rw [word, same]
    exact congrArg (Cut.mk · more rest) named.symm

/-- An operator has a second character exactly if the two form a pair. -/
theorem operator_eq_iff :
    operator c text = cut ↔ cut.kind = .operator ∧ text = cut.more ++ cut.rest ∧
      ((∃ d, cut.more = [d] ∧ (c, d) ∈ operatorPairs) ∨
        (cut.more = [] ∧ ∀ d ∈ cut.rest.head?, (c, d) ∉ operatorPairs)) := by
  constructor
  · rintro rfl
    refine ⟨?_, (operator_append ..).symm, ?_⟩
    · unfold operator
      split
      · rfl
      · split <;> rfl
    · cases text with
      | nil => exact Or.inr ⟨rfl, by simp [operator]⟩
      | cons d rest =>
        by_cases pair : (c, d) ∈ operatorPairs
        · rw [operator, if_pos pair]
          exact Or.inl ⟨d, rfl, pair⟩
        · rw [operator, if_neg pair]
          refine Or.inr ⟨rfl, ?_⟩
          intro e next
          obtain rfl : d = e := by simpa using next
          exact pair
  · intro shape
    obtain ⟨kind, more, rest⟩ := cut
    obtain ⟨rfl, rfl, ⟨d, rfl, pair⟩ | ⟨rfl, alone⟩⟩ := shape
    · rw [List.cons_append, operator, if_pos pair]
      rfl
    · cases rest with
      | nil => rfl
      | cons d rest => rw [List.nil_append, operator, if_neg (alone d rfl)]

theorem first_lineComment : first '/' ('/' :: text) = .ok (run .comment (· ≠ '\n') ('/' :: text)) := by
  rw [first, if_pos ⟨rfl, rfl⟩]

theorem first_blockComment : first '/' ('*' :: text) = blockComment text := by
  rw [first, if_neg (by simp), if_pos ⟨rfl, rfl⟩]
  rfl

/-- A slash alone may open a comment. -/
theorem first_of_ne_slash (other : c ≠ '/') :
    first c text =
      if isWordStart c then .ok (word c text)
      else if c.isDigit then .ok (run .number isNumberPart text)
      else if c ∈ operatorSigns then .ok (operator c text)
      else if c ∈ punctuationMarks then .ok ⟨.punctuation, [], text⟩
      else .error (.unexpectedCharacter c) := by
  rw [first, if_neg (fun opening => other opening.1), if_neg (fun opening => other opening.1)]

theorem first_word (start : isWordStart c = true) : first c text = .ok (word c text) := by
  have other : c ≠ '/' := by
    intro slash
    rw [slash] at start
    cases start
  rw [first_of_ne_slash other, if_pos start]

theorem first_number (start : c.isDigit = true) :
    first c text = .ok (run .number isNumberPart text) := by
  have other : c ≠ '/' := by
    intro slash
    rw [slash] at start
    cases start
  rw [first_of_ne_slash other, if_neg (by simp [not_wordStart_of_isDigit start]), if_pos start]

theorem first_operator (known : c ∈ operatorSigns)
    (alone : c = '/' → text.head? ≠ some '/' ∧ text.head? ≠ some '*') :
    first c text = .ok (operator c text) := by
  obtain ⟨noWord, noDigit, -⟩ := of_mem_operatorSigns known
  rw [first, if_neg (fun opening => (alone opening.1).1 opening.2),
    if_neg (fun opening => (alone opening.1).2 opening.2), if_neg (by simp [noWord]),
    if_neg (by simp [noDigit]), if_pos known]

theorem first_punctuation (known : c ∈ punctuationMarks) :
    first c text = .ok ⟨.punctuation, [], text⟩ := by
  obtain ⟨noWord, noDigit, -, noSign⟩ := of_mem_punctuationMarks known
  have other : c ≠ '/' := by
    intro slash
    rw [slash] at noSign
    exact noSign (by decide)
  rw [first_of_ne_slash other, if_neg (by simp [noWord]), if_neg (by simp [noDigit]),
    if_neg noSign, if_pos known]

theorem run_isLexeme_lineComment
    (found : run .comment (· ≠ '\n') ('/' :: text) = cut) :
    IsLexeme cut.kind ('/' :: cut.more) cut.rest.head? := by
  obtain ⟨kind, whole, oneLine, stop⟩ := run_eq_iff.mp found
  obtain ⟨_, more, rest⟩ := cut
  obtain rfl := kind
  cases more with
  | nil =>
    have slash : rest.head? = some '/' := by
      have same : '/' :: text = rest := whole
      rw [← same]
      rfl
    have early := stop '/' slash
    simp at early
  | cons d more =>
    obtain ⟨rfl, -⟩ := List.cons.inj whole
    refine ⟨.lineComment ?_, ?_⟩
    · intro e member
      simpa using oneLine e (List.mem_cons_of_mem _ member)
    · intro inside _ e next
      simpa using stop e next

theorem blockComment_isLexeme (found : blockComment text = .ok cut) :
    IsLexeme cut.kind ('/' :: cut.more) cut.rest.head? := by
  rw [blockComment] at found
  cases closed : closeComment text with
  | none => simp [closed] at found
  | some pair =>
    obtain ⟨inside, rest⟩ := pair
    rw [closed] at found
    obtain rfl := Except.ok.inj found
    refine ⟨.blockComment (closeComment_eq_some_iff.mp closed).1, ?_⟩
    intro inside same
    simp at same

theorem word_isLexeme (start : isWordStart c = true) (found : word c text = cut) :
    IsLexeme cut.kind (c :: cut.more) cut.rest.head? := by
  obtain ⟨kind, -, parts, stop⟩ := word_eq_iff.mp found
  obtain ⟨_, more, rest⟩ := cut
  by_cases reserved : String.ofList (c :: more) ∈ keywords
  · rw [if_pos reserved] at kind
    obtain rfl := kind
    exact ⟨.keyword reserved, stop⟩
  · rw [if_neg reserved] at kind
    obtain rfl := kind
    exact ⟨.identifier start parts reserved, stop⟩

theorem number_isLexeme (start : c.isDigit = true) (found : run .number isNumberPart text = cut) :
    IsLexeme cut.kind (c :: cut.more) cut.rest.head? := by
  obtain ⟨kind, -, parts, stop⟩ := run_eq_iff.mp found
  obtain ⟨_, more, rest⟩ := cut
  obtain rfl := kind
  exact ⟨.number start parts, stop⟩

theorem operator_isLexeme (known : c ∈ operatorSigns)
    (alone : c = '/' → text.head? ≠ some '/' ∧ text.head? ≠ some '*')
    (found : operator c text = cut) :
    IsLexeme cut.kind (c :: cut.more) cut.rest.head? := by
  obtain ⟨kind, whole, two | one⟩ := operator_eq_iff.mp found
  · obtain ⟨_, more, rest⟩ := cut
    obtain ⟨d, rfl, pair⟩ := two
    obtain rfl := kind
    refine ⟨.pair pair, ?_⟩
    intro e same
    simp at same
  · obtain ⟨_, more, rest⟩ := cut
    obtain ⟨rfl, noPair⟩ := one
    obtain rfl := kind
    obtain rfl : text = rest := whole
    refine ⟨.sign known, ?_⟩
    intro e same d next
    obtain rfl : c = e := by simpa using same
    refine ⟨noPair d next, fun slash => ?_⟩
    constructor
    · rintro rfl
      exact (alone slash).1 next
    · rintro rfl
      exact (alone slash).2 next

/-- What is cut off is a lexeme, whatever its first character is. -/
theorem first_isLexeme (found : first c text = .ok cut) :
    IsLexeme cut.kind (c :: cut.more) cut.rest.head? := by
  by_cases line : c = '/' ∧ text.head? = some '/'
  · obtain ⟨rfl, slash⟩ := line
    obtain ⟨text, rfl⟩ := List.head?_eq_some_iff.mp slash
    rw [first_lineComment] at found
    exact run_isLexeme_lineComment (Except.ok.inj found)
  by_cases block : c = '/' ∧ text.head? = some '*'
  · obtain ⟨rfl, star⟩ := block
    obtain ⟨text, rfl⟩ := List.head?_eq_some_iff.mp star
    rw [first_blockComment] at found
    exact blockComment_isLexeme found
  by_cases start : isWordStart c = true
  · rw [first_word start] at found
    exact word_isLexeme start (Except.ok.inj found)
  by_cases digit : c.isDigit = true
  · rw [first_number digit] at found
    exact number_isLexeme digit (Except.ok.inj found)
  by_cases sign : c ∈ operatorSigns
  · have alone : c = '/' → text.head? ≠ some '/' ∧ text.head? ≠ some '*' :=
      fun slash => ⟨fun next => line ⟨slash, next⟩, fun next => block ⟨slash, next⟩⟩
    rw [first_operator sign alone] at found
    exact operator_isLexeme sign alone (Except.ok.inj found)
  by_cases punctuation : c ∈ punctuationMarks
  · rw [first_punctuation punctuation] at found
    obtain rfl := Except.ok.inj found
    exact ⟨.punctuation punctuation, trivial⟩
  · rw [first, if_neg line, if_neg block, if_neg start, if_neg digit, if_neg sign,
      if_neg punctuation] at found
    cases found

/-- The scanner cuts off exactly the lexemes that are as long as they can be. -/
theorem first_eq_ok_iff :
    first c text = .ok cut ↔
      text = cut.more ++ cut.rest ∧ IsLexeme cut.kind (c :: cut.more) cut.rest.head? := by
  constructor
  · intro found
    exact ⟨(first_append found).symm, first_isLexeme found⟩
  · intro lexical
    obtain ⟨kind, more, rest⟩ := cut
    obtain ⟨rfl, shape, stop⟩ := lexical
    cases shape with
    | keyword reserved =>
      obtain ⟨start, parts⟩ := keyword_isWord reserved
      rw [first_word start]
      exact congrArg _ (word_eq_iff.mpr ⟨(if_pos reserved).symm, rfl, parts, stop⟩)
    | identifier start parts free =>
      rw [first_word start]
      exact congrArg _ (word_eq_iff.mpr ⟨(if_neg free).symm, rfl, parts, stop⟩)
    | number start parts =>
      rw [first_number start]
      exact congrArg _ (run_eq_iff.mpr ⟨rfl, rfl, parts, stop⟩)
    | sign known =>
      have apart := stop c rfl
      rw [first_operator known]
      · exact congrArg _ (operator_eq_iff.mpr ⟨rfl, rfl, Or.inr ⟨rfl, fun d next => (apart d next).1⟩⟩)
      · intro slash
        exact ⟨fun next => ((apart _ next).2 slash).1 rfl, fun next => ((apart _ next).2 slash).2 rfl⟩
    | @pair _ d known =>
      obtain ⟨sign, noSlash⟩ := sign_of_pair known
      rw [first_operator sign fun slash => absurd slash noSlash]
      exact congrArg _ (operator_eq_iff.mpr ⟨rfl, rfl, Or.inl ⟨d, rfl, known⟩⟩)
    | punctuation known => exact first_punctuation known
    | lineComment oneLine =>
      rw [List.cons_append, first_lineComment]
      refine congrArg _ (run_eq_iff.mpr ⟨rfl, rfl, ?_, ?_⟩)
      · intro d member
        rcases List.mem_cons.mp member with rfl | member
        · decide
        · exact decide_eq_true (oneLine d member)
      · intro d next
        have feed := stop _ rfl d next
        simp [feed]
    | @blockComment inside closed =>
      rw [List.cons_append, first_blockComment, blockComment,
        closeComment_eq_some_iff.mpr ⟨closed, rfl⟩]

end Cut

end SyntaxExplorer
