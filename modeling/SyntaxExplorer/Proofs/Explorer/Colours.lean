import SyntaxExplorer.Proofs.Explorer.Shades
import SyntaxExplorer.Proofs.Token.Covering

namespace SyntaxExplorer

open Terminal

namespace Token

/-- The token begins where a number among the tokens ends. -/
def followsNumber (tokens : List Token) (token : Token) : Bool :=
  tokens.any fun other => other.kind = .number && other.stop = token.location

/-- The style of a token that stands among others. -/
def styleAmong (tokens : List Token) (token : Token) : Style :=
  match token.kind with
  | .keyword =>
    if token.followsNumber tokens then .ink Theme.number
    else if token.text ∈ typeNames then .ink Theme.typeName
    else (Style.ink Theme.keyword).strong
  | .identifier => if token.followsNumber tokens then .ink Theme.number else .ink Theme.letters
  | .number => .ink Theme.number
  | .operator => .ink Theme.operator
  | .punctuation =>
    if token.text ∈ brackets.map (String.ofList [·]) then .ink Theme.primary
    else .ink Theme.letters
  | .comment => .ink Theme.comment

end Token

namespace Highlight

/-- The style of the place, that of the token which covers it. Blanks have that of letters. -/
def styleAt (tokens : List Token) (place : Location) : Style :=
  (tokens.find? (·.Covers place)).elim (.ink Theme.letters) (Token.styleAmong tokens)

/-- The text, which stands at the place, in the styles of its places. -/
def paint (tokens : List Token) (place : Location) : List Char → List (Char × Style)
  | [] => []
  | c :: text => (c, styleAt tokens place) :: paint tokens (place.next c) text

variable {tokens : List Token} {place : Location} {text : List Char}

theorem styleAt_of_none (none : ∀ token ∈ tokens, ¬ token.Covers place) :
    styleAt tokens place = .ink Theme.letters := by
  have missing : tokens.find? (·.Covers place) = .none := by
    simpa using none
  rw [styleAt, missing]
  rfl

theorem styleAt_of_covers {token : Token}
    (ordered : tokens.Pairwise fun one two => ¬ two.location.Precedes one.stop)
    (member : token ∈ tokens) (covers : token.Covers place) :
    styleAt tokens place = token.styleAmong tokens := by
  cases found : tokens.find? (·.Covers place) with
  | none =>
    have missing := List.find?_eq_none.mp found token member
    exact absurd (decide_eq_true covers) missing
  | some other =>
    have covering : other.Covers place := by simpa using List.find?_some found
    obtain rfl := Token.covers_unique ordered (List.mem_of_find?_eq_some found) member covering covers
    rw [styleAt, found]
    rfl

theorem paint_append (tokens : List Token) (place : Location) (front back : List Char) :
    paint tokens place (front ++ back) =
      paint tokens place front ++ paint tokens (place.after front) back := by
  induction front generalizing place with
  | nil => rfl
  | cons c front ih => rw [List.cons_append, paint, paint, ih, Location.after_cons, List.cons_append]

theorem paint_eq_map {style : Style}
    (same : ∀ front c back, text = front ++ c :: back → styleAt tokens (place.after front) = style) :
    paint tokens place text = text.map (·, style) := by
  induction text generalizing place with
  | nil => rfl
  | cons c text ih =>
    have here := same [] c text rfl
    have later := ih fun front d back split => same (c :: front) d back (by rw [split]; rfl)
    rw [paint, later, ← Location.after_nil place, here]
    rfl

/-- A token is painted in its style. -/
theorem paint_token {kind : TokenKind}
    (ordered : tokens.Pairwise fun one two => ¬ two.location.Precedes one.stop)
    (member : ⟨⟨kind, String.ofList text⟩, place⟩ ∈ tokens) :
    paint tokens place text =
      text.map (·, Token.styleAmong tokens ⟨⟨kind, String.ofList text⟩, place⟩) := by
  refine paint_eq_map fun front c back split => ?_
  refine styleAt_of_covers ordered member ?_
  rw [split]
  exact Token.covers_after

/-- The text, which stands behind `before`, is shaded as it is painted, and no comment is open at its
end. -/
def Agrees (tokens : List Token) (before text : List Char) : Prop :=
  shade false text = (pour (paint tokens (.behind before) text) [[]], false)

theorem Agrees.step {before chunk : List Char} {style : Style}
    (painted : paint tokens (.behind before) chunk = chunk.map (·, style))
    (shaded : shade false (chunk ++ text) = spread chunk style (shade false text))
    (later : Agrees tokens (before ++ chunk) text) : Agrees tokens before (chunk ++ text) := by
  rw [Agrees, Location.behind_append] at later
  rw [Agrees, shaded, later, paint_append, painted, pour_append]
  rfl

section Styles

variable {c : Char} {more : List Char}

theorem isWordPart_eq (c : Char) : isWordPart c = (isWordStart c || c.isDigit) := by
  rw [isWordPart, isWordStart, Char.isAlphanum, Bool.or_right_comm]

theorem wordStyle_of_isDigit (digit : c.isDigit = true) :
    wordStyle (c :: more) = .ink Theme.number := by
  have free : String.ofList (c :: more) ∉ keywords := by
    intro reserved
    have start := (keyword_isWord reserved).1
    rw [not_wordStart_of_isDigit digit] at start
    cases start
  have notType : String.ofList (c :: more) ∉ typeNames := fun type =>
    free (List.mem_append_left _ type)
  rw [wordStyle, if_neg notType, if_neg free, if_pos (by simpa using digit)]

theorem not_isDigit_of_wordStart (start : isWordStart c = true) : c.isDigit = false := by
  cases digit : c.isDigit with
  | false => rfl
  | true =>
    rw [not_wordStart_of_isDigit digit] at start
    cases start

theorem styleAmong_word {kind : TokenKind} (start : isWordStart c = true)
    (word : kind = if String.ofList (c :: more) ∈ keywords then .keyword else .identifier)
    (apart : Token.followsNumber tokens ⟨⟨kind, String.ofList (c :: more)⟩, place⟩ = false) :
    Token.styleAmong tokens ⟨⟨kind, String.ofList (c :: more)⟩, place⟩ = wordStyle (c :: more) := by
  have noDigit := not_isDigit_of_wordStart start
  by_cases reserved : String.ofList (c :: more) ∈ keywords
  · rw [if_pos reserved] at word
    subst word
    by_cases type : String.ofList (c :: more) ∈ typeNames
    · simp only [Token.styleAmong, apart, wordStyle, type, if_true, Bool.false_eq_true, if_false]
    · simp only [Token.styleAmong, apart, wordStyle, type, reserved, if_true, Bool.false_eq_true,
        if_false]
  · rw [if_neg reserved] at word
    subst word
    have notType : String.ofList (c :: more) ∉ typeNames := fun type =>
      reserved (List.mem_append_left _ type)
    simp [-String.ofList_cons, Token.styleAmong, apart, wordStyle, notType, reserved, noDigit]

theorem sign_of_operator (known : c ∈ operatorSigns) :
    isWordPart c = false ∧ c ≠ '\n' ∧ signStyle c = .ink Theme.operator := by
  simp only [operatorSigns, List.mem_cons, List.not_mem_nil, or_false] at known
  rcases known with rfl | rfl | rfl | rfl | rfl | rfl | rfl | rfl | rfl
  all_goals exact ⟨rfl, by decide, rfl⟩

theorem sign_of_punctuation (tokens : List Token) (place : Location) (known : c ∈ punctuationMarks) :
    isWordPart c = false ∧ c ≠ '\n' ∧ c ≠ '/' ∧
      Token.styleAmong tokens ⟨⟨.punctuation, String.ofList [c]⟩, place⟩ = signStyle c := by
  simp only [punctuationMarks, brackets, List.cons_append, List.nil_append, List.mem_cons,
    List.not_mem_nil, or_false] at known
  rcases known with rfl | rfl | rfl | rfl | rfl | rfl | rfl | rfl
  all_goals exact ⟨rfl, by decide, by decide, rfl⟩

theorem second_of_pair {d : Char} (known : (c, d) ∈ operatorPairs) : d ∈ operatorSigns ∧ d ≠ '/' := by
  have pairs : operatorPairs.all (fun pair => operatorSigns.contains pair.2 && pair.2 != '/') = true := by
    decide
  simpa using List.all_eq_true.mp pairs (c, d) known

/-- What begins as a word is one. -/
theorem word_of_isLexeme {kind : TokenKind} {rest : List Char}
    (lexeme : IsLexeme kind (c :: more) rest.head?) (start : isWordStart c = true) :
    kind = (if String.ofList (c :: more) ∈ keywords then .keyword else .identifier) ∧
      (∀ d ∈ more, isWordPart d = true) ∧ ∀ d ∈ rest.head?, isWordPart d = false := by
  have found : Cut.first c (more ++ rest) = .ok ⟨kind, more, rest⟩ :=
    Cut.first_eq_ok_iff.mpr ⟨rfl, lexeme⟩
  rw [Cut.first_word start, Except.ok.injEq] at found
  obtain ⟨same, -, parts, stops⟩ := Cut.word_eq_iff.mp found
  exact ⟨same, parts, stops⟩

theorem number_of_isLexeme {kind : TokenKind} {rest : List Char}
    (lexeme : IsLexeme kind (c :: more) rest.head?) (start : c.isDigit = true) :
    kind = .number ∧ (∀ d ∈ more, isNumberPart d = true) ∧
      ∀ d ∈ rest.head?, isNumberPart d = false := by
  have found : Cut.first c (more ++ rest) = .ok ⟨kind, more, rest⟩ :=
    Cut.first_eq_ok_iff.mpr ⟨rfl, lexeme⟩
  rw [Cut.first_number start, Except.ok.injEq] at found
  obtain ⟨same, -, parts, stops⟩ := Cut.run_eq_iff.mp found
  exact ⟨same, parts, stops⟩

theorem shade_blank (blank : isBlank c = true) :
    shade false (c :: text) = spread [c] (.ink Theme.letters) (shade false text) := by
  have member : c ∈ [' ', '\t', '\r', '\n'] := by
    simpa [isBlank, or_assoc] using blank
  simp only [List.mem_cons, List.not_mem_nil, or_false] at member
  rcases member with rfl | rfl | rfl | rfl
  · exact shade_sign rfl (by decide) (by simp)
  · exact shade_sign rfl (by decide) (by simp)
  · exact shade_sign rfl (by decide) (by simp)
  · exact shade_feed false

theorem shade_wordLexeme {kind : TokenKind} {rest : List Char}
    (lexeme : IsLexeme kind (c :: more) rest.head?) (start : isWordStart c = true)
    (apart : Token.followsNumber tokens ⟨⟨kind, String.ofList (c :: more)⟩, place⟩ = false) :
    shade false (c :: more ++ rest) = spread (c :: more)
      (Token.styleAmong tokens ⟨⟨kind, String.ofList (c :: more)⟩, place⟩) (shade false rest) := by
  obtain ⟨word, parts, stops⟩ := word_of_isLexeme lexeme start
  have noDigit := not_isDigit_of_wordStart start
  have part : isWordPart c = true := by
    rw [isWordPart_eq, start]
    rfl
  rw [styleAmong_word start word apart]
  refine shade_word part (fun d member => ?_) fun d next => ?_
  · rw [continues, parts d member]
    rfl
  · simp [continues, stops d next, noDigit]

/-- A number goes on with a word that begins where it ends. -/
theorem shade_number {word rest : List Char} (start : c.isDigit = true)
    (parts : ∀ d ∈ more, isNumberPart d = true) (letters : ∀ d ∈ word, isWordPart d = true)
    (stops : ∀ d ∈ rest.head?, isWordPart d = false ∧ d ≠ '.') :
    shade false (c :: more ++ word ++ rest) =
      spread (c :: more ++ word) (.ink Theme.number) (shade false rest) := by
  have part : isWordPart c = true := by
    rw [isWordPart_eq, start, Bool.or_true]
  rw [← wordStyle_of_isDigit start, List.cons_append]
  refine shade_word part (fun d member => ?_) fun d next => ?_
  · rcases List.mem_append.mp member with member | member
    · have point := parts d member
      rw [isNumberPart, Bool.or_eq_true] at point
      rcases point with digit | point
      · simp [continues, isWordPart_eq, digit]
      · simp [continues, point, start]
    · rw [continues, letters d member]
      rfl
  · obtain ⟨noPart, noPoint⟩ := stops d next
    simp [continues, noPart, noPoint]

/-- Operators, punctuation and comments are given their styles whatever stands around them. -/
theorem shade_lexeme {kind : TokenKind} {rest : List Char}
    (lexeme : IsLexeme kind (c :: more) rest.head?) (noWord : isWordStart c = false)
    (noDigit : c.isDigit = false) :
    shade false (c :: more ++ rest) = spread (c :: more)
      (Token.styleAmong tokens ⟨⟨kind, String.ofList (c :: more)⟩, place⟩) (shade false rest) := by
  obtain ⟨shape, stops⟩ := lexeme
  cases shape with
  | keyword reserved =>
    rw [(keyword_isWord reserved).1] at noWord
    cases noWord
  | identifier start =>
    rw [start] at noWord
    cases noWord
  | number start =>
    rw [start] at noDigit
    cases noDigit
  | sign known =>
    obtain ⟨noPart, noFeed, style⟩ := sign_of_operator known
    have alone : c = '/' → rest.head? ≠ some '/' ∧ rest.head? ≠ some '*' := fun slash =>
      ⟨fun next => ((stops _ rfl _ next).2 slash).1 rfl, fun next => ((stops _ rfl _ next).2 slash).2 rfl⟩
    change shade false (c :: rest) = spread [c] (.ink Theme.operator) _
    rw [← style]
    exact shade_sign noPart noFeed alone
  | @pair _ d known =>
    obtain ⟨sign, noSlash⟩ := sign_of_pair known
    obtain ⟨next, noComment⟩ := second_of_pair known
    obtain ⟨noPart, noFeed, style⟩ := sign_of_operator sign
    obtain ⟨noPart', noFeed', style'⟩ := sign_of_operator next
    change shade false (c :: d :: rest) = spread ([c] ++ [d]) (.ink Theme.operator) _
    rw [spread_append, shade_sign noPart noFeed fun slash => absurd slash noSlash,
      shade_sign noPart' noFeed' fun slash => absurd slash noComment, style, style']
  | punctuation known =>
    obtain ⟨noPart, noFeed, noSlash, style⟩ := sign_of_punctuation tokens place known
    rw [style]
    exact shade_sign noPart noFeed fun slash => absurd slash noSlash
  | lineComment oneLine => exact shade_lineComment oneLine (stops _ rfl)
  | blockComment closed => exact shade_blockComment closed

end Styles

/-- The tokens all are those done and those of the text, which stands behind `before` and behind all
that are done. -/
structure Stands (all done tokens : List Token) (before text : List Char) : Prop where
  layout : IsLayout before text tokens
  split : all = done ++ tokens
  ordered : all.Pairwise fun one two => ¬ two.location.Precedes one.stop
  passed : ∀ token ∈ done, ¬ (Location.behind before).Precedes token.stop

/-- A word that begins here is no more of a number. -/
def Apart (done : List Token) (place : Location) (text : List Char) : Prop :=
  ∀ c ∈ text.head?, isWordStart c = true →
    ∀ token ∈ done, token.kind = .number → token.stop ≠ place

namespace Stands

variable {all done : List Token} {before more rest : List Char} {c : Char} {kind : TokenKind}

/-- A blank has no token. -/
theorem blank (stands : Stands all done tokens before (c :: text)) (blank : isBlank c = true) :
    paint all (.behind before) [c] = [(c, .ink Theme.letters)] ∧
      Stands all done tokens (before ++ [c]) text := by
  have layout := (isLayout_blank blank).mp stands.layout
  have later : (Location.behind before).Precedes (.behind (before ++ [c])) := by
    rw [Location.behind_append]
    exact Location.precedes_after_cons _ _ _
  constructor
  · rw [paint, paint, styleAt_of_none]
    intro token member covers
    rw [stands.split] at member
    rcases List.mem_append.mp member with member | member
    · exact stands.passed token member covers.2
    · have behind := layout.not_location_precedes member
      exact covers.1 (later.trans_not behind)
  · exact ⟨layout, stands.split, stands.ordered, fun token member ahead =>
      stands.passed token member (later.trans ahead)⟩

/-- A lexeme is a token, and is painted as one. -/
theorem lexeme (stands : Stands all done tokens before (c :: text)) (solid : isBlank c = false) :
    ∃ kind more rest later, text = more ++ rest ∧ IsLexeme kind (c :: more) rest.head? ∧
      tokens = ⟨⟨kind, String.ofList (c :: more)⟩, .behind before⟩ :: later ∧
      paint all (.behind before) (c :: more) = (c :: more).map
        (·, Token.styleAmong all ⟨⟨kind, String.ofList (c :: more)⟩, .behind before⟩) ∧
      Stands all (done ++ [⟨⟨kind, String.ofList (c :: more)⟩, .behind before⟩]) later
        (before ++ c :: more) rest := by
  obtain ⟨⟨kind, more, rest⟩, later, found, others, rfl⟩ := (isLayout_lexeme solid).mp stands.layout
  obtain ⟨rfl, lexeme⟩ := Cut.first_eq_ok_iff.mp found
  have member : ⟨⟨kind, String.ofList (c :: more)⟩, .behind before⟩ ∈ all := by
    rw [stands.split]
    exact List.mem_append_right _ (List.mem_cons_self ..)
  refine ⟨kind, more, rest, later, rfl, lexeme, rfl, paint_token stands.ordered member, others, ?_,
    stands.ordered, ?_⟩
  · rw [stands.split, List.append_assoc]
    rfl
  · intro token member ahead
    rw [Location.behind_append] at ahead
    rcases List.mem_append.mp member with member | member
    · exact stands.passed token member
        ((Location.precedes_after_cons _ _ _).trans ahead)
    · obtain rfl := List.mem_singleton.mp member
      rw [Token.stop, String.toList_ofList] at ahead
      exact Location.not_precedes_self _ ahead

/-- Behind a character more no token that is done ends. -/
theorem apart (stands : Stands all done tokens before text) :
    Apart done (.behind (before ++ c :: more)) rest := by
  rintro d next start token member number ends
  refine stands.passed token member ?_
  rw [ends, Location.behind_append]
  exact Location.precedes_after_cons _ _ _

theorem followsNumber_eq_false (stands : Stands all done tokens before (c :: text))
    (apart : Apart done (.behind before) (c :: text)) (start : isWordStart c = true)
    (word : Lexeme) : Token.followsNumber all ⟨word, .behind before⟩ = false := by
  rw [Token.followsNumber, List.any_eq_false, stands.split]
  intro other member
  simp only [Bool.and_eq_true, decide_eq_true_eq, not_and]
  intro number ends
  rcases List.mem_append.mp member with member | member
  · exact apart c rfl start other member number ends
  · have later := stands.layout.precedes_stop member
    rw [ends] at later
    exact Location.not_precedes_self _ later

end Stands

theorem Apart.append {done : List Token} (apart : Apart done place text) (token : Token)
    (other : token.kind ≠ .number) : Apart (done ++ [token]) place text := by
  intro c next start old member number
  rcases List.mem_append.mp member with member | member
  · exact apart c next start old member number
  · obtain rfl := List.mem_singleton.mp member
    exact absurd number other

/-- No layout begins with a point. -/
theorem not_isLayout_point {before : List Char} : ¬ IsLayout before ('.' :: text) tokens := by
  rw [isLayout_lexeme rfl]
  rintro ⟨cut, later, found, -⟩
  cases found

/-- A word has the style of the number at whose end it begins. -/
theorem styleAmong_afterNumber {kind : TokenKind} {word : String}
    (named : kind = if word ∈ keywords then .keyword else .identifier)
    (follows : Token.followsNumber tokens ⟨⟨kind, word⟩, place⟩ = true) :
    Token.styleAmong tokens ⟨⟨kind, word⟩, place⟩ = .ink Theme.number := by
  split at named
  all_goals
    subst named
    exact if_pos follows

/-- A word that begins where a number ends is painted as more of it. -/
theorem Stands.wordBehindNumber {all done : List Token} {before : List Char} {c : Char}
    {number : Token} (stands : Stands all (done ++ [number]) tokens before (c :: text))
    (numeric : number.kind = .number) (ends : number.stop = .behind before)
    (start : isWordStart c = true) :
    ∃ more rest done later, text = more ++ rest ∧
      paint all (.behind before) (c :: more) = (c :: more).map (·, .ink Theme.number) ∧
      (∀ d ∈ c :: more, isWordPart d = true) ∧
      (∀ d ∈ rest.head?, isWordPart d = false ∧ d ≠ '.') ∧
      Stands all done later (before ++ c :: more) rest ∧
      Apart done (.behind (before ++ c :: more)) rest := by
  obtain ⟨kind, more, rest, later, rfl, lexeme, rfl, painted, moved⟩ :=
    stands.lexeme (not_blank rfl start)
  obtain ⟨named, parts, stops⟩ := word_of_isLexeme lexeme start
  have follows : Token.followsNumber all ⟨⟨kind, String.ofList (c :: more)⟩, .behind before⟩ = true := by
    rw [Token.followsNumber, List.any_eq_true]
    refine ⟨number, ?_, by simp [numeric, ends]⟩
    rw [stands.split, List.append_assoc]
    exact List.mem_append_right _ (List.mem_cons_self ..)
  have noNumber : kind ≠ .number := by
    split at named <;> simp [named]
  rw [styleAmong_afterNumber named follows] at painted
  refine ⟨more, rest, _, later, rfl, painted, ?_, ?_, moved, stands.apart.append _ noNumber⟩
  · refine List.forall_mem_cons.mpr ⟨?_, parts⟩
    rw [isWordPart_eq, start]
    rfl
  · intro d next
    refine ⟨stops d next, ?_⟩
    rintro rfl
    obtain ⟨rest, rfl⟩ := List.head?_eq_some_iff.mp next
    exact not_isLayout_point moved.layout

/-- A number is coloured at one go with the word behind it, if there is one. -/
theorem Stands.number {all done : List Token} {before : List Char} {c : Char}
    (stands : Stands all done tokens before (c :: text)) (digit : c.isDigit = true) :
    ∃ chunk rest done later, text = chunk ++ rest ∧
      paint all (.behind before) (c :: chunk) = (c :: chunk).map (·, .ink Theme.number) ∧
      shade false (c :: chunk ++ rest) =
        spread (c :: chunk) (.ink Theme.number) (shade false rest) ∧
      Stands all done later (before ++ c :: chunk) rest ∧
      Apart done (.behind (before ++ c :: chunk)) rest := by
  obtain ⟨kind, more, rest, later, rfl, lexeme, rfl, painted, moved⟩ :=
    stands.lexeme (not_blank rfl digit)
  obtain ⟨rfl, parts, stops⟩ := number_of_isLexeme lexeme digit
  by_cases word : ∃ w ∈ rest.head?, isWordStart w = true
  · obtain ⟨w, next, start⟩ := word
    obtain ⟨rest, rfl⟩ := List.head?_eq_some_iff.mp next
    have ends : Token.stop ⟨⟨.number, String.ofList (c :: more)⟩, .behind before⟩ =
        .behind (before ++ c :: more) := by
      rw [Token.stop, String.toList_ofList, Location.behind_append]
    obtain ⟨letters, rest, done, later, rfl, painted', letters_all, stops', moved', apart⟩ :=
      moved.wordBehindNumber rfl ends start
    have both : paint all (.behind before) (c :: more ++ w :: letters) =
        (c :: more ++ w :: letters).map (·, .ink Theme.number) := by
      rw [paint_append, painted, List.map_append, ← Location.behind_append, painted']
      rfl
    have whole : before ++ c :: more ++ w :: letters = before ++ c :: (more ++ w :: letters) := by
      simp
    rw [whole] at moved' apart
    exact ⟨more ++ w :: letters, rest, done, later, by simp, both,
      shade_number digit parts letters_all stops', moved', apart⟩
  · refine ⟨more, rest, _, later, rfl, painted, ?_, moved, ?_⟩
    · have noPoint : ∀ d ∈ rest.head?, isWordPart d = false ∧ d ≠ '.' := by
        intro d next
        have noPart := stops d next
        have noWord : isWordStart d = false := by simpa using fun start => word ⟨d, next, start⟩
        rw [isNumberPart, Bool.or_eq_false_iff, decide_eq_false_iff_not] at noPart
        rw [isWordPart_eq, noWord, noPart.1]
        exact ⟨rfl, noPart.2⟩
      have shaded := shade_number digit parts (List.forall_mem_nil _) noPoint
      rwa [List.append_nil] at shaded
    · intro d next start
      exact absurd ⟨d, next, start⟩ word

/-- The scans agree from here on, if no number ends where a word begins here. -/
theorem Stands.agrees {all done tokens : List Token} {before text : List Char}
    (stands : Stands all done tokens before text) (apart : Apart done (.behind before) text) :
    Agrees all before text := by
  cases text with
  | nil =>
    rw [Agrees, shade, Source.pieces, tints, tints, tint_nil]
    rfl
  | cons c text =>
    by_cases blank : isBlank c = true
    · obtain ⟨painted, moved⟩ := stands.blank blank
      exact .step painted (shade_blank blank) (moved.agrees stands.apart)
    by_cases digit : c.isDigit = true
    · obtain ⟨chunk, rest, done, later, rfl, painted, shaded, moved, apart⟩ := stands.number digit
      exact .step painted shaded (moved.agrees apart)
    have noDigit : c.isDigit = false := by simpa using digit
    obtain ⟨kind, more, rest, later, rfl, lexeme, rfl, painted, moved⟩ :=
      stands.lexeme (by simpa using blank)
    have noNumber : kind ≠ .number := by
      rintro rfl
      cases lexeme.shape with
      | number start => exact digit start
    have others := moved.agrees (stands.apart.append _ noNumber)
    by_cases start : isWordStart c = true
    · have alone := stands.followsNumber_eq_false apart start ⟨kind, String.ofList (c :: more)⟩
      exact .step painted (shade_wordLexeme lexeme start alone) others
    · exact .step painted (shade_lexeme lexeme (by simpa using start) noDigit) others
termination_by text.length
decreasing_by all_goals (subst_vars; simp only [List.length_cons, List.length_append]; omega)

/-- The characters of a line in the styles of their places. -/
def row (tokens : List Token) (number : Nat) (text : List Char) : List (Char × Style) :=
  (text.zipIdx 1).map fun (c, column) => (c, styleAt tokens ⟨number, column⟩)

/-- Lines in the styles of their places, the first of which has the number. -/
def rows (tokens : List Token) (number : Nat) (texts : List (List Char)) :
    List (List (Char × Style)) :=
  (texts.zipIdx number).map fun (text, number) => row tokens number text

/-- Painting a text is painting its lines. -/
theorem pour_paint (tokens : List Token) (number column : Nat) {first : List Char}
    {others : List (List Char)} (cut : Source.pieces text = first :: others) :
    pour (paint tokens ⟨number, column⟩ text) [[]] =
      (first.zipIdx column).map (fun (c, column) => (c, styleAt tokens ⟨number, column⟩)) ::
        rows tokens (number + 1) others := by
  induction text generalizing number column first others with
  | nil =>
    obtain ⟨rfl, rfl⟩ := List.cons.inj cut
    rfl
  | cons c text ih =>
    obtain ⟨first', others', cut', -⟩ := exists_pieces text
    rw [Source.pieces, cut'] at cut
    by_cases feed : c = '\n'
    · rw [if_pos feed] at cut
      obtain ⟨rfl, rfl⟩ := List.cons.inj cut
      have moved : (Location.mk number column).next c = ⟨number + 1, 1⟩ := if_pos feed
      rw [paint, moved, pour, List.foldr_cons, if_pos feed, ← pour, ih (number + 1) 1 cut']
      rfl
    · rw [if_neg feed] at cut
      obtain ⟨rfl, rfl⟩ := List.cons.inj cut
      have moved : (Location.mk number column).next c = ⟨number, column + 1⟩ := if_neg feed
      rw [paint, moved, pour, List.foldr_cons, if_neg feed, ← pour, ih number (column + 1) cut']
      rfl

theorem row_concat (tokens : List Token) (number : Nat) (text : List Char) (c : Char) :
    row tokens number (text ++ [c]) =
      row tokens number text ++ [(c, styleAt tokens ⟨number, 1 + text.length⟩)] := by
  rw [row, List.zipIdx_append, List.map_append]
  rfl

/-- A line is coloured as it is painted with its carriage return and without. -/
theorem tint_withoutReturn {inComment : Bool} {number : Nat}
    (painted : (tint inComment text).1 = row tokens number text) :
    tint inComment (Source.withoutReturn text) =
      (row tokens number (Source.withoutReturn text), (tint inComment text).2) := by
  by_cases ends : text.getLast? = some '\r'
  · obtain ⟨front, rfl⟩ := List.getLast?_eq_some_iff.mp ends
    obtain ⟨style, same⟩ := tint_return inComment front
    rw [same, row_concat] at painted
    have first : (tint inComment front).1 = row tokens number front :=
      List.append_inj_left' painted rfl
    rw [Source.withoutReturn, if_pos ends, List.dropLast_concat, same, ← first]
  · rw [Source.withoutReturn, if_neg ends, ← painted]

theorem rows_cons (tokens : List Token) (number : Nat) (text : List Char) (texts : List (List Char)) :
    rows tokens number (text :: texts) = row tokens number text :: rows tokens (number + 1) texts :=
  rfl

/-- The lines of a text are coloured as its pieces are. -/
theorem tints_endedLines {inComment : Bool} {number : Nat} {texts : List (List Char)}
    (painted : (tints inComment texts).1 = rows tokens number texts) :
    tints inComment (Source.endedLines texts) =
      (rows tokens number (Source.endedLines texts), (tints inComment texts).2) := by
  fun_induction Source.endedLines texts generalizing inComment number with
  | case1 => rfl
  | case2 =>
    have none : tints inComment [[]] = ([[]], inComment) := by
      rw [tints, tint_nil]
      rfl
    rw [none]
    rfl
  | case3 last filled => rw [← painted]
  | case4 text texts more ih =>
    rw [tints, rows_cons, List.cons.injEq] at painted
    rw [tints, tints, tint_withoutReturn painted.1, rows_cons, ih painted.2]

end Highlight

/-- Going through the lines scrolled past leaves those in view in the colours that they have when all lines are
coloured from the first. -/
theorem SourcePane.numberedAll_eq (mark : Option Mark) (inComment : Bool) (texts : List (List Char))
    (number offset count : Nat) :
    numberedAll mark (Highlight.openBehind inComment (texts.take offset))
        (((texts.zipIdx number).drop offset).take count) =
      ((((Highlight.lines inComment texts).zipIdx number).drop offset).take count).map
        fun (pieces, number) => numbered mark number pieces := by
  induction texts generalizing inComment number offset count with
  | nil => simp [Highlight.lines, numberedAll]
  | cons text texts ih =>
    rw [Highlight.lines, List.zipIdx_cons, List.zipIdx_cons]
    cases offset with
    | zero =>
      cases count with
      | zero => rfl
      | succ count =>
        have later := ih (Highlight.line inComment text).2 (number + 1) 0 count
        exact congrArg (numbered mark number (Highlight.line inComment text).1 :: ·) later
    | succ offset => exact ih (Highlight.line inComment text).2 (number + 1) offset count

/-- The style that a mark lays over the line with the number. -/
def SourcePane.overlay (mark : Option Mark) (number : Nat) : Style :=
  (mark.filter (·.line = number)).elim .plain SourcePane.markStyle

open Highlight

/-- Behind its number a line is shown in its colours, with the mark's style over them. -/
theorem cells_numbered (mark : Option Mark) (number : Nat) (pieces : List Span) :
    cells (SourcePane.numbered mark number pieces).spans.tail =
      (cells pieces).map fun (c, style) => (c, (SourcePane.overlay mark number).onto style) := by
  rw [SourcePane.numbered, List.tail_cons, cells, cells, List.flatMap_map, List.map_flatMap]
  simp only [List.map_map]
  rfl

/-- Where a source has tokens, each character of each line has the style of the token that covers it,
or that of letters where none does. No comment is open behind the last line. At every scroll offset
and height the pane shows the lines in those styles, with the mark's style over them. -/
theorem tokenize_colours {source : String} {tokens : List Token} (scanned : tokenize source = .ok tokens) :
    (∀ place, ∀ token ∈ tokens, token.Covers place →
        styleAt tokens place = token.styleAmong tokens) ∧
      (∀ place, (∀ token ∈ tokens, ¬ token.Covers place) →
        styleAt tokens place = .ink Theme.letters) ∧
      (Highlight.lines false (Source.lines source)).map cells =
        rows tokens 1 (Source.lines source) ∧
      (Source.lines source).foldl (fun inComment text => (Highlight.line inComment text).2) false =
        false ∧
      ∀ height mark offset,
        (SourcePane.content height source mark offset).lines.map
            (fun line => cells line.spans.tail) =
          ((((rows tokens 1 (Source.lines source)).zipIdx 1).drop offset).take
            (Pane.visibleLines height)).map fun (cells, number) =>
              cells.map fun (c, style) => (c, (SourcePane.overlay mark number).onto style) := by
  have layout := (tokenize_eq_ok_iff_isLayout source tokens).1.mp scanned
  have stands : Stands tokens [] tokens [] source.toList :=
    ⟨layout, rfl, layout.pairwise, by simp⟩
  have agrees : shade false source.toList = (pour (paint tokens ⟨1, 1⟩ source.toList) [[]], false) :=
    stands.agrees (by simp [Apart])
  obtain ⟨first, others, cut, -⟩ := exists_pieces source.toList
  have painted : tints false (Source.pieces source.toList) =
      (rows tokens 1 (Source.pieces source.toList), false) := by
    rw [← shade, agrees, pour_paint tokens 1 1 cut, cut]
    rfl
  have whole : tints false (Source.lines source) = (rows tokens 1 (Source.lines source), false) := by
    rw [Source.lines, tints_endedLines (congrArg Prod.fst painted), painted]
  rw [tints_eq, Prod.mk.injEq] at whole
  refine ⟨fun place token member covers => styleAt_of_covers layout.pairwise member covers,
    fun place none => styleAt_of_none none, whole.1, whole.2, ?_⟩
  intro height mark offset
  rw [SourcePane.content, SourcePane.visible, SourcePane.numberedAll_eq, ← whole.1, List.zipIdx_map, ← List.map_drop, ← List.map_take, List.map_map,
    List.map_map]
  refine List.map_congr_left ?_
  rintro ⟨pieces, number⟩ -
  exact cells_numbered mark number pieces

/-- A comment over two lines, a type, and a word that the pane takes for more of a number. -/
theorem tokenize_colours_wordBehindNumber :
    (Highlight.lines false (Source.lines "/*\r\n*/int 1x")).map cells =
      [[('/', commentStyle), ('*', commentStyle)],
        [('*', commentStyle), ('/', commentStyle), ('i', .ink Theme.typeName),
          ('n', .ink Theme.typeName), ('t', .ink Theme.typeName), (' ', .ink Theme.letters),
          ('1', .ink Theme.number), ('x', .ink Theme.number)]] := by
  have scanned : tokenize "/*\r\n*/int 1x" = .ok [⟨⟨.comment, "/*\r\n*/"⟩, ⟨1, 1⟩⟩,
      ⟨⟨.keyword, "int"⟩, ⟨2, 3⟩⟩, ⟨⟨.number, "1"⟩, ⟨2, 7⟩⟩, ⟨⟨.identifier, "x"⟩, ⟨2, 8⟩⟩] := by
    have text : "/*\r\n*/int 1x".toList =
        ['/', '*', '\r', '\n', '*', '/', 'i', 'n', 't', ' ', '1', 'x'] := rfl
    have comment : Cut.first '/' ['*', '\r', '\n', '*', '/', 'i', 'n', 't', ' ', '1', 'x'] =
        .ok ⟨.comment, ['*', '\r', '\n', '*', '/'], ['i', 'n', 't', ' ', '1', 'x']⟩ := rfl
    have type : Cut.first 'i' ['n', 't', ' ', '1', 'x'] =
        .ok ⟨.keyword, ['n', 't'], [' ', '1', 'x']⟩ := rfl
    have number : Cut.first '1' ['x'] = .ok ⟨.number, [], ['x']⟩ := rfl
    have word : Cut.first 'x' [] = .ok ⟨.identifier, [], []⟩ := rfl
    rw [tokenize, Scanner.ofString, text, Scanner.tokens_lexeme rfl comment,
      Scanner.tokens_lexeme rfl type, Scanner.tokens_blank rfl, Scanner.tokens_lexeme rfl number,
      Scanner.tokens_lexeme rfl word, Scanner.tokens_nil]
    rfl
  obtain ⟨-, -, coloured, -⟩ := tokenize_colours scanned
  rw [coloured]
  rfl

end SyntaxExplorer
