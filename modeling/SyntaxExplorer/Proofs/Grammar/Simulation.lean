import SyntaxExplorer.Grammar.Parser
import SyntaxExplorer.Proofs.Grammar.Nesting

namespace SyntaxExplorer

open Grammar

namespace Parsing

/-- The token where so many are left, and the last token where none is. -/
def tokenAt (tokens : List Token) (left : Nat) : Option Token :=
  (tokens.drop (tokens.length - max 1 left)).head?

/-- The place where so many tokens are left. At the end of the input it is the place of the last
token; without any token it is the start of the source. -/
def locationAt (tokens : List Token) (left : Nat) : Location :=
  (tokenAt tokens left).elim .start Token.location

def locate (tokens : List Token) (fault : Fault) : ParseError :=
  ⟨fault.cause, locationAt tokens fault.left⟩

def resolve (tokens : List Token) : Event → Option Trace
  | .functionDeclaration name => some (.functionDeclaration name)
  | .variableDeclaration name => some (.variableDeclaration name)
  | .statement left => (tokenAt tokens left).map .statement

/-- The reply of a rule to the lexemes of some tokens, told in tokens. -/
def ofReply (tokens : List Token) (reply : Reply SyntaxTree) : Parsing where
  trace := reply.events.filterMap (resolve tokens)
  rest := tokens.drop (tokens.length - reply.rest.length)
  outcome := reply.outcome.mapError (locate tokens)

variable {tokens before left : List Token} {token : Token} {fault : Fault}

/-- The index of the token where so many are left of a number of tokens. -/
def indexAt (count left : Nat) : Nat :=
  count - max 1 left

/-- The end of the input is told by its last token. -/
theorem indexAt_lt (some : tokens ≠ []) (left : Nat) : indexAt tokens.length left < tokens.length := by
  have positive := List.length_pos_iff.mpr some
  rw [indexAt]
  omega

theorem tokenAt_eq (tokens : List Token) (left : Nat) :
    tokenAt tokens left = tokens[indexAt tokens.length left]? := by
  rw [tokenAt, List.head?_drop, indexAt]

theorem tokenAt_cons : tokenAt (before ++ token :: left) (left.length + 1) = some token := by
  have index : (before ++ token :: left).length - max 1 (left.length + 1) = before.length := by
    rw [List.length_append, List.length_cons]
    omega
  rw [tokenAt, index, List.drop_left, List.head?_cons]

theorem tokenAt_zero (tokens : List Token) : tokenAt tokens 0 = tokens.getLast? := by
  rw [tokenAt_eq, List.getLast?_eq_getElem?]
  rfl

theorem locationAt_of_tokenAt {left : Nat} (here : tokenAt tokens left = some token) :
    locationAt tokens left = token.location := by
  rw [locationAt, here, Option.elim_some]

theorem locate_of_tokenAt (here : tokenAt tokens fault.left = some token) :
    locate tokens fault = ⟨fault.cause, token.location⟩ := by
  rw [locate, locationAt_of_tokenAt here]

end Parsing

namespace Parser

open Parsing SyntaxExplorer.Action

variable {α β : Type} {before left : List Token} {token : Token}

/-- The parser between the tokens that are taken and those that are left. -/
def between (before left : List Token) : Parser :=
  ⟨before ++ left, before.length⟩

theorem between_concat :
    between (before ++ [token]) left = ⟨before ++ token :: left, before.length + 1⟩ := by
  rw [between, List.append_assoc, List.length_append]
  rfl

theorem left_between : (between before left).left = left :=
  List.drop_left

theorem peek_between : (between before left).peek = left.head? := by
  rw [peek, between, List.getElem?_append_right (Nat.le_refl _), Nat.sub_self, List.head?_eq_getElem?]

theorem found_between : (between before left).found = (left.map Token.toLexeme).head? := by
  rw [found, peek_between, List.head?_map]

theorem currentLocation_between :
    (between before left).currentLocation = locationAt (before ++ left) left.length := by
  rw [currentLocation, peek_between]
  cases left with
  | nil =>
    rw [List.length_nil, locationAt, tokenAt_zero, between, List.append_nil]
    cases before.getLast? <;> rfl
  | cons token left =>
    rw [List.length_cons, locationAt_of_tokenAt tokenAt_cons]
    rfl

theorem bind_of_ok {first : Action α} {second : α → Action β} {parser after : Parser} {value : α}
    (run : first parser = ⟨[], after, .ok value⟩) :
    (first >>= second) parser = second value after := by
  have unfolded : (first >>= second) parser = andThen first second parser := rfl
  rw [unfolded, andThen, run]
  rfl

theorem bind_of_error {first : Action α} {second : α → Action β} {parser after : Parser}
    {error : ParseError} (run : first parser = ⟨[], after, .error error⟩) :
    (first >>= second) parser = ⟨[], after, .error error⟩ := by
  have unfolded : (first >>= second) parser = andThen first second parser := rfl
  rw [unfolded, andThen, run]

theorem advance_of_nil : advance (between before []) = ⟨[], between before [], .ok none⟩ := by
  rw [advance, peek_between]
  rfl

theorem advance_between :
    advance (between before (token :: left)) =
      ⟨[], between (before ++ [token]) left, .ok (some token)⟩ := by
  rw [advance, peek_between, between_concat]
  rfl

theorem checkKind_between {kind : TokenKind} :
    checkKind kind (between before (token :: left)) = decide (token.kind = kind) := by
  rw [checkKind, peek_between]
  rfl

theorem check_of_eq {kind : TokenKind} {text : String} (same : token.toLexeme = ⟨kind, text⟩) :
    check kind text (between before (token :: left)) = true := by
  simp [check, peek_between, same]

theorem check_of_ne {kind : TokenKind} {text : String}
    (other : ∀ token ∈ left.head?, token.toLexeme ≠ ⟨kind, text⟩) :
    check kind text (between before left) = false := by
  rw [check, peek_between]
  cases left with
  | nil => rfl
  | cons token left => simpa using other token rfl

theorem checkMark_between {text : String} :
    (between before left).checkMark text =
      decide ((left.map Token.toLexeme).head? = some (Rule.mark text)) := by
  rw [checkMark, check, peek_between]
  cases left with
  | nil => rfl
  | cons token left => simp [Rule.mark]

theorem matchToken_of_eq {kind : TokenKind} {text : String} (same : token.toLexeme = ⟨kind, text⟩) :
    matchToken kind text (between before (token :: left)) =
      ⟨[], between (before ++ [token]) left, .ok true⟩ := by
  rw [matchToken, bind_of_ok rfl, check_of_eq same, if_pos rfl, bind_of_ok advance_between]
  rfl

theorem matchToken_of_ne {kind : TokenKind} {text : String}
    (other : ∀ token ∈ left.head?, token.toLexeme ≠ ⟨kind, text⟩) :
    matchToken kind text (between before left) = ⟨[], between before left, .ok false⟩ := by
  rw [matchToken, bind_of_ok rfl, check_of_ne other]
  rfl

section Expect

variable {kind : TokenKind} {text : String} {wanted : Wanted} {place : Place}

theorem expectToken_of_eq (same : token.toLexeme = ⟨kind, text⟩) :
    expectToken kind text wanted place (between before (token :: left)) =
      ⟨[], between (before ++ [token]) left, .ok token⟩ := by
  rw [expectToken, bind_of_ok rfl, check_of_eq same, if_pos rfl, bind_of_ok advance_between]
  rfl

theorem expectToken_of_ne (other : ∀ token ∈ left.head?, token.toLexeme ≠ ⟨kind, text⟩) :
    expectToken kind text wanted place (between before left) =
      stop (.expected wanted place) (between before left) := by
  rw [expectToken, bind_of_ok rfl, check_of_ne other]
  rfl

theorem expectIdentifier_of_eq (fits : token.kind = .identifier) :
    expectIdentifier place (between before (token :: left)) =
      ⟨[], between (before ++ [token]) left, .ok token⟩ := by
  have next : (between before (token :: left)).peek = some token := peek_between
  rw [expectIdentifier, bind_of_ok rfl, next]
  simp only [if_pos fits]
  exact bind_of_ok advance_between

theorem expectIdentifier_of_ne (other : ∀ token ∈ left.head?, token.kind ≠ .identifier) :
    expectIdentifier place (between before left) =
      stop (.expected .identifier place) (between before left) := by
  rw [expectIdentifier, bind_of_ok rfl, peek_between]
  cases left with
  | nil => rfl
  | cons token left => exact congrFun (if_neg (other token rfl)) _

end Expect

section OneOf

variable {kind : TokenKind} {texts : List String}

theorem matchOneOf_of_nil (kind : TokenKind) (texts : List String) :
    matchOneOf kind texts (between before []) = ⟨[], between before [], .ok none⟩ := by
  have none : (between before []).peek = none := peek_between
  rw [matchOneOf, bind_of_ok rfl, none]
  rfl

theorem matchOneOf_of_pos
    (fits : (decide (token.kind = kind) && decide (token.text ∈ texts)) = true) :
    matchOneOf kind texts (between before (token :: left)) =
      ⟨[], between (before ++ [token]) left, .ok (some token)⟩ := by
  have next : (between before (token :: left)).peek = some token := peek_between
  rw [matchOneOf, bind_of_ok rfl, next]
  exact (congrFun (if_pos fits) _).trans advance_between

theorem matchOneOf_of_neg
    (unfit : (decide (token.kind = kind) && decide (token.text ∈ texts)) = false) :
    matchOneOf kind texts (between before (token :: left)) =
      ⟨[], between before (token :: left), .ok none⟩ := by
  have next : (between before (token :: left)).peek = some token := peek_between
  rw [matchOneOf, bind_of_ok rfl, next]
  exact congrFun (if_neg (Bool.not_eq_true _ ▸ unfit)) _

end OneOf

end Parser

namespace Action

open SyntaxExplorer.Parser Parsing

variable {α β : Type}

/-- The reply of a rule to the lexemes that are left, told as progress of the parser of the tokens. -/
def told (tokens : List Token) (reply : Reply α) : Progress α where
  trace := reply.events.filterMap (resolve tokens)
  parser := ⟨tokens, tokens.length - reply.rest.length⟩
  outcome := reply.outcome.mapError (locate tokens)

/-- Wherever the cursor stands in the tokens, the action does with those that are left what the rule does
with their lexemes. The rule takes from the front only, so the cursor comes to stand between two tokens
again. -/
structure Simulates (tokens : List Token) (action : Action α) (rule : Rule α) : Prop where
  front : Rule.TakesFront rule
  run : ∀ before left, before ++ left = tokens →
    action (between before left) = told tokens (rule (left.map Token.toLexeme))

/-- Where the rule leaves the lexemes of some tokens, the cursor is before those. -/
theorem told_between (before left : List Token) (events : List Event) (outcome : Except Fault α) :
    told (before ++ left) ⟨events, left.map Token.toLexeme, outcome⟩ =
      ⟨events.filterMap (resolve (before ++ left)), between before left,
        outcome.mapError (locate (before ++ left))⟩ := by
  have position : (before ++ left).length - (left.map Token.toLexeme).length = before.length := by
    rw [List.length_append, List.length_map]
    omega
  rw [told, position]
  rfl

namespace Simulates

variable {tokens : List Token} {action : Action α} {rule : Rule α}

theorem succeed (value : α) : Simulates tokens (pure value) (Rule.succeed value) := by
  refine ⟨.succeed value, ?_⟩
  rintro before left rfl
  rw [Rule.succeed, told_between]
  rfl

theorem stop (cause : Option Lexeme → Cause) :
    Simulates tokens (Parser.stop cause : Action α) (Rule.fail cause) := by
  refine ⟨.fail cause, ?_⟩
  rintro before left rfl
  have stopped : (Parser.stop cause : Action α) (between before left) =
      ⟨[], between before left, .error ⟨cause (between before left).found,
        (between before left).currentLocation⟩⟩ := rfl
  rw [Rule.fail, Rule.failAt, told_between, stopped, found_between, currentLocation_between,
    List.length_map]
  rfl

theorem raise {cause : Cause} {location : Location} {left : Nat}
    (there : locationAt tokens left = location) :
    Simulates tokens (Action.raise ⟨cause, location⟩ : Action α) (Rule.failAt left cause) := by
  refine ⟨.failAt left cause, ?_⟩
  rintro before rest rfl
  rw [Rule.failAt, told_between, ← there]
  rfl

theorem note {trace : Trace} {event : Event} (resolved : resolve tokens event = some trace) :
    Simulates tokens (Action.note trace) (Rule.note event) := by
  refine ⟨.note event, ?_⟩
  rintro before left rfl
  rw [Rule.note, told_between]
  simp only [List.filterMap_cons, resolved]
  rfl

/-- The second action begins where the first rule left off, as that is between two of the tokens. -/
theorem bind {next : α → Action β} {next' : α → Rule β} (one : Simulates tokens action rule)
    (two : ∀ value, Simulates tokens (next value) (next' value)) :
    Simulates tokens (action >>= next) (rule >>= next') := by
  refine ⟨.bind one.front fun value => (two value).front, ?_⟩
  intro before left whole
  have unfolded : (action >>= next) (between before left) =
      andThen action next (between before left) := rfl
  obtain ⟨taken, split⟩ := one.front (left.map Token.toLexeme)
  obtain ⟨passed, back, rfl, -, lexemes⟩ := List.map_eq_append_iff.mp split.symm
  rcases read : rule ((passed ++ back).map Token.toLexeme) with ⟨events, rest, outcome⟩
  obtain rfl : back.map Token.toLexeme = rest := lexemes.trans (congrArg Reply.rest read)
  have whole' : before ++ passed ++ back = tokens := (List.append_assoc ..).trans whole
  have ran : action (between before (passed ++ back)) =
      ⟨events.filterMap (resolve tokens), between (before ++ passed) back,
        outcome.mapError (locate tokens)⟩ := by
    rw [one.run _ _ whole, read, ← whole', told_between]
  rw [unfolded, andThen, Rule.bind_apply, Rule.andThen, ran, read]
  cases outcome with
  | error fault =>
    subst whole'
    exact (told_between (before ++ passed) back events (.error fault)).symm
  | ok value =>
    have later := (two value).run (before ++ passed) back whole'
    have joined : (events ++ (next' value (back.map Token.toLexeme)).events).filterMap
        (resolve tokens) = _ := List.filterMap_append
    have kept : (Except.ok value).mapError (locate tokens) = .ok value := rfl
    simp only [kept, later, told, joined]

/-- Both get a round for every token that is left. -/
theorem repeating {action : Nat → Action α} {rule : Nat → Rule α}
    (each : ∀ rounds, Simulates tokens (action rounds) (rule rounds)) :
    Simulates tokens (Action.repeating action) (Rule.repeating rule) := by
  refine ⟨.repeating fun rounds => (each rounds).front, ?_⟩
  rintro before left rfl
  have rounds : (before ++ left).length - before.length = (left.map Token.toLexeme).length := by
    rw [List.length_append, List.length_map]
    omega
  have unfolded : Action.repeating action (between before left) =
      action ((before ++ left).length - before.length) (between before left) := rfl
  rw [unfolded, rounds]
  exact (each _).run before left rfl

/-- What is asked about the parser is a matter of the next lexeme. -/
theorem branch {question : Parser → Bool} {holds : Option Lexeme → Bool} {yes no : Action α}
    {yes' no' : Rule α}
    (answer : ∀ before left, question (between before left) =
      holds (left.map Token.toLexeme).head?)
    (one : Simulates tokens yes yes') (two : Simulates tokens no no') :
    Simulates tokens (do if ← ask question then yes else no) (Rule.ahead holds yes' no') := by
  refine ⟨.ahead one.front two.front, ?_⟩
  rintro before left rfl
  rw [bind_of_ok rfl, answer, Rule.ahead]
  split
  · exact one.run before left rfl
  · exact two.run before left rfl

/-- Behind a token that both take they go on. -/
theorem behind {before left : List Token} {token : Token}
    (simulates : Simulates (before ++ token :: left) action rule) :
    action (between (before ++ [token]) left) =
      told (before ++ token :: left) (rule (left.map Token.toLexeme)) :=
  simulates.run (before ++ [token]) left (List.append_assoc ..)

/-- The token that is taken is handed on with its place. -/
theorem advance {taken : Token → Action α} {otherwise : Action α} {taken' : Lexeme → Rule α}
    {otherwise' : Rule α} (one : ∀ token, Simulates tokens (taken token) (taken' token.toLexeme))
    (two : Simulates tokens otherwise otherwise') :
    Simulates tokens
      (do
        match ← Parser.advance with
        | some token => taken token
        | none => otherwise)
      (Rule.take (fun _ => true) taken' otherwise') := by
  refine ⟨.take (fun lexeme => (one ⟨lexeme, .start⟩).front) two.front, ?_⟩
  rintro before left rfl
  cases left with
  | nil =>
    rw [bind_of_ok advance_of_nil]
    exact two.run before [] rfl
  | cons token left =>
    rw [bind_of_ok advance_between, List.map_cons, Rule.take_of_pos rfl]
    exact (one token).behind

theorem matchToken {kind : TokenKind} {text : String} {taken otherwise : Action α}
    {taken' otherwise' : Rule α} (one : Simulates tokens taken taken')
    (two : Simulates tokens otherwise otherwise') :
    Simulates tokens (do if ← Parser.matchToken kind text then taken else otherwise)
      (Rule.take (· = ⟨kind, text⟩) (fun _ => taken') otherwise') := by
  refine ⟨.take (fun _ => one.front) two.front, ?_⟩
  rintro before left rfl
  cases left with
  | nil =>
    rw [bind_of_ok (matchToken_of_ne (by simp))]
    exact two.run before [] rfl
  | cons token left =>
    by_cases same : token.toLexeme = ⟨kind, text⟩
    · rw [bind_of_ok (matchToken_of_eq same), List.map_cons, Rule.take_of_pos (decide_eq_true same)]
      exact one.behind
    · rw [bind_of_ok (matchToken_of_ne (by simpa using same)), List.map_cons,
        Rule.take_of_neg (decide_eq_false same)]
      exact two.run before (token :: left) rfl

theorem matchOneOf {kind : TokenKind} {texts : List String} {taken : Token → Action α}
    {taken' : Lexeme → Rule α} {otherwise : Action α} {otherwise' : Rule α}
    (one : ∀ token, Simulates tokens (taken token) (taken' token.toLexeme))
    (two : Simulates tokens otherwise otherwise') :
    Simulates tokens
      (do
        match ← Parser.matchOneOf kind texts with
        | some token => taken token
        | none => otherwise)
      (Rule.take (fun lexeme => lexeme.kind = kind && lexeme.text ∈ texts) taken' otherwise') := by
  refine ⟨.take (fun lexeme => (one ⟨lexeme, .start⟩).front) two.front, ?_⟩
  rintro before left rfl
  cases left with
  | nil =>
    rw [bind_of_ok (matchOneOf_of_nil kind texts)]
    exact two.run before [] rfl
  | cons token left =>
    cases fits : decide (token.kind = kind) && decide (token.text ∈ texts) with
    | true =>
      rw [bind_of_ok (matchOneOf_of_pos fits), List.map_cons, Rule.take_of_pos fits]
      exact (one token).behind
    | false =>
      rw [bind_of_ok (matchOneOf_of_neg fits), List.map_cons, Rule.take_of_neg fits]
      exact two.run before (token :: left) rfl

theorem expectMark (text : String) (place : Place) :
    Simulates tokens (Parser.expectMark text place) (Rule.expectMark text place) := by
  refine ⟨.expectMark text place, ?_⟩
  rintro before left rfl
  have fails (other : ∀ token ∈ left.head?, token.toLexeme ≠ Rule.mark text) :
      Parser.expectMark text place (between before left) =
        told (before ++ left) (Rule.fail (.expected (.mark text) place) (left.map Token.toLexeme)) :=
    (bind_of_error (expectToken_of_ne other)).trans ((stop _).run before left rfl)
  cases left with
  | nil => exact fails (by simp)
  | cons token left =>
    by_cases same : token.toLexeme = Rule.mark text
    · rw [Parser.expectMark, bind_of_ok (expectToken_of_eq same), Rule.expectMark, List.map_cons,
        Rule.take_of_pos (decide_eq_true same)]
      exact (succeed ()).behind
    · rw [fails (by simpa using same), Rule.expectMark, List.map_cons,
        Rule.take_of_neg (decide_eq_false same)]

/-- The rule hands on no more of an identifier than its name. -/
theorem expectIdentifier {place : Place} {next : Token → Action α} {next' : String → Rule α}
    (one : ∀ token, Simulates tokens (next token) (next' token.text)) :
    Simulates tokens (Parser.expectIdentifier place >>= next)
      (Rule.expectIdentifier place >>= next') := by
  have front (name : String) : Rule.TakesFront (next' name) :=
    (one ⟨⟨.identifier, name⟩, .start⟩).front
  refine ⟨.bind (.expectIdentifier place) front, ?_⟩
  rintro before left rfl
  have fails (other : ∀ token ∈ left.head?, token.kind ≠ .identifier) :
      (Parser.expectIdentifier place >>= next) (between before left) =
        told (before ++ left) (Rule.fail (.expected .identifier place) (left.map Token.toLexeme)) :=
    (bind_of_error (expectIdentifier_of_ne other)).trans ((stop _).run before left rfl)
  cases left with
  | nil => exact fails (by simp)
  | cons token left =>
    by_cases fits : token.kind = .identifier
    · have named : Rule.expectIdentifier place ((token :: left).map Token.toLexeme) =
          ⟨[], left.map Token.toLexeme, .ok token.text⟩ :=
        Rule.take_of_pos (decide_eq_true fits) _
      rw [bind_of_ok (expectIdentifier_of_eq fits), Rule.bind_apply, Rule.andThen, named]
      exact (one token).behind
    · have unnamed : Rule.expectIdentifier place ((token :: left).map Token.toLexeme) =
          Rule.fail (.expected .identifier place) ((token :: left).map Token.toLexeme) :=
        Rule.take_of_neg (decide_eq_false fits) _
      rw [fails (by simpa using fits), Rule.bind_apply, Rule.andThen, unnamed]
      rfl

theorem skipComments : Simulates tokens Parser.skipComments Rule.skipComments := by
  refine ⟨.skipComments, ?_⟩
  rintro before left rfl
  have within (rounds : Nat) (enough : left.length ≤ rounds) :
      skipCommentsWithin rounds (between before left) =
        told (before ++ left) (Rule.skipComments (left.map Token.toLexeme)) := by
    induction left generalizing before rounds with
    | nil => cases rounds with
      | zero => exact (succeed ()).run before [] rfl
      | succ rounds =>
        rw [skipCommentsWithin, bind_of_ok rfl, checkKind, peek_between]
        exact (succeed ()).run before [] rfl
    | cons token left ih =>
      obtain ⟨rounds, rfl⟩ : ∃ fewer, rounds = fewer + 1 := Nat.exists_eq_add_one.mpr (by grind)
      rw [skipCommentsWithin, bind_of_ok rfl, checkKind_between]
      by_cases comment : token.kind = .comment
      · have dropped : Rule.skipComments ((token :: left).map Token.toLexeme) =
            Rule.skipComments (left.map Token.toLexeme) := by
          simp [Rule.skipComments, comment]
        rw [if_pos (decide_eq_true comment), bind_of_ok advance_between,
          ih _ rounds (Nat.le_of_succ_le_succ enough), dropped, List.append_assoc]
        rfl
      · have kept : Rule.skipComments ((token :: left).map Token.toLexeme) =
            Rule.succeed () ((token :: left).map Token.toLexeme) := by
          simp [Rule.skipComments, Rule.succeed, comment]
        rw [kept, if_neg (by simpa using comment)]
        exact (succeed ()).run before (token :: left) rfl
  have rounds : left.length ≤ (before ++ left).length - before.length := by
    rw [List.length_append]
    omega
  exact within _ rounds

end Simulates

end Action

end SyntaxExplorer
