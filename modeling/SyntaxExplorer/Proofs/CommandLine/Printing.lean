import SyntaxExplorer.CommandLine.Response
import SyntaxExplorer.Proofs.CommandLine.Arguments
import SyntaxExplorer.Proofs.Token.Printing

namespace SyntaxExplorer

/-- The bytes are text if they are what the text is encoded as. -/
theorem decodeText_eq_ok_iff {bytes : ByteArray} {source : String} :
    decodeText bytes = .ok source ↔ bytes = source.toUTF8 := by
  rw [decodeText, String.fromUTF8?]
  constructor
  · intro decoded
    split at decoded
    · rename_i text valid
      split at valid
      · obtain rfl := Option.some.inj valid
        obtain rfl := Except.ok.inj decoded
        rfl
      · cases valid
    · cases decoded
  · rintro rfl
    rw [String.toUTF8_eq_toByteArray, dif_pos source.isValidUTF8]
    rfl

theorem decodeText_eq_error {bytes : ByteArray} {reason : ReadFailure}
    (failed : decodeText bytes = .error reason) : reason = .notText := by
  rw [decodeText] at failed
  split at failed
  · cases failed
  · exact (Except.error.inj failed).symm

/-- The text is made of so many lines, each of which a line feed ends. -/
def IsLines (count : Nat) (text : String) : Prop :=
  ∃ lines : List String, lines.length = count ∧ (∀ line ∈ lines, '\n' ∉ line.toList) ∧
    text = String.join (lines.map (· ++ "\n"))

theorem noFeed_padRight {text : String} (line : '\n' ∉ text.toList) (width : Nat) :
    '\n' ∉ (padRight width text).toList := by
  simp [padRight, line]

theorem noFeed_toDigits (number : Nat) : '\n' ∉ Nat.toDigits 10 number := by
  intro feed
  have digit := Nat.isDigit_of_mem_toDigits (by decide) (by decide) feed
  cases digit

/-- A line feed is written as two other characters. -/
theorem noFeed_escape (text : String) : '\n' ∉ (escape [('\n', 'n')] text).toList := by
  rw [escape, String.toList_ofList]
  intro feed
  obtain ⟨c, -, among⟩ := List.mem_flatMap.mp feed
  by_cases same : c = '\n'
  · subst same
    have found : [('\n', 'n')].lookup '\n' = some 'n' := rfl
    simp [found] at among
  · have other : [('\n', 'n')].lookup c = none := by
      rw [List.lookup_cons, beq_eq_false_iff_ne.mpr same]
      rfl
    simp [other, Ne.symm same] at among

namespace CommandLine

/-- What is printed of a part. -/
def Part.text (compilation : Compilation) : Part → String
  | tokens => Response.tokenTable compilation.tokens
  | tree => compilation.tree.outline
  | report => compilation.report.text

namespace Response

/-- A row ends at its only line feed, even if it is that of a comment over several lines. -/
theorem isLines_tokenTable (tokens : List Token) : IsLines tokens.length (tokenTable tokens) := by
  refine ⟨tokens.map fun token => padRight 12 token.kind.name ++ " " ++
    padRight 20 (escape [('\n', 'n')] token.text) ++ " " ++ toString token.location.line ++ ":" ++
      toString token.location.column, by rw [List.length_map], ?_, ?_⟩
  · intro line member
    obtain ⟨token, -, rfl⟩ := List.mem_map.mp member
    have kind : '\n' ∉ token.kind.name.toList := by cases token.kind <;> decide
    simp [noFeed_padRight kind, noFeed_padRight (noFeed_escape token.text), noFeed_toDigits]
  · rw [tokenTable, List.map_map]
    rfl

/-- The parts that are printed are always in the same order. -/
theorem output_eq (options : Options) (compilation : Compilation) :
    output options compilation =
      String.join ((Part.all.filter options.prints).map (Part.text compilation)) := by
  have piece (part : Part) (others : List Part) :
      String.join (((part :: others).filter options.prints).map (Part.text compilation)) =
        (if options.prints part then part.text compilation else "") ++
          String.join ((others.filter options.prints).map (Part.text compilation)) := by
    rw [List.filter_cons]
    split
    · rw [List.map_cons, String.join_cons]
    · rw [String.empty_append]
  have nothing : String.join (([].filter options.prints).map (Part.text compilation)) = "" := rfl
  rw [Part.all, piece, piece, piece, nothing, String.append_empty, ← String.append_assoc]
  rfl

/-- The answer to arguments, given what reading a file gives. -/
def ofArguments (read : String → Except ReadFailure ByteArray) (arguments : List Argument) : Response :=
  ofRequest read (.ofArguments (arguments.map Argument.text))

variable {read : String → Except ReadFailure ByteArray} {arguments : List Argument} {path : String}
  {bytes : ByteArray} {source : String}

/-- A request to print a file of text is answered from the text. -/
theorem ofArguments_of_text (asks : AsksToPrint arguments path)
    (stored : read path = .ok source.toUTF8) :
    ∃ options, ofArguments read arguments = ofSource path options source ∧
      (∀ part, options.prints part = decide (part ∈ partsOf arguments)) ∧
      options.printsAnything = true ∧ options.verbosity = loudnessOf arguments := by
  obtain ⟨options, request, chosen⟩ := asks.ofArguments
  have decoded : (read path).bind decodeText = .ok source := by
    rw [stored]
    exact decodeText_eq_ok_iff.mpr rfl
  refine ⟨options, ?_, chosen⟩
  rw [ofArguments, request, ofRequest, decoded]

/-- A source that compiles is printed, in the parts that are asked for. -/
theorem ofArguments_of_compiles {compilation : Compilation} (asks : AsksToPrint arguments path)
    (stored : read path = .ok source.toUTF8) (compiled : compile source = .ok compilation) :
    ∃ log, ofArguments read arguments = .finished 0
      (String.join ((Part.all.filter (· ∈ partsOf arguments)).map (Part.text compilation))) log := by
  obtain ⟨options, answer, parts, prints, -⟩ := ofArguments_of_text asks stored
  have chosen : options.prints = fun part => decide (part ∈ partsOf arguments) := funext parts
  rw [← chosen, ← output_eq, answer]
  simp only [ofSource, prints, compiled, Bool.not_true, Bool.false_eq_true, if_false]
  exact ⟨_, rfl⟩

/-- Of a source that does not compile nothing is printed, and the error comes last. -/
theorem ofArguments_of_fails {error : CompileError} (asks : AsksToPrint arguments path)
    (stored : read path = .ok source.toUTF8) (failed : compile source = .error error) :
    ∃ log, ofArguments read arguments = .finished 1 "" (log ++ ["Error: " ++ error.message]) := by
  obtain ⟨options, answer, -, prints, -⟩ := ofArguments_of_text asks stored
  rw [answer]
  simp only [ofSource, prints, failed, Bool.not_true, Bool.false_eq_true, if_false]
  exact ⟨_, rfl⟩

/-- Bytes that are not text are not printed either. -/
theorem ofArguments_of_noText (asks : AsksToPrint arguments path) (stored : read path = .ok bytes)
    (noText : ∀ source : String, bytes ≠ source.toUTF8) :
    ofArguments read arguments = .finished 1 ""
      ["Error: Cannot read '" ++ path ++ "': stream did not contain valid UTF-8"] := by
  obtain ⟨options, request, -⟩ := asks.ofArguments
  have undecoded : (read path).bind decodeText = .error .notText := by
    rw [stored]
    change decodeText bytes = .error .notText
    cases decoded : decodeText bytes with
    | ok source => exact absurd (decodeText_eq_ok_iff.mp decoded) (noText source)
    | error reason => rw [decodeText_eq_error decoded]
  rw [ofArguments, request, ofRequest, undecoded]
  have words : "Error: Cannot read '" ++ path ++ "': stream did not contain valid UTF-8" =
      "Error: " ++ ("Cannot read '" ++ path ++ "': " ++ ReadFailure.notText.reason) := by
    have opening : "Error: Cannot read '" = "Error: " ++ "Cannot read '" := by decide
    have closing : "': stream did not contain valid UTF-8" = "': " ++ ReadFailure.notText.reason := by
      decide
    rw [opening, closing]
    simp only [String.append_assoc]
  rw [words]
  rfl

/-- Whether some bytes compile, do not compile, or are no text. -/
theorem bytes_cases (bytes : ByteArray) :
    (∃ source compilation, bytes = source.toUTF8 ∧ compile source = .ok compilation) ∨
      (∃ source error, bytes = source.toUTF8 ∧ compile source = .error error) ∨
      ∀ source : String, bytes ≠ source.toUTF8 := by
  cases decoded : decodeText bytes with
  | ok source =>
    have text := decodeText_eq_ok_iff.mp decoded
    cases outcome : compile source with
    | ok compilation => exact Or.inl ⟨source, compilation, text, outcome⟩
    | error error => exact Or.inr (Or.inl ⟨source, error, text, outcome⟩)
  | error reason =>
    refine Or.inr (Or.inr fun source text => ?_)
    rw [decodeText_eq_ok_iff.mpr text] at decoded
    cases decoded

/-- A request to print ends with the code 0 exactly if the file holds the text of a program. Then the parts
that are asked for are printed in their fixed order, and each token has one line of its table. If not, the
code is 1, nothing is printed, and the error is told. Neither the order of the arguments nor the letters
among them make a difference to code and output. -/
theorem ofArguments_allOrNothing (asks : AsksToPrint arguments path) (stored : read path = .ok bytes) :
    ∃ code output messages, ofArguments read arguments = .finished code output messages ∧
      (code = 0 ↔
        ∃ source compilation, bytes = source.toUTF8 ∧ compile source = .ok compilation) ∧
      (∀ source compilation, bytes = source.toUTF8 → compile source = .ok compilation →
        output = String.join ((Part.all.filter (· ∈ partsOf arguments)).map (Part.text compilation)) ∧
          IsLines compilation.tokens.length (Part.tokens.text compilation)) ∧
      (code ≠ 0 → code = 1 ∧ output = "" ∧
        ((∃ source error, bytes = source.toUTF8 ∧ compile source = .error error ∧
            "Error: " ++ error.message ∈ messages) ∨
          (∀ source : String, bytes ≠ source.toUTF8) ∧
            "Error: Cannot read '" ++ path ++ "': stream did not contain valid UTF-8" ∈ messages)) ∧
      ∀ others, AsksToPrint others path →
        (∀ part, part ∈ partsOf others ↔ part ∈ partsOf arguments) →
          ∃ log, ofArguments read others = .finished code output log := by
  rcases bytes_cases bytes with ⟨source, compilation, rfl, compiled⟩ | ⟨source, error, rfl, failed⟩ | noText
  · obtain ⟨log, answer⟩ := ofArguments_of_compiles asks stored compiled
    refine ⟨_, _, log, answer, iff_of_true rfl ⟨source, compilation, rfl, compiled⟩, ?_, by simp, ?_⟩
    · intro other compilation' same compiled'
      obtain rfl : source = other := String.toByteArray_inj.mp same
      obtain rfl : compilation = compilation' := Except.ok.inj (compiled.symm.trans compiled')
      exact ⟨rfl, isLines_tokenTable compilation.tokens⟩
    · intro others asksOthers same
      simp only [← same]
      exact ofArguments_of_compiles asksOthers stored compiled
  · obtain ⟨log, answer⟩ := ofArguments_of_fails asks stored failed
    have no (other compilation) (same : source.toUTF8 = other.toUTF8) :
        compile other ≠ .ok compilation := by
      obtain rfl : source = other := String.toByteArray_inj.mp same
      simp [failed]
    refine ⟨1, "", _, answer, ?_, ?_, ?_, ?_⟩
    · refine iff_of_false (by decide) ?_
      rintro ⟨other, compilation, same, compiled⟩
      exact no other compilation same compiled
    · intro other compilation same compiled
      exact absurd compiled (no other compilation same)
    · intro _
      exact ⟨rfl, rfl, Or.inl ⟨source, error, rfl, failed, by simp⟩⟩
    · intro others asksOthers _
      obtain ⟨logOthers, answerOthers⟩ := ofArguments_of_fails asksOthers stored failed
      exact ⟨_, answerOthers⟩
  · refine ⟨1, "", _, ofArguments_of_noText asks stored noText, ?_, ?_, ?_, ?_⟩
    · refine iff_of_false (by decide) ?_
      rintro ⟨source, compilation, same, -⟩
      exact noText source same
    · intro source compilation same
      exact absurd same (noText source)
    · intro _
      exact ⟨rfl, rfl, Or.inr ⟨noText, List.mem_singleton_self _⟩⟩
    · intro others asksOthers _
      exact ⟨_, ofArguments_of_noText asksOthers stored noText⟩

/-- The file holds one comment over two lines, which is one line of the table. -/
theorem ofArguments_allOrNothing_comment :
    let read : String → Except ReadFailure ByteArray := fun _ => .ok "/*\n*/".toUTF8
    let arguments : List Argument := [.louder 1, .print .tree, .path "in.c", .print .tokens]
    arguments.map Argument.text = ["-vv", "--tree", "in.c", "--tokens"] ∧
      AsksToPrint arguments "in.c" ∧ read "in.c" = .ok "/*\n*/".toUTF8 ∧
      ∃ messages, ofArguments read arguments =
        .finished 0 "COMMENT      /*\\n*/               1:1\nPROGRAM\n" messages := by
  intro read arguments
  have asks : AsksToPrint arguments "in.c" :=
    { one := rfl, plain := ⟨'i', rfl, by decide⟩, once := by decide, some := by decide }
  have stored : read "in.c" = .ok "/*\n*/".toUTF8 := rfl
  have compiled : compile "/*\n*/" = .ok ⟨[⟨⟨.comment, "/*\n*/"⟩, ⟨1, 1⟩⟩], ⟨.program, none, []⟩,
      .analyze [⟨⟨.comment, "/*\n*/"⟩, ⟨1, 1⟩⟩] ⟨.program, none, []⟩⟩ := by
    have scanned : tokenize "/*\n*/" = .ok [⟨⟨.comment, "/*\n*/"⟩, ⟨1, 1⟩⟩] := by
      have text : "/*\n*/".toList = ['/', '*', '\n', '*', '/'] := rfl
      have comment : Cut.first '/' ['*', '\n', '*', '/'] =
          .ok ⟨.comment, ['*', '\n', '*', '/'], []⟩ := rfl
      rw [tokenize, Scanner.ofString, text, Scanner.tokens_lexeme rfl comment, Scanner.tokens_nil]
      rfl
    exact compile_eq_ok_iff.mpr ⟨scanned, rfl, rfl⟩
  obtain ⟨code, output, messages, answer, succeeds, printed, -⟩ := ofArguments_allOrNothing asks stored
  obtain rfl : code = 0 := succeeds.mpr ⟨_, _, rfl, compiled⟩
  obtain ⟨rfl, -⟩ := printed _ _ rfl compiled
  refine ⟨rfl, asks, stored, messages, ?_⟩
  rw [answer]
  rfl

end Response

end CommandLine

end SyntaxExplorer
