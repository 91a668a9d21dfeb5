import SyntaxExplorer.Proofs.CommandLine.Printing
import SyntaxExplorer.Proofs.Explorer.Session
import SyntaxExplorer.Proofs.Grammar.Announcements
import SyntaxExplorer.Proofs.Grammar.Parsing
import SyntaxExplorer.Proofs.Token.Calls

namespace SyntaxExplorer

open Grammar Rule

/-- A statement that begins among some tokens is told by the token there. -/
theorem Parsing.tokenAt_of_split {tokens before more behind : List Token} {token : Token}
    (place : tokens = before ++ token :: more ++ behind) :
    tokenAt tokens (token :: more ++ behind).length = some token := by
  rw [place, List.append_assoc]
  exact tokenAt_cons

namespace CommandLine

/-- The line is one of the parser's and about the node. The declaration of a function or a variable is told
by its name, and any other statement by the first of the tokens that it is read from. -/
inductive IsTraceLine (tokens : List Token) : String → SyntaxTree → Prop
  | function {name tree} (declares : tree.kind = .functionDeclaration) (named : tree.value = some name) :
      IsTraceLine tokens ("TRACE minic::parser::declarations: function declaration name=" ++ name) tree
  | variable {name tree} (declares : tree.kind = .variableDeclaration) (named : tree.value = some name) :
      IsTraceLine tokens ("TRACE minic::parser::declarations: variable declaration name=" ++ name) tree
  | statement {before more behind token tree} (place : tokens = before ++ token :: more ++ behind)
      (derived : IsPhrase .statement ((token :: more).map Token.toLexeme) [tree])
      (other : tree.kind.isDeclaration = false) :
      IsTraceLine tokens ("TRACE minic::parser::statements: statement token=" ++ token.description ++
        " line=" ++ toString token.location.line) tree

/-- What the parser notices, where it is about the node. -/
inductive IsTrace (tokens : List Token) : Trace → SyntaxTree → Prop
  | function {name tree} (declares : tree.kind = .functionDeclaration) (named : tree.value = some name) :
      IsTrace tokens (.functionDeclaration name) tree
  | variable {name tree} (declares : tree.kind = .variableDeclaration) (named : tree.value = some name) :
      IsTrace tokens (.variableDeclaration name) tree
  | statement {before more behind token tree} (place : tokens = before ++ token :: more ++ behind)
      (derived : IsPhrase .statement ((token :: more).map Token.toLexeme) [tree])
      (other : tree.kind.isDeclaration = false) : IsTrace tokens (.statement token) tree

variable {tokens : List Token} {trace : Trace} {tree : SyntaxTree} {events : List Event} {nodes : List SyntaxTree}
  {source : String} {compilation : Compilation}

namespace LogEntry

section Texts

theorem text_one (level : Level) (origin event name value : String) :
    text ⟨level, origin, event, [(name, value)]⟩ =
      (level.name ++ " " ++ origin ++ ": " ++ event ++ " " ++ name ++ "=") ++ value := by
  simp [text, String.join_cons, String.append_assoc]

theorem text_two (level : Level) (origin event one first two second : String) :
    text ⟨level, origin, event, [(one, first), (two, second)]⟩ =
      (level.name ++ " " ++ origin ++ ": " ++ event ++ " " ++ one ++ "=") ++ first ++
        (" " ++ two ++ "=") ++ second := by
  simp [text, String.join_cons, String.append_assoc]

theorem text_fileRead (path : String) (bytes : Nat) :
    (fileRead path bytes).text =
      "DEBUG minic: read source file path=" ++ path ++ " bytes=" ++ toString bytes := by
  rw [fileRead, text_two]
  rfl

theorem text_tokenized (tokens lines : Nat) :
    (tokenized tokens lines).text = "DEBUG minic::parser::lexer: tokenized source tokens=" ++
      toString tokens ++ " lines=" ++ toString lines := by
  rw [tokenized, text_two]
  rfl

theorem text_parsed (tree : SyntaxTree) :
    (parsed tree).text = "DEBUG minic::parser::parse: parsed program declarations=" ++
      toString tree.children.length ++ " nodes=" ++ toString tree.size := by
  rw [parsed, text_two]
  rfl

theorem text_compiled (tokens nodes : Nat) :
    (compiled tokens nodes).text = "DEBUG minic::compiler: compilation finished tokens=" ++
      toString tokens ++ " nodes=" ++ toString nodes := by
  rw [compiled, text_two]
  rfl

theorem level_traced (trace : Trace) : (traced trace).level = .trace := by
  cases trace <;> rfl

end Texts

section Traces

/-- Each event is resolved, with the names or the token that it is about. -/
theorem exists_trace {event : Event} (told : event.Tells (tokens.map Token.toLexeme) tree) :
    ∃ trace, Parsing.resolve tokens event = some trace ∧ IsTrace tokens trace tree := by
  cases event with
  | functionDeclaration name => exact ⟨_, rfl, .function told.1 told.2⟩
  | variableDeclaration name => exact ⟨_, rfl, .variable told.1 told.2⟩
  | statement left =>
    obtain ⟨word, rest, ⟨front, whole⟩, rfl, derived⟩ := told
    obtain ⟨before, later, rfl, -, split⟩ := List.map_eq_append_iff.mp whole.symm
    obtain ⟨own, behind, rfl, rfl, rfl⟩ := List.map_eq_append_iff.mp split
    obtain ⟨token, more, rfl⟩ : ∃ token more, own = token :: more :=
      List.exists_cons_of_ne_nil fun empty => derived.ne_nil (by rw [empty]; rfl)
    have place : before ++ (token :: more ++ behind) = before ++ token :: more ++ behind :=
      (List.append_assoc ..).symm
    refine ⟨.statement token, ?_, .statement place derived derived.isDeclaration_eq_false⟩
    rw [← List.map_append, List.length_map, Parsing.resolve, Parsing.tokenAt_of_split place]
    rfl

/-- What is noticed is about the nodes that the events tell, one by one. -/
theorem isTrace_of_tells
    (told : List.Forall₂ (Event.Tells (tokens.map Token.toLexeme)) events nodes) :
    List.Forall₂ (IsTrace tokens) (events.filterMap (Parsing.resolve tokens)) nodes := by
  induction told with
  | nil => exact .nil
  | cons here _ ih =>
    obtain ⟨trace, resolved, about⟩ := exists_trace here
    rw [List.filterMap_cons_some resolved]
    exact .cons about ih

/-- The parser notices the announced nodes of its tree. -/
theorem isTrace_of_parse (read : parse tokens = .ok tree) :
    List.Forall₂ (IsTrace tokens) (Parsing.ofTokens tokens).trace (tree.announced false) := by
  obtain ⟨rest, events, reply⟩ := parse_eq_ok_iff_takes.mp read
  rw [Parsing.ofTokens_eq, Parsing.ofReply, reply]
  exact isTrace_of_tells (program_announces reply)

theorem isTraceLine_of_isTrace (about : IsTrace tokens trace tree) :
    IsTraceLine tokens (traced trace).text tree := by
  rcases about with ⟨declares, named⟩ | ⟨declares, named⟩ | ⟨place, derived, other⟩
  · rw [traced, text_one]
    exact .function declares named
  · rw [traced, text_one]
    exact .variable declares named
  · rw [traced, text_two]
    exact .statement place derived other

theorem isTraceLine_map {traces : List Trace} (about : List.Forall₂ (IsTrace tokens) traces nodes) :
    List.Forall₂ (IsTraceLine tokens) (traces.map fun trace => (traced trace).text) nodes := by
  induction about with
  | nil => exact .nil
  | cons here _ ih => exact .cons (isTraceLine_of_isTrace here) ih

end Traces

/-- The scanner comes to the last line, and the parser to the last of its entries. -/
theorem ofStages_eq (compiles : compile source = .ok compilation) :
    ofStages source =
      tokenized compilation.tokens.length (1 + source.toList.count '\n') ::
        (Parsing.ofTokens compilation.tokens).trace.map traced ++ [parsed compilation.tree] := by
  obtain ⟨scanned, read, -⟩ := compile_eq_ok_iff.mp compiles
  have whole : (Scanner.ofString source).tokens =
      (.ok compilation.tokens, ⟨[], Location.start.after source.toList⟩) :=
    Prod.ext scanned (Scanner.next_of_ok scanned)
  have outcome : (Parsing.ofTokens compilation.tokens).outcome = .ok compilation.tree := read
  have line := Location.after_line .start source.toList
  rw [ofStages, whole]
  simp only [outcome, line]
  rfl

theorem ofCompilation_eq (compiles : compile source = .ok compilation) :
    ofCompilation source =
      ofStages source ++ [compiled compilation.tokens.length compilation.tree.size] := by
  rw [ofCompilation, compiles]

/-- An explorer that is opened on a source without errors has none itself. -/
theorem ofLoading_start_eq (compiles : compile source = .ok compilation) (path : Option String) :
    ofLoading (.start source path) = ofStages source ++ [loaded false] := by
  rw [ofLoading, Explorer.start_eq, Inspection.ofSource_of_complete compiles]
  rfl

end LogEntry

namespace Response

/-- The lines before those of the parser: the size of the file, and what the scanner has counted. -/
def linesBefore (path source : String) (compilation : Compilation) : List String :=
  ["DEBUG minic: read source file path=" ++ path ++ " bytes=" ++ toString source.utf8ByteSize,
    "DEBUG minic::parser::lexer: tokenized source tokens=" ++ toString compilation.tokens.length ++
      " lines=" ++ toString (1 + source.toList.count '\n')]

/-- The line of a parser that is done. -/
def treeLine (compilation : Compilation) : String :=
  "DEBUG minic::parser::parse: parsed program declarations=" ++
    toString compilation.tree.children.length ++ " nodes=" ++ toString compilation.tree.size

/-- The lines behind those of the parser: what there is of the tree. -/
def linesBehind (compilation : Compilation) : List String :=
  [treeLine compilation,
    "DEBUG minic::compiler: compilation finished tokens=" ++ toString compilation.tokens.length ++
      " nodes=" ++ toString compilation.tree.size]

/-- The lines behind those of the parser where the explorer is opened. -/
def linesOpening (compilation : Compilation) : List String :=
  [treeLine compilation, "DEBUG minic::ui::app: explorer loaded source error=false"]

theorem shown_append (options : Options) (log later : List LogEntry) :
    shown options (log ++ later) = shown options log ++ shown options later := by
  rw [shown, List.filter_append, List.map_append]
  rfl

theorem shown_of_debug {options : Options} {log : List LogEntry} (verbose : 1 ≤ options.verbosity)
    (debug : ∀ entry ∈ log, entry.level = .debug) : shown options log = log.map LogEntry.text := by
  have all : log.filter (·.level.shownAt options.verbosity) = log := by
    rw [List.filter_eq_self]
    intro entry member
    rw [debug entry member]
    exact decide_eq_true verbose
  rw [shown, all]

theorem shown_traced (options : Options) (traces : List Trace) :
    shown options (traces.map LogEntry.traced) =
      if 2 ≤ options.verbosity then traces.map fun trace => (LogEntry.traced trace).text else [] := by
  have level (entry : LogEntry) (member : entry ∈ traces.map LogEntry.traced) :
      entry.level.shownAt options.verbosity = decide (2 ≤ options.verbosity) := by
    obtain ⟨trace, -, rfl⟩ := List.mem_map.mp member
    rw [LogEntry.level_traced]
    rfl
  rw [shown, List.filter_congr level]
  split
  · rename_i loud
    rw [decide_eq_true loud, List.filter_true, List.map_map]
    rfl
  · rename_i quiet
    rw [decide_eq_false quiet, List.filter_false, List.map_nil]

theorem shown_stages (compiles : compile source = .ok compilation) {options : Options}
    (verbose : 1 ≤ options.verbosity) (path : String) (last : LogEntry) :
    shown options (.fileRead path source.utf8ByteSize :: (LogEntry.ofStages source ++ [last])) =
      linesBefore path source compilation ++
        (if 2 ≤ options.verbosity then
          (Parsing.ofTokens compilation.tokens).trace.map fun trace => (LogEntry.traced trace).text
        else []) ++ treeLine compilation :: shown options [last] := by
  have before : shown options [.fileRead path source.utf8ByteSize,
      .tokenized compilation.tokens.length (1 + source.toList.count '\n')] =
        linesBefore path source compilation := by
    rw [shown_of_debug verbose (by simp [LogEntry.fileRead, LogEntry.tokenized]), List.map_cons,
      List.map_singleton, LogEntry.text_fileRead, LogEntry.text_tokenized, linesBefore]
  have parsed : shown options [.parsed compilation.tree] = [treeLine compilation] := by
    rw [shown_of_debug verbose (by simp [LogEntry.parsed]), List.map_singleton]
    exact congrArg (fun line => [line]) (LogEntry.text_parsed compilation.tree)
  have stages : .fileRead path source.utf8ByteSize :: (LogEntry.ofStages source ++ [last]) =
      [.fileRead path source.utf8ByteSize,
        .tokenized compilation.tokens.length (1 + source.toList.count '\n')] ++
      (Parsing.ofTokens compilation.tokens).trace.map LogEntry.traced ++
        ([.parsed compilation.tree] ++ [last]) := by
    simp [LogEntry.ofStages_eq compiles]
  rw [stages, shown_append, shown_append, shown_append, before, shown_traced, parsed]
  rfl

/-- Asked to print and for one step of verbosity at least, the program shows the parser's lines between
the others from the second step on. -/
theorem ofSource_of_compiles (compiles : compile source = .ok compilation) {options : Options}
    (prints : options.printsAnything = true) (verbose : 1 ≤ options.verbosity) (path : String) :
    ofSource path options source = .finished 0 (output options compilation)
      (linesBefore path source compilation ++
        (if 2 ≤ options.verbosity then
          (Parsing.ofTokens compilation.tokens).trace.map fun trace => (LogEntry.traced trace).text
        else []) ++ linesBehind compilation) := by
  have last : shown options [.compiled compilation.tokens.length compilation.tree.size] =
      ["DEBUG minic::compiler: compilation finished tokens=" ++ toString compilation.tokens.length ++
        " nodes=" ++ toString compilation.tree.size] := by
    rw [shown_of_debug verbose (by simp [LogEntry.compiled]), List.map_singleton,
      LogEntry.text_compiled]
  have log := shown_stages compiles verbose path
    (.compiled compilation.tokens.length compilation.tree.size)
  rw [← LogEntry.ofCompilation_eq compiles, last] at log
  simp only [ofSource, prints, compiles, Bool.not_true, Bool.false_eq_true, if_false, log, linesBehind]

/-- Not asked to print, the program shows the same of both stages, and opens the explorer. -/
theorem ofSource_of_opens (compiles : compile source = .ok compilation) {options : Options}
    (opens : options.printsAnything = false) (verbose : 1 ≤ options.verbosity) (path : String) :
    ofSource path options source = .explore path source
      (linesBefore path source compilation ++
        (if 2 ≤ options.verbosity then
          (Parsing.ofTokens compilation.tokens).trace.map fun trace => (LogEntry.traced trace).text
        else []) ++ linesOpening compilation) := by
  have last : shown options [.loaded false] =
      ["DEBUG minic::ui::app: explorer loaded source error=false"] := by
    rw [shown_of_debug verbose (by simp [LogEntry.loaded])]
    rfl
  have log := shown_stages compiles verbose path (.loaded false)
  rw [← LogEntry.ofLoading_start_eq compiles (some path), last] at log
  simp only [ofSource, opens, Bool.not_false, if_true, log, linesOpening]

/-- What is logged while a source is compiled that has no errors. The parser notices the declarations and
statements of its tree one by one, in the order of the outline, and its lines are about those. They are shown
from the second step of verbosity on, and so behind arguments with two letters among them, and as well where
the explorer is opened. -/
theorem ofSource_log (compiles : compile source = .ok compilation) :
    compilation.tree.kind = .program ∧
    List.Forall₂ (IsTrace compilation.tokens) (Parsing.ofTokens compilation.tokens).trace
      (compilation.tree.announced false) ∧
    ∃ lines, List.Forall₂ (IsTraceLine compilation.tokens) lines (compilation.tree.announced false) ∧
      (∀ path options, options.printsAnything = true → 1 ≤ options.verbosity →
        ofSource path options source = .finished 0 (output options compilation)
          (linesBefore path source compilation ++ (if 2 ≤ options.verbosity then lines else []) ++
            linesBehind compilation)) ∧
      (∀ path options, options.printsAnything = false → 1 ≤ options.verbosity →
        ofSource path options source = .explore path source
          (linesBefore path source compilation ++ (if 2 ≤ options.verbosity then lines else []) ++
            linesOpening compilation)) ∧
      ∀ read path arguments, AsksToPrint arguments path → read path = .ok source.toUTF8 →
        2 ≤ loudnessOf arguments → ∃ output, ofArguments read arguments = .finished 0 output
          (linesBefore path source compilation ++ lines ++ linesBehind compilation) := by
  obtain ⟨-, read, -⟩ := compile_eq_ok_iff.mp compiles
  obtain ⟨trees, program, -⟩ := (parse_eq_ok_iff_isProgram _ _).mp read
  have noticed := LogEntry.isTrace_of_parse read
  refine ⟨by rw [program], noticed, _, LogEntry.isTraceLine_map noticed,
    fun path options prints verbose => ofSource_of_compiles compiles prints verbose path,
    fun path options opens verbose => ofSource_of_opens compiles opens verbose path, ?_⟩
  intro read path arguments asks stored loud
  obtain ⟨options, answer, -, prints, steps⟩ := ofArguments_of_text asks stored
  rw [← steps] at loud
  rw [answer, ofSource_of_compiles compiles prints (Nat.le_of_succ_le loud), if_pos loud]
  exact ⟨_, rfl⟩

/-- A loop over two lines. -/
def loopTokens : List Token :=
  [⟨keyword "for", ⟨1, 1⟩⟩, ⟨mark "(", ⟨1, 4⟩⟩, ⟨keyword "int", ⟨1, 5⟩⟩, ⟨⟨.identifier, "i"⟩, ⟨1, 9⟩⟩,
    ⟨mark ";", ⟨1, 10⟩⟩, ⟨mark ";", ⟨1, 11⟩⟩, ⟨mark ")", ⟨1, 12⟩⟩, ⟨⟨.identifier, "i"⟩, ⟨2, 1⟩⟩,
    ⟨mark ";", ⟨2, 2⟩⟩]

def loopTree : SyntaxTree :=
  ⟨.program, none, [⟨.forStatement, none,
    [⟨.forInit, none, [⟨.variableDeclaration, some "i", [.leaf .type "int"]⟩]⟩,
      ⟨.forCondition, none, []⟩, ⟨.forIncrement, none, []⟩, .leaf .identifier "i"]⟩]⟩

/-- The loop, the variable of its first clause, and the name that is its body, each by one line. -/
theorem ofSource_log_loop :
    compile "for(int i;;)\ni;" = .ok ⟨loopTokens, loopTree, .analyze loopTokens loopTree⟩ ∧
      (loopTree.announced false).map SyntaxTree.kind =
        [.forStatement, .variableDeclaration, .identifier] ∧
      List.Forall₂ (IsTraceLine loopTokens)
        ["TRACE minic::parser::statements: statement token=KEYWORD 'for' line=1",
          "TRACE minic::parser::declarations: variable declaration name=i",
          "TRACE minic::parser::statements: statement token=IDENTIFIER 'i' line=2"]
        (loopTree.announced false) := by
  have scanned : tokenize "for(int i;;)\ni;" = .ok loopTokens := by
    have found : (tokenize "for(int i;;)\ni;").toOption = some loopTokens := by decide +kernel
    cases outcome : tokenize "for(int i;;)\ni;" with
    | ok tokens =>
      rw [outcome] at found
      exact congrArg Except.ok (Option.some.inj found)
    | error error =>
      rw [outcome] at found
      cases found
  have read : parse loopTokens = .ok loopTree := rfl
  have compiles : compile "for(int i;;)\ni;" =
      .ok ⟨loopTokens, loopTree, .analyze loopTokens loopTree⟩ :=
    compile_eq_ok_iff.mpr ⟨scanned, read, rfl⟩
  obtain ⟨-, -, lines, told, shows, -⟩ := ofSource_log compiles
  have answer := shows "loop.c" ⟨false, true, false, 2⟩ rfl (by decide)
  rw [if_pos (Nat.le_refl 2)] at answer
  have log : ofSource "loop.c" ⟨false, true, false, 2⟩ "for(int i;;)\ni;" = .finished 0 loopTree.outline
      (["DEBUG minic: read source file path=loop.c bytes=15",
          "DEBUG minic::parser::lexer: tokenized source tokens=9 lines=2"] ++
        ["TRACE minic::parser::statements: statement token=KEYWORD 'for' line=1",
          "TRACE minic::parser::declarations: variable declaration name=i",
          "TRACE minic::parser::statements: statement token=IDENTIFIER 'i' line=2"] ++
        ["DEBUG minic::parser::parse: parsed program declarations=1 nodes=8",
          "DEBUG minic::compiler: compilation finished tokens=9 nodes=8"]) := by
    decide +kernel
  obtain ⟨-, -, same⟩ := Response.finished.inj (log.symm.trans answer)
  have parser := List.append_cancel_left (List.append_cancel_right same)
  rw [parser]
  exact ⟨compiles, rfl, told⟩

end Response

end CommandLine

end SyntaxExplorer
