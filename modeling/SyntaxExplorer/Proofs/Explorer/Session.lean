import SyntaxExplorer.Explorer.Drawing

namespace SyntaxExplorer

namespace Inspection

variable {source : String}

theorem ofSource_of_complete {compilation : Compilation}
    (compiled : compile source = .ok compilation) : ofSource source = .complete compilation := by
  obtain ⟨tokens, tree, report⟩ := compilation
  obtain ⟨scanned, parsed, rfl⟩ := compile_eq_ok_iff.mp compiled
  rw [ofSource, scanned]
  simp only [parsed]

theorem ofSource_of_unscanned {error : LexError}
    (failed : compile source = .error (.lexical error)) : ofSource source = .unscanned error := by
  rw [compile] at failed
  rw [ofSource]
  cases scanned : tokenize source with
  | error found =>
    simp only [scanned] at failed
    rw [CompileError.lexical.inj (Except.error.inj failed)]
  | ok tokens => cases parsed : parse tokens <;> simp [scanned, parsed] at failed

theorem ofSource_of_unparsed {error : ParseError}
    (failed : compile source = .error (.grammatical error)) :
    ∃ tokens, tokenize source = .ok tokens ∧ ofSource source = .unparsed tokens error := by
  rw [compile] at failed
  rw [ofSource]
  cases scanned : tokenize source with
  | error found => simp [scanned] at failed
  | ok tokens =>
    cases parsed : parse tokens with
    | error found =>
      simp only [scanned, parsed] at failed
      have same := CompileError.grammatical.inj (Except.error.inj failed)
      exact ⟨tokens, rfl, by simp only [parsed, same]⟩
    | ok tree => simp [scanned, parsed] at failed

end Inspection

/-- What came of a text, stage by stage. -/
structure Outcome where
  tokens : List Token
  tree? : Option SyntaxTree
  report? : Option Report
  error? : Option CompileError

def Inspection.outcome (inspection : Inspection) : Outcome :=
  ⟨inspection.tokens, inspection.tree?, inspection.report?, inspection.error?⟩

/-- What reading a path gives at some time. -/
abbrev Disk : Type :=
  String → Except ReadFailure ByteArray

/-- The text of the file that a path, if there is one, leads to. -/
def Disk.text? (disk : Disk) (path : Option String) : Option String :=
  path.bind fun path => ((disk path).bind decodeText).toOption

namespace Explorer

def outcome (explorer : Explorer) : Outcome :=
  ⟨explorer.tokens, explorer.tree?, explorer.report?, explorer.error?⟩

/-- The explorer shows of its source what compiling it gives, and nothing of any other text. -/
structure ShowsSource (explorer : Explorer) : Prop where
  complete : ∀ compilation, compile explorer.source = .ok compilation →
    explorer.error? = none ∧ explorer.tokens = compilation.tokens ∧
      explorer.tree? = some compilation.tree ∧ explorer.report? = some compilation.report
  unscanned : ∀ error, compile explorer.source = .error (.lexical error) →
    explorer.error? = some (.lexical error) ∧ explorer.tokens = [] ∧
      explorer.tree? = none ∧ explorer.report? = none
  unparsed : ∀ error, compile explorer.source = .error (.grammatical error) →
    explorer.error? = some (.grammatical error) ∧ tokenize explorer.source = .ok explorer.tokens ∧
      explorer.tree? = none ∧ explorer.report? = none

theorem showsSource_of_outcome {explorer : Explorer}
    (inspected : explorer.outcome = (Inspection.ofSource explorer.source).outcome) :
    explorer.ShowsSource := by
  obtain ⟨tokens, tree, report, error⟩ := Outcome.mk.inj inspected
  constructor
  · intro compilation compiled
    rw [error, tokens, tree, report, Inspection.ofSource_of_complete compiled]
    exact ⟨rfl, rfl, rfl, rfl⟩
  · intro lexical failed
    rw [error, tokens, tree, report, Inspection.ofSource_of_unscanned failed]
    exact ⟨rfl, rfl, rfl, rfl⟩
  · intro grammatical failed
    obtain ⟨found, scanned, inspection⟩ := Inspection.ofSource_of_unparsed failed
    rw [error, tokens, tree, report, inspection]
    exact ⟨rfl, scanned, rfl, rfl⟩

section Stages

variable {explorer : Explorer} {tokens : List Token} {tree : SyntaxTree}

theorem scan_of_ok (scanned : tokenize explorer.source = .ok tokens) :
    explorer.scan = { explorer with tokens := tokens } := by
  rw [scan, scanned]

theorem scan_of_error {error : LexError} (failed : tokenize explorer.source = .error error) :
    explorer.scan = { explorer with tokens := [], error? := some (.lexical error) } := by
  rw [scan, failed]

theorem build_of_ok (parsed : parse explorer.tokens = .ok tree) :
    explorer.build =
      { explorer with tree? := some tree, report? := some (.analyze explorer.tokens tree) } := by
  rw [build, parsed]

theorem build_of_error {error : ParseError} (failed : parse explorer.tokens = .error error) :
    explorer.build = { explorer with error? := some (.grammatical error) } := by
  rw [build, failed]

end Stages

/-- Loading sets each field to what its stage gives. Of what the explorer held of another text nothing is left,
whichever stage fails. -/
theorem load_eq (explorer : Explorer) :
    explorer.load = { explorer.forget with
      tokens := (Inspection.ofSource explorer.source).tokens
      tree? := (Inspection.ofSource explorer.source).tree?
      report? := (Inspection.ofSource explorer.source).report?
      error? := (Inspection.ofSource explorer.source).error?
      status := .ofOutcome (Inspection.ofSource explorer.source).error?
        (Inspection.ofSource explorer.source).report? } := by
  rcases Inspection.ofSource_cases explorer.source with ⟨error, scanned, inspected⟩ |
    ⟨tokens, error, scanned, parsed, inspected⟩ | ⟨tokens, tree, scanned, parsed, inspected⟩
  · have first : explorer.forget.scan = _ := scan_of_error scanned
    rw [load, first, inspected]
    rfl
  · have first : explorer.forget.scan = { explorer.forget with tokens := tokens } :=
      scan_of_ok scanned
    have second : build { explorer.forget with tokens := tokens } = _ := build_of_error parsed
    have none : Option.isNone { explorer.forget with tokens := tokens }.error? = true := rfl
    rw [load, first, inspected]
    simp only [none, if_true, second]
    rfl
  · have first : explorer.forget.scan = { explorer.forget with tokens := tokens } :=
      scan_of_ok scanned
    have second : build { explorer.forget with tokens := tokens } = _ := build_of_ok parsed
    have none : Option.isNone { explorer.forget with tokens := tokens }.error? = true := rfl
    rw [load, first, inspected]
    simp only [none, if_true, second]
    rfl

/-- An explorer at its start knows what its source comes to. -/
theorem start_eq (source : String) (path : Option String) :
    start source path =
      { path := path
        source := source
        tokens := (Inspection.ofSource source).tokens
        tree? := (Inspection.ofSource source).tree?
        report? := (Inspection.ofSource source).report?
        error? := (Inspection.ofSource source).error?
        treeView := .fresh
        focus := .tokens
        sourceScroll := 0
        tokenScroll := 0
        reportScroll := 0
        tokenCursor := 0
        quitting := false
        status := .ofOutcome (Inspection.ofSource source).error?
          (Inspection.ofSource source).report? } :=
  load_eq _

theorem outcome_load (explorer : Explorer) :
    explorer.load.outcome = (Inspection.ofSource explorer.source).outcome := by
  rw [load_eq]
  rfl

theorem source_load (explorer : Explorer) : explorer.load.source = explorer.source := by
  rw [load_eq]
  rfl

theorem path_load (explorer : Explorer) : explorer.load.path = explorer.path := by
  rw [load_eq]
  rfl

/-- The source with all that is known of it, and where it came from, are the same. -/
structure SameText (before after : Explorer) : Prop where
  path : after.path = before.path
  source : after.source = before.source
  outcome : after.outcome = before.outcome

variable (explorer : Explorer)

theorem SameText.refl : SameText explorer explorer :=
  ⟨rfl, rfl, rfl⟩

theorem withTree_of_none {explorer : Explorer} (change : TreeView → SyntaxTree → TreeView)
    (absent : explorer.tree? = none) : explorer.withTree change = explorer := by
  rw [withTree, absent, Option.elim_none]

theorem withTree_of_some {explorer : Explorer} (change : TreeView → SyntaxTree → TreeView)
    {tree : SyntaxTree} (shown : explorer.tree? = some tree) :
    explorer.withTree change = { explorer with treeView := change explorer.treeView tree } := by
  rw [withTree, shown, Option.elim_some]

theorem sameText_withTree (change : TreeView → SyntaxTree → TreeView) :
    SameText explorer (explorer.withTree change) := by
  cases shown : explorer.tree? with
  | none =>
    rw [withTree_of_none change shown]
    exact .refl explorer
  | some tree =>
    rw [withTree_of_some change shown]
    exact ⟨rfl, rfl, rfl⟩

theorem sameText_moveUp : SameText explorer explorer.moveUp := by
  rw [moveUp]
  cases explorer.focus <;> exact ⟨rfl, rfl, rfl⟩

theorem sameText_moveDown : SameText explorer explorer.moveDown := by
  rw [moveDown]
  cases explorer.focus with
  | source | report => exact ⟨rfl, rfl, rfl⟩
  | tree => exact sameText_withTree explorer _
  | tokens =>
    dsimp only
    split
    · exact ⟨rfl, rfl, rfl⟩
    · exact .refl explorer

theorem sameText_toggle : SameText explorer explorer.toggle := by
  rw [toggle]
  split
  · exact sameText_withTree explorer _
  · exact .refl explorer

theorem sameText_collapseAll : SameText explorer explorer.collapseAll := by
  rw [collapseAll]
  split
  · have view := sameText_withTree explorer TreeView.collapseAll
    exact ⟨view.path, view.source, view.outcome⟩
  · exact .refl explorer

theorem sameText_draw (width height : Nat) :
    SameText explorer (explorer.draw width height).1 :=
  ⟨rfl, rfl, rfl⟩

/-- Only a reload can bring another text. -/
theorem sameText_press (disk : Disk) {key : Key} (other : key ≠ .character 'r') :
    SameText explorer (explorer.press disk key) := by
  unfold press
  split
  · exact ⟨rfl, rfl, rfl⟩
  · exact ⟨rfl, rfl, rfl⟩
  · exact ⟨rfl, rfl, rfl⟩
  · exact ⟨rfl, rfl, rfl⟩
  · exact sameText_moveUp explorer
  · exact sameText_moveDown explorer
  · exact sameText_toggle explorer
  · exact sameText_toggle explorer
  · exact ⟨rfl, rfl, rfl⟩
  · exact sameText_collapseAll explorer
  · exact absurd rfl other
  · exact .refl explorer

variable {explorer} {disk : Disk}

theorem reload_of_text {text : String} (readable : disk.text? explorer.path = some text) :
    explorer.reload disk = load { explorer with source := text } := by
  rw [Disk.text?, Option.bind_eq_some_iff] at readable
  obtain ⟨path, named, decoded⟩ := readable
  rw [reload, named]
  cases contents : (disk path).bind decodeText with
  | error failure => simp [contents, Except.toOption] at decoded
  | ok found =>
    simp only [contents, Except.toOption, Option.some.injEq] at decoded
    simp only [contents, decoded]

/-- A reload without a path or without a text behind it only tells so. -/
theorem reload_of_no_text (unreadable : disk.text? explorer.path = none) :
    explorer.reload disk = { explorer with status := (explorer.reload disk).status } := by
  rw [reload]
  cases named : explorer.path with
  | none => rfl
  | some path =>
    rw [Disk.text?, named, Option.bind_some] at unreadable
    cases contents : (disk path).bind decodeText with
    | error failure => simp only [contents]
    | ok text => simp [contents, Except.toOption] at unreadable

end Explorer

/-- What can happen during a session. A change of the disk concerns what is read from then on. -/
inductive Happening
  | press (key : Key)
  | draw (width height : Nat)
  | change (disk : Disk)

namespace Happening

/-- The disk that is read after the happening. -/
def disk (before : Disk) : Happening → Disk
  | change disk => disk
  | _ => before

/-- The text that the happening reads, if it is a reload and there is a text to read. -/
def reading (path : Option String) (disk : Disk) : Happening → Option String
  | press (.character 'r') => disk.text? path
  | _ => none

/-- The texts that are read, one after the other. -/
def readings (path : Option String) (disk : Disk) : List Happening → List String
  | [] => []
  | happening :: happenings =>
    (happening.reading path disk).toList ++ readings path (happening.disk disk) happenings

end Happening

/-- An explorer and the disk that it reads from. -/
structure Session where
  explorer : Explorer
  disk : Disk

namespace Session

def start (source : String) (path : Option String) (disk : Disk) : Session :=
  ⟨.start source path, disk⟩

def step (session : Session) (happening : Happening) : Session where
  explorer := match happening with
    | .press key => session.explorer.press session.disk key
    | .draw width height => (session.explorer.draw width height).1
    | .change _ => session.explorer
  disk := happening.disk session.disk

def run (session : Session) (happenings : List Happening) : Session :=
  happenings.foldl step session

/-- What every step keeps holds after all of them. -/
theorem run_keeps (holds : Session → Prop) {session : Session}
    (step : ∀ session happening, holds session → holds (session.step happening))
    (start : holds session) (happenings : List Happening) : holds (session.run happenings) := by
  induction happenings generalizing session with
  | nil => exact start
  | cons happening happenings ih => exact ih (step session happening start)

/-- A step takes the text that it reads, with all that is to be known of it. Every other step leaves
the text alone. -/
theorem step_explorer (session : Session) (happening : Happening) :
    (∃ text, happening.reading session.explorer.path session.disk = some text ∧
        (session.step happening).explorer =
          Explorer.load { session.explorer with source := text }) ∨
      (happening.reading session.explorer.path session.disk = none ∧
        session.explorer.SameText (session.step happening).explorer) := by
  cases happening with
  | draw width height => exact Or.inr ⟨rfl, session.explorer.sameText_draw width height⟩
  | change disk => exact Or.inr ⟨rfl, .refl session.explorer⟩
  | press key =>
    by_cases reload : key = .character 'r'
    · subst reload
      cases readable : session.disk.text? session.explorer.path with
      | some text => exact Or.inl ⟨text, readable, Explorer.reload_of_text readable⟩
      | none =>
        refine Or.inr ⟨readable, ?_⟩
        have kept := Explorer.reload_of_no_text readable
        have pressed : (session.step (.press (.character 'r'))).explorer =
            session.explorer.reload session.disk := rfl
        rw [pressed, kept]
        exact ⟨rfl, rfl, rfl⟩
    · have silent : (Happening.press key).reading session.explorer.path session.disk = none := by
        unfold Happening.reading
        split
        · rename_i same
          exact absurd (Happening.press.inj same) reload
        · rfl
      exact Or.inr ⟨silent, session.explorer.sameText_press session.disk reload⟩

theorem step_path (session : Session) (happening : Happening) :
    (session.step happening).explorer.path = session.explorer.path := by
  rcases session.step_explorer happening with ⟨text, -, loaded⟩ | ⟨-, same⟩
  · rw [loaded, Explorer.path_load]
  · exact same.path

theorem step_source (session : Session) (happening : Happening) :
    (session.step happening).explorer.source =
      (happening.reading session.explorer.path session.disk).getD session.explorer.source := by
  rcases session.step_explorer happening with ⟨text, read, loaded⟩ | ⟨silent, same⟩
  · rw [loaded, Explorer.source_load, read, Option.getD_some]
  · rw [silent]
    exact same.source

theorem step_outcome {session : Session} (happening : Happening)
    (inspected : session.explorer.outcome =
      (Inspection.ofSource session.explorer.source).outcome) :
    (session.step happening).explorer.outcome =
      (Inspection.ofSource (session.step happening).explorer.source).outcome := by
  rcases session.step_explorer happening with ⟨text, -, loaded⟩ | ⟨-, same⟩
  · rw [loaded, Explorer.outcome_load, Explorer.source_load]
  · rw [same.outcome, same.source]
    exact inspected

theorem run_path (session : Session) (happenings : List Happening) :
    (session.run happenings).explorer.path = session.explorer.path :=
  run_keeps (fun later => later.explorer.path = session.explorer.path)
    (fun later happening same => (later.step_path happening).trans same) rfl happenings

theorem start_source (source : String) (path : Option String) (disk : Disk) :
    (start source path disk).explorer.source = source := by
  rw [start, Explorer.start, Explorer.source_load]

theorem start_path (source : String) (path : Option String) (disk : Disk) :
    (start source path disk).explorer.path = path := by
  rw [start, Explorer.start, Explorer.path_load]

theorem start_outcome (source : String) (path : Option String) (disk : Disk) :
    (start source path disk).explorer.outcome =
      (Inspection.ofSource (start source path disk).explorer.source).outcome := by
  rw [start, Explorer.start, Explorer.outcome_load, Explorer.source_load]

/-- What is known of the source is what inspecting it gives, at any time. -/
theorem run_outcome (source : String) (path : Option String) (disk : Disk)
    (happenings : List Happening) :
    let explorer := ((start source path disk).run happenings).explorer
    explorer.outcome = (Inspection.ofSource explorer.source).outcome :=
  run_keeps
    (fun later => later.explorer.outcome = (Inspection.ofSource later.explorer.source).outcome)
    (fun _ happening inspected => step_outcome happening inspected) (start_outcome source path disk)
    happenings

theorem run_source (session : Session) (happenings : List Happening) :
    (session.run happenings).explorer.source =
      (Happening.readings session.explorer.path session.disk happenings).getLast?.getD
        session.explorer.source := by
  induction happenings generalizing session with
  | nil => rfl
  | cons happening happenings ih =>
    have later := ih (session.step happening)
    rw [step_path, step_source] at later
    have first : session.run (happening :: happenings) = (session.step happening).run happenings :=
      rfl
    rw [first, later, Happening.readings, List.getLast?_append]
    have disk : (session.step happening).disk = happening.disk session.disk := rfl
    rw [disk]
    cases happening.reading session.explorer.path session.disk with
    | none => simp
    | some text =>
      -- A later reading hides this one, and without any this one is the last.
      cases (Happening.readings session.explorer.path (happening.disk session.disk)
        happenings).getLast? with
      | none => rfl
      | some last => rfl

/-- Whatever happened, the explorer shows what compiling its source gives; the source is the last text
that a reload read, or else the text at the start; and a reload that reads no text changes only the
status. -/
theorem run_showsSource (source : String) (path : Option String) (disk : Disk)
    (happenings : List Happening) :
    let explorer := ((start source path disk).run happenings).explorer
    explorer.ShowsSource ∧
      explorer.source = (Happening.readings path disk happenings).getLast?.getD source ∧
      ∀ later : Disk, later.text? path = none →
        explorer.reload later = { explorer with status := (explorer.reload later).status } := by
  intro explorer
  have path_start := start_path source path disk
  have last := run_source (start source path disk) happenings
  rw [path_start, start_source] at last
  refine ⟨Explorer.showsSource_of_outcome (run_outcome source path disk happenings), last, ?_⟩
  intro later unreadable
  have named : explorer.path = path := (run_path _ happenings).trans path_start
  exact Explorer.reload_of_no_text (by rwa [named])

theorem run_showsSource_missingFile :
    let disk : Disk := fun _ => .error .missing
    let explorer := ((start "int x = 1" (some "in.c") disk).run
      [.draw 80 24, .press (.character 'r'), .press .tab]).explorer
    disk.text? (some "in.c") = none ∧ explorer.ShowsSource ∧ explorer.source = "int x = 1" ∧
      explorer.reload disk = { explorer with status := (explorer.reload disk).status } := by
  intro disk explorer
  have unreadable : disk.text? (some "in.c") = none := rfl
  have shown := run_showsSource "int x = 1" (some "in.c") disk
    [.draw 80 24, .press (.character 'r'), .press .tab]
  exact ⟨unreadable, shown.1, shown.2.1, shown.2.2 disk unreadable⟩

end Session
end SyntaxExplorer
