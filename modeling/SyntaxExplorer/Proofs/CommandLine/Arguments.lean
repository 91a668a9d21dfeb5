import SyntaxExplorer.CommandLine.Request

namespace SyntaxExplorer.CommandLine

/-- What can be printed of a program. -/
inductive Part
  | tokens
  | tree
  | report
  deriving DecidableEq, Repr

namespace Part

/-- All parts, in the order in which they are printed. -/
def all : List Part :=
  [tokens, tree, report]

def flag : Part → String
  | tokens => "--tokens"
  | tree => "--tree"
  | report => "--report"

end Part

/-- Whether the part is to be printed. -/
def Options.prints (options : Options) : Part → Bool
  | .tokens => options.tokens
  | .tree => options.tree
  | .report => options.report

/-- The options with one more part to print. -/
def Options.including (options : Options) : Part → Options
  | .tokens => { options with tokens := true }
  | .tree => { options with tree := true }
  | .report => { options with report := true }

/-- The options with more steps of verbosity. -/
def Options.louder (options : Options) (steps : Nat) : Options :=
  { options with verbosity := options.verbosity + steps }

/-- An argument of those that make up a request to print. A dash may have any number of letters behind it
but none. -/
inductive Argument
  | path (text : String)
  | print (part : Part)
  | louder (more : Nat)
  deriving DecidableEq, Repr

namespace Argument

def text : Argument → String
  | path text => text
  | print part => part.flag
  | louder more => String.ofList ('-' :: List.replicate (more + 1) 'v')

def path? : Argument → Option String
  | path text => some text
  | _ => none

def part? : Argument → Option Part
  | print part => some part
  | _ => none

/-- How many steps of verbosity the argument asks for. -/
def loudness : Argument → Nat
  | path _ | print _ => 0
  | louder more => more + 1

end Argument

/-- A path that is not taken for a flag: it begins with something, and not with a dash. -/
def IsPlainPath (path : String) : Prop :=
  ∃ c ∈ path.toList.head?, c ≠ '-'

/-- The parts that arguments ask for, in the order in which they do. -/
def partsOf (arguments : List Argument) : List Part :=
  arguments.filterMap Argument.part?

/-- How many steps of verbosity the arguments ask for together. -/
def loudnessOf : List Argument → Nat
  | [] => 0
  | argument :: arguments => argument.loudness + loudnessOf arguments

/-- The arguments are one path, at least one flag and none of them twice, and letters. -/
structure AsksToPrint (arguments : List Argument) (path : String) : Prop where
  one : arguments.filterMap Argument.path? = [path]
  plain : IsPlainPath path
  once : (partsOf arguments).Nodup
  some : partsOf arguments ≠ []

variable {options : Options} {reading : Reading} {part : Part} {path : String}
  {arguments : List Argument}

@[simp] theorem Options.prints_including (options : Options) (part other : Part) :
    (options.including part).prints other = (options.prints other || decide (other = part)) := by
  cases part <;> cases other <;> simp [prints, including]

@[simp] theorem Options.verbosity_including (options : Options) (part : Part) :
    (options.including part).verbosity = options.verbosity := by
  cases part <;> rfl

@[simp] theorem Options.prints_louder (options : Options) (steps : Nat) (part : Part) :
    (options.louder steps).prints part = options.prints part := by
  cases part <;> rfl

@[simp] theorem Options.verbosity_louder (options : Options) (steps : Nat) :
    (options.louder steps).verbosity = options.verbosity + steps := rfl

theorem Options.printsAnything_iff : options.printsAnything = true ↔ ∃ part, options.prints part = true := by
  constructor
  · intro anything
    simp only [printsAnything, Bool.or_eq_true, or_assoc] at anything
    rcases anything with yes | yes | yes
    · exact ⟨.tokens, yes⟩
    · exact ⟨.tree, yes⟩
    · exact ⟨.report, yes⟩
  · rintro ⟨part, yes⟩
    cases part <;> simp_all [prints, printsAnything]

theorem IsPlainPath.ne (plain : IsPlainPath path) {other : String} (dashed : other.toList.head? = some '-') :
    path ≠ other := by
  rintro rfl
  obtain ⟨c, first, noDash⟩ := plain
  rw [dashed] at first
  exact noDash (Option.some.inj first).symm

namespace Reading

/-- The first path is taken as it is. -/
theorem takeArgument_path (plain : IsPlainPath path) (first : reading.path = none) :
    reading.takeArgument path = .ok { reading with path := some path } := by
  obtain ⟨c, here, noDash⟩ := plain
  obtain ⟨more, whole⟩ := List.head?_eq_some_iff.mp here
  have named : path ≠ "" := by
    rintro rfl
    cases whole
  rw [takeArgument, whole]
  split
  · rename_i dashed
    exact absurd (List.cons.inj dashed).1 noDash
  · rename_i dashed
    exact absurd (List.cons.inj dashed).1 noDash
  · rw [takePath, first, if_neg (by simp [named])]

/-- A flag that comes for the first time is taken. -/
theorem takeArgument_flag (first : reading.options.prints part = false) :
    reading.takeArgument part.flag =
      .ok { reading with options := reading.options.including part } := by
  have switch : reading.takeArgument part.flag = reading.take
      (match part with | .tokens => .tokens | .tree => .tree | .report => .report) := by
    cases part <;> rfl
  rw [switch]
  cases part <;> exact if_neg (by simpa [Options.prints] using first)

theorem takeLetters_replicate (reading : Reading) (count : Nat) :
    reading.takeLetters (List.replicate count 'v') =
      .ok { reading with options := reading.options.louder count } := by
  induction count generalizing reading with
  | zero => rfl
  | succ count ih =>
    have letter : reading.takeLetters ('v' :: List.replicate count 'v') =
        takeLetters { reading with options := reading.options.louder 1 } (List.replicate count 'v') := rfl
    rw [List.replicate_succ, letter, ih, Options.louder, Options.louder, Options.louder, Nat.add_assoc,
      Nat.add_comm 1 count]

theorem takeArgument_louder (reading : Reading) (more : Nat) :
    reading.takeArgument (Argument.louder more).text =
      .ok { reading with options := reading.options.louder (more + 1) } := by
  rw [Argument.text, takeArgument, String.toList_ofList]
  exact takeLetters_replicate reading (more + 1)

/-- Two dashes by themselves are none of these arguments. -/
theorem takeAll_cons {argument : Argument} {others : List String}
    (plain : ∀ text ∈ argument.path?, IsPlainPath text) :
    reading.takeAll (argument.text :: others) =
      (reading.takeArgument argument.text).bind (·.takeAll others) := by
  have going : argument.text ≠ "--" := by
    cases argument with
    | path text => exact (plain text rfl).ne rfl
    | print part => cases part <;> decide
    | louder more =>
      intro same
      have letters := congrArg String.toList same
      rw [Argument.text, String.toList_ofList, List.replicate_succ] at letters
      cases letters
  rw [takeAll, if_neg going]
  cases reading.takeArgument argument.text <;> rfl

/-- Arguments of which none takes the place of another are read to the end, whatever has been read of the
others. -/
theorem takeAll_texts (arguments : List Argument) (reading : Reading) (plain : IsPlainPath path)
    (fresh : ∀ part ∈ partsOf arguments, reading.options.prints part = false)
    (once : (partsOf arguments).Nodup)
    (one : reading.path.toList ++ arguments.filterMap Argument.path? = [path]) :
    ∃ options, reading.takeAll (arguments.map Argument.text) = .ok ⟨options, some path⟩ ∧
      (∀ part, options.prints part = (reading.options.prints part || decide (part ∈ partsOf arguments))) ∧
      options.verbosity = reading.options.verbosity + loudnessOf arguments := by
  induction arguments generalizing reading with
  | nil =>
    obtain ⟨options, found⟩ := reading
    rw [List.filterMap_nil, List.append_nil, Option.toList_eq_singleton_iff] at one
    obtain rfl : found = some path := one
    exact ⟨options, rfl, by simp [partsOf], rfl⟩
  | cons argument arguments ih =>
    cases argument with
    | path text =>
      -- Nothing has been read of a path before, and no other path is to come.
      obtain ⟨none, last⟩ : reading.path = none ∧ text :: arguments.filterMap Argument.path? = [path] := by
        cases found : reading.path with
        | none => simpa [found, Argument.path?] using one
        | some other => simp [found, Argument.path?] at one
      obtain ⟨rfl, others⟩ := List.cons.inj last
      rw [List.map_cons, takeAll_cons (by simpa [Argument.path?] using plain), Argument.text,
        takeArgument_path plain none]
      obtain ⟨options, taken, printed, loud⟩ :=
        ih { reading with path := some text } fresh once (by rw [others]; rfl)
      refine ⟨options, taken, printed, ?_⟩
      rw [loud, loudnessOf, Argument.loudness, Nat.zero_add]
    | print part =>
      have first : reading.options.prints part = false := fresh part List.mem_cons_self
      obtain ⟨apart, later⟩ := List.nodup_cons.mp once
      rw [List.map_cons, takeAll_cons (by simp [Argument.path?]), Argument.text, takeArgument_flag first]
      obtain ⟨options, taken, printed, loud⟩ :=
        ih { reading with options := reading.options.including part } (by
          intro other member
          have different : other ≠ part := fun same => apart (same ▸ member)
          simpa [different] using fresh other (List.mem_cons_of_mem _ member)) later one
      refine ⟨options, taken, fun other => ?_, ?_⟩
      · rw [printed other]
        simp [partsOf, Argument.part?, Bool.or_assoc]
      · rw [loud, loudnessOf, Argument.loudness, Nat.zero_add, Options.verbosity_including]
    | louder more =>
      rw [List.map_cons, takeAll_cons (by simp [Argument.path?]), takeArgument_louder]
      obtain ⟨options, taken, printed, loud⟩ :=
        ih { reading with options := reading.options.louder (more + 1) }
          (by simpa [partsOf, Argument.part?] using fresh) once one
      refine ⟨options, taken, fun other => ?_, ?_⟩
      · rw [printed other, Options.prints_louder]
        rfl
      · rw [loud, loudnessOf, Argument.loudness, Options.verbosity_louder, Nat.add_assoc]

end Reading

/-- Arguments that ask to print are understood, in whatever order they come. -/
theorem AsksToPrint.ofArguments (asks : AsksToPrint arguments path) :
    ∃ options, Request.ofArguments (arguments.map Argument.text) = .process path options ∧
      (∀ part, options.prints part = decide (part ∈ partsOf arguments)) ∧
      options.printsAnything = true ∧
      options.verbosity = loudnessOf arguments := by
  obtain ⟨options, taken, printed, loud⟩ :=
    Reading.takeAll_texts arguments {} asks.plain (by intro part _; cases part <;> rfl) asks.once asks.one
  have parts (part : Part) : options.prints part = decide (part ∈ partsOf arguments) := by
    rw [printed part]
    cases part <;> rfl
  refine ⟨options, ?_, parts, ?_, by rw [loud, Nat.zero_add]⟩
  · rw [Request.ofArguments, taken]
  · obtain ⟨part, member⟩ := List.exists_mem_of_ne_nil _ asks.some
    exact Options.printsAnything_iff.mpr ⟨part, by simp [parts part, member]⟩

end SyntaxExplorer.CommandLine
