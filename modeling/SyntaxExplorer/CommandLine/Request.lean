namespace SyntaxExplorer.CommandLine

/-- What to print of a file, and how much to log. -/
structure Options where
  tokens : Bool := false
  tree : Bool := false
  report : Bool := false
  verbosity : Nat := 0
  deriving DecidableEq, Repr

namespace Options

def printsAnything (options : Options) : Bool :=
  options.tokens || options.tree || options.report

end Options

/-- What is asked for. -/
inductive Request
  | malformed
  | help (long : Bool)
  | version
  | process (path : String) (options : Options)
  deriving DecidableEq, Repr

inductive Switch
  | tokens
  | tree
  | report
  | verbose
  | help (long : Bool)
  | version
  deriving DecidableEq, Repr

namespace Switch

def longNames : List (String × Switch) :=
  [("tokens", tokens), ("tree", tree), ("report", report), ("verbose", verbose),
    ("help", help true), ("version", version)]

def letters : List (Char × Switch) :=
  [('v', verbose), ('h', help false), ('V', version)]

end Switch

/-- What has been read of the arguments: options, and the path if it has been met. -/
structure Reading where
  options : Options := {}
  path : Option String := none
  deriving DecidableEq, Repr

namespace Reading

/-- Takes a switch. What is to be printed can be said once only; help and version decide. -/
def take (reading : Reading) : Switch → Except Request Reading
  | .tokens =>
    if reading.options.tokens then .error .malformed
    else .ok { reading with options.tokens := true }
  | .tree =>
    if reading.options.tree then .error .malformed
    else .ok { reading with options.tree := true }
  | .report =>
    if reading.options.report then .error .malformed
    else .ok { reading with options.report := true }
  | .verbose => .ok { reading with options.verbosity := reading.options.verbosity + 1 }
  | .help long => .error (.help long)
  | .version => .error .version

/-- Takes a path. There must be one, and it must not be empty. -/
def takePath (reading : Reading) (path : String) : Except Request Reading :=
  if path = "" ∨ reading.path.isSome then .error .malformed
  else .ok { reading with path := some path }

def takeLetters (reading : Reading) : List Char → Except Request Reading
  | [] => .ok reading
  | letter :: letters =>
    match Switch.letters.lookup letter with
    | none => .error .malformed
    | some switch =>
      match reading.take switch with
      | .error request => .error request
      | .ok reading => reading.takeLetters letters

/-- Takes an argument. A dash by itself is a path. -/
def takeArgument (reading : Reading) (argument : String) : Except Request Reading :=
  match argument.toList with
  | '-' :: '-' :: name =>
    match Switch.longNames.lookup (String.ofList name) with
    | none => .error .malformed
    | some switch => reading.take switch
  | '-' :: letter :: letters => reading.takeLetters (letter :: letters)
  | _ => reading.takePath argument

/-- Takes arguments one after the other. Two dashes by themselves make paths of all that follow. -/
def takeAll (reading : Reading) : List String → Except Request Reading
  | [] => .ok reading
  | argument :: arguments =>
    if argument = "--" then arguments.foldlM takePath reading
    else
      match reading.takeArgument argument with
      | .error request => .error request
      | .ok reading => reading.takeAll arguments

end Reading

namespace Request

/-- The request that some arguments make. Without a path there is nothing to process. -/
def ofArguments (arguments : List String) : Request :=
  match Reading.takeAll {} arguments with
  | .error request => request
  | .ok ⟨_, none⟩ => malformed
  | .ok ⟨options, some path⟩ => process path options

end Request

end SyntaxExplorer.CommandLine
