import SyntaxExplorer.CommandLine.Help
import SyntaxExplorer.CommandLine.Log
import SyntaxExplorer.CommandLine.Request
import SyntaxExplorer.Files
import SyntaxExplorer.Source

namespace SyntaxExplorer.CommandLine

/-- An answer: the request is not understood, the explorer is opened on a source, or the program
ends with a code after printing some text and some messages. -/
inductive Response
  | misunderstood
  | explore (path source : String) (messages : List String)
  | finished (code : Nat) (output : String) (messages : List String)
  deriving DecidableEq, Repr

namespace Response

/-- A line of the token table. Whatever the token, it is one line. -/
def tokenRow (token : Token) : String :=
  padRight 12 token.kind.name ++ " " ++ padRight 20 (escape [('\n', 'n')] token.text) ++ " " ++
    toString token.location.line ++ ":" ++ toString token.location.column ++ "\n"

def tokenTable (tokens : List Token) : String :=
  String.join (tokens.map tokenRow)

/-- What is printed of a program, always in the same order. -/
def output (options : Options) (compilation : Compilation) : String :=
  (if options.tokens then tokenTable compilation.tokens else "") ++
  (if options.tree then compilation.tree.outline else "") ++
  (if options.report then compilation.report.text else "")

/-- The log as far as it is to be shown. -/
def shown (options : Options) (log : List LogEntry) : List String :=
  (log.filter (·.level.shownAt options.verbosity)).map LogEntry.text

/-- Ends with an error after what has been logged. -/
def failure (log : List String) (message : String) : Response :=
  finished 1 "" (log ++ ["Error: " ++ message])

/-- Why there is no source. What does not lead to anything counts as not found. -/
def unreadable (path : String) (reason : ReadFailure) : Response :=
  match reason with
  | .isADirectory | .notText => failure [] ("Cannot read '" ++ path ++ "': " ++ reason.reason)
  | _ => failure [] ("File '" ++ path ++ "' not found")

def ofSource (path : String) (options : Options) (source : String) : Response :=
  let fileRead := LogEntry.fileRead path source.utf8ByteSize
  if !options.printsAnything then
    explore path source
      (shown options (fileRead :: LogEntry.ofLoading (.start source (some path))))
  else
    let log := shown options (fileRead :: LogEntry.ofCompilation source)
    match compile source with
    | .error error => failure log error.message
    | .ok compilation => finished 0 (output options compilation) log

/-- The answer to a request, given what reading a file gives. -/
def ofRequest (read : String → Except ReadFailure ByteArray) : Request → Response
  | .malformed => misunderstood
  | .help long => finished 0 (if long then Help.long else Help.short) []
  | .version => finished 0 Help.version []
  | .process path options =>
    match (read path).bind decodeText with
    | .error reason => unreadable path reason
    | .ok source => ofSource path options source

end Response

end SyntaxExplorer.CommandLine
