import SyntaxExplorer.CommandLine.Response
import SyntaxExplorer.Explorer.Drawing

namespace SyntaxExplorer.Main

open CommandLine

/-- The bytes of a file of the disk. -/
def readFile (path : String) : IO (Except ReadFailure ByteArray) := do
  try
    return .ok (← IO.FS.readBinFile path)
  catch
    | .inappropriateType _ code _ =>
      return .error (if code = 21 then .isADirectory else .notADirectory)
    | .invalidArgument _ code _ =>
      return .error (if code = 36 then .nameTooLong else .malformedName)
    | _ => return .error .missing

def printMessages (messages : List String) : IO Unit :=
  messages.forM fun message => IO.eprintln message

/-- The keys that a line of input stands for. -/
def keysOfLine (line : String) : List Key :=
  match line.toList.filter (· ≠ '\n') with
  | [] => [.enter]
  | chars => chars.map fun c => if c = '\t' then .tab else .character c

/-- Draws, takes a line of keys, and goes on until the explorer is left or the input ends. -/
partial def explore (input : IO.FS.Stream) (explorer : Explorer) : IO Unit := do
  let (explorer, screen) := explorer.draw 80 24
  screen.text.forM fun row => IO.println row
  if explorer.quitting then return
  let line ← input.getLine
  if line.isEmpty then return
  let found ← match explorer.path with
    | some path => readFile path
    | none => pure (.error .missing)
  explore input ((keysOfLine line).foldl (fun explorer key => explorer.press (fun _ => found) key)
    explorer)

/-- Carries out an answer and gives the exit code. -/
def perform : Response → IO UInt32
  | .misunderstood => do
    printMessages (["error: the arguments are not understood", ""] ++ Help.usage)
    return 2
  | .explore path source messages => do
    printMessages messages
    explore (← IO.getStdin) (.start source (some path))
    return 0
  | .finished code output messages => do
    IO.print output
    printMessages messages
    return code.toUInt32

def run (arguments : List String) : IO UInt32 := do
  let request := Request.ofArguments arguments
  let found ← match request with
    | .process path _ => readFile path
    | _ => pure (.error .missing)
  perform (.ofRequest (fun _ => found) request)

end SyntaxExplorer.Main

def main (arguments : List String) : IO UInt32 :=
  SyntaxExplorer.Main.run arguments
