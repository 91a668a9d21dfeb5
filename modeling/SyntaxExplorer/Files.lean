namespace SyntaxExplorer

/-- Why a file cannot be read as text. -/
inductive ReadFailure
  | malformedName
  | nameTooLong
  | missing
  | notADirectory
  | isADirectory
  | notText
  deriving DecidableEq, Repr

namespace ReadFailure

def reason : ReadFailure → String
  | malformedName => "file name contained an unexpected NUL byte"
  | nameTooLong => "File name too long (os error 36)"
  | missing => "No such file or directory (os error 2)"
  | notADirectory => "Not a directory (os error 20)"
  | isADirectory => "Is a directory (os error 21)"
  | notText => "stream did not contain valid UTF-8"

end ReadFailure

/-- The text that some bytes encode. -/
def decodeText (bytes : ByteArray) : Except ReadFailure String :=
  match String.fromUTF8? bytes with
  | some text => .ok text
  | none => .error .notText

namespace FilePath

/-- The components of a path. Slashes may be doubled. -/
def components (path : String) : List String :=
  ((path.toList.splitOnP (· = '/')).map String.ofList).filter (· ≠ "")

/-- The name of what a path leads to, where the path says it: the last component, but for those that
stand for a directory already named. -/
def fileName (path : String) : Option String :=
  ((components path).filter (· ≠ ".")).getLast?.filter (· ≠ "..")

end FilePath

/-- What a directory's entries hold. Paths are kept as their components from the directory on. -/
structure Files where
  contents : List (List String × ByteArray) := []
  directories : List (List String) := []

namespace Files

def empty : Files := {}

/-- Where a path leads from a directory with all names taken at their word. -/
def entry (path : String) : List String :=
  (FilePath.components path).foldl (fun place name =>
    if name = "." then place else if name = ".." then place.dropLast else place ++ [name]) []

/-- Writes a file, and makes the directories that it lies in. -/
def write (files : Files) (path : String) (bytes : ByteArray) : Files :=
  let place := entry path
  { contents := (place, bytes) :: files.contents.filter (·.1 ≠ place)
    directories := (List.range place.length).map place.take ++ files.directories }

/-- Removes a file. Its directories stay. -/
def remove (files : Files) (path : String) : Files :=
  { files with contents := files.contents.filter (·.1 ≠ entry path) }

/-- What a place holds. -/
inductive Node
  | directory
  | file (bytes : ByteArray)

/-- What lies at a place within the directory. -/
def find? (files : Files) (place : List String) : Option Node :=
  match files.contents.lookup place with
  | some bytes => some (.file bytes)
  | none => if place = [] ∨ place ∈ files.directories then some .directory else none

/-- The greatest number of bytes in a component. -/
def componentLimit : Nat := 255

/-- The greatest number of bytes in a path. -/
def pathLimit : Nat := 4095

/-- Follows components from a place that is a directory. Nothing is known of what lies outside the
store's directory but the directories that contain it. -/
def follow (files : Files) (outside : Nat) (place : List String) :
    List String → Except ReadFailure Node
  | [] => .ok .directory
  | name :: names =>
    if name = "." then follow files outside place names
    else if name = ".." then
      if place = [] then follow files (outside + 1) [] names
      else follow files outside place.dropLast names
    else if componentLimit < name.utf8ByteSize then .error .nameTooLong
    else if 0 < outside then .error .missing
    else match files.find? (place ++ [name]) with
      | none => .error .missing
      | some .directory => follow files outside (place ++ [name]) names
      | some (.file bytes) => if names = [] then .ok (.file bytes) else .error .notADirectory

/-- What a path leads to. A slash at the end asks for a directory. -/
def lookUp (files : Files) (path : String) : Except ReadFailure Node :=
  if path.toList.contains '\x00' then .error .malformedName
  else if path = "" then .error .missing
  else if pathLimit < path.utf8ByteSize then .error .nameTooLong
  else
    let names := FilePath.components path
    let absolute := path.toList.head? = some '/'
    let names := if path.toList.getLast? = some '/' then names ++ ["."] else names
    follow files (if absolute then 1 else 0) [] names

/-- The bytes of the file that a path leads to. -/
def read (files : Files) (path : String) : Except ReadFailure ByteArray :=
  match files.lookUp path with
  | .error failure => .error failure
  | .ok .directory => .error .isADirectory
  | .ok (.file bytes) => .ok bytes

end Files

end SyntaxExplorer
