import SyntaxExplorer.Terminal.Character

namespace SyntaxExplorer.Terminal

/-- A character and those that share its place. -/
structure Cluster where
  first : Char
  others : List Char
  deriving DecidableEq, Repr

namespace Cluster

def chars (cluster : Cluster) : List Char :=
  cluster.first :: cluster.others

def symbol (cluster : Cluster) : String :=
  String.ofList cluster.chars

/-- Whether the cluster is a carriage return with the line feed behind it. -/
def isReturn (cluster : Cluster) : Bool :=
  cluster.chars = ['\r', '\n']

/-- The cells that the characters take together. A line feed takes the cell of the carriage return
before it away. -/
def width (cluster : Cluster) : Nat :=
  if cluster.isReturn then 0 else (cluster.chars.map charWidth).foldr (· + ·) 0

/-- Whether a line may be broken here. -/
def isBreak (cluster : Cluster) : Bool :=
  cluster.chars.all isBreakable

/-- Whether the cluster only ends a line. It has no place on one. -/
def isLineFeed (cluster : Cluster) : Bool :=
  cluster.chars = ['\n']

/-- How many characters at the front of a text share the place of the one before it. -/
def joiners (before : Char) : List Char → Nat
  | [] => 0
  | c :: text => if joins before c then joiners c text + 1 else 0

def ofChars : List Char → List Cluster
  | [] => []
  | c :: text =>
    let count := joiners c text
    ⟨c, text.take count⟩ :: ofChars (text.drop count)
termination_by text => text.length
decreasing_by simp only [List.length_drop, List.length_cons]; omega

end Cluster

end SyntaxExplorer.Terminal
