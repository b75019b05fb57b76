import LineShell.Machine
import LineShell.Text.Utf8

/-!
A tree of files held in memory, and the way along a path to one of them.
-/

namespace LineShell.Host

inductive Program where
  | sh | cat | tr | sort | printf | head | succeed | fail
  deriving DecidableEq, Repr

inductive Node where
  | directory
  | file (content : Bytes) (isExecutable : Bool)
  /-- A device that is always at its end. -/
  | device
  | program (program : Program)
  deriving DecidableEq, Repr

/-- A place in a tree: the names on the way to it from the root. -/
abbrev Location := List Text

/-- The nodes of a tree, the root being always there. -/
structure Tree where
  nodes : List (Location × Node) := []
  deriving DecidableEq, Repr

namespace Tree

def get? (tree : Tree) (l : Location) : Option Node :=
  if l = [] then some .directory else tree.nodes.lookup l

def isDirectory (tree : Tree) (l : Location) : Bool := tree.get? l == some .directory

def addDirectory (tree : Tree) (l : Location) : Tree :=
  if (tree.get? l).isSome then tree else ⟨(l, .directory) :: tree.nodes⟩

/-- Put a node at a location, and directories above it where they are missing. -/
def add (tree : Tree) (l : Location) (node : Node) : Tree :=
  let tree := (List.range l.length).foldl (fun tree n => tree.addDirectory (l.take n)) tree
  if node = .directory then tree.addDirectory l else ⟨(l, node) :: tree.nodes⟩

def names (tree : Tree) (l : Location) : List Text :=
  tree.nodes.filterMap fun (l', _) => if l'.dropLast = l then l'.getLast? else none

/-! ## Paths -/

def longestName : Nat := 255

def pathBound : Nat := 4096

def walk (tree : Tree) : Location → List Text → Except FileError Location
  | l, [] => .ok l
  | l, name :: rest =>
    if !tree.isDirectory l then .error .notDirectory
    else if name = Path.here then walk tree l rest
    else if name = Path.up then walk tree l.dropLast rest
    else if longestName < (Utf8.encode name).length then .error .nameTooLong
    else if (tree.get? (l ++ [name])).isNone then .error .notFound
    else walk tree (l ++ [name]) rest

/-- The names to go along. A slash at the end asks for a directory. -/
def steps (path : Text) : List Text :=
  Path.parts path ++ if path.getLast? = some '/' then [Path.here] else []

def locate (tree : Tree) (directory : Location) (path : Text) : Except FileError Location :=
  if '\x00' ∈ path then .error .nulByte
  else if path = [] then .error .notFound
  else if pathBound ≤ (Utf8.encode path).length then .error .nameTooLong
  else tree.walk (if Path.isAbsolute path then [] else directory) (steps path)

def find (tree : Tree) (directory : Location) (path : Text) : Except FileError Node := do
  match tree.get? (← tree.locate directory path) with
  | some node => .ok node
  | none => .error .notFound

def content : Node → Except FileError Bytes
  | .directory => .error .isDirectory
  | .file content _ => .ok content
  | .device | .program _ => .ok []

end Tree

end LineShell.Host
