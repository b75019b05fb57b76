import LineShell.Host.Sh

/-!
A machine held in memory: a tree of files, the directory of the shell's process in it, and a few
programs. With it lines can be run, and their effects stated, without an operating system.
-/

namespace LineShell

structure Host where
  tree : Host.Tree := {}
  /-- The directory of the shell's process. -/
  home : Host.Location := []
  searchPath : Option Text := none
  deriving DecidableEq, Repr

namespace Host

def defaultSearchPath : Text := "/bin:/usr/bin".toList

/-- A script names the program that runs it: its path, and an argument for it. -/
def interpreter? (script : Text) : Option (Text × List Text) :=
  match script with
  | '#' :: '!' :: r =>
    match Text.trim (r.takeWhile (· ≠ '\n')) with
    | [] => none
    | line =>
      let path := line.takeWhile fun c => c ≠ ' ' ∧ c ≠ '\t'
      match Text.trim (line.drop path.length) with
      | [] => some (path, [])
      | argument => some (path, [argument])
  | _ => none

/-- The names in a directory that a star stands for, in order. -/
def visibleNames (h : Host) (directory : Location) : List Text :=
  let names := (h.tree.names directory).filter (·.head? ≠ some '.')
  ((names.map Utf8.encode).foldr insertLine []).map Utf8.decode

def runSh (h : Host) (directory : Location) (args : List Text) (input : Bytes) : Outcome :=
  let names := h.visibleNames directory
  match args with
  | [] => runScript (Utf8.decode input) ["sh".toList |> Utf8.encode] names []
  | path :: more =>
    if path = "-c".toList then
      match more with
      | [] => { ending := .exited ShState.misuse }
      | script :: more =>
        let more := if more.isEmpty then ["sh".toList] else more
        runScript script (more.map Utf8.encode) names input
    else match (h.tree.find directory path).bind Tree.content with
      | .ok script => runScript (Utf8.decode script) (args.map Utf8.encode) names input
      | .error _ => { ending := .exited ShState.notFound }

/-- Start the file of a path in a directory, through at most `n` interpreters. -/
def startFile (h : Host) (directory : Location) (input : Bytes) :
    Nat → Text → List Text → Option Outcome
  | 0, _, _ => none
  | n + 1, path, args =>
    match h.tree.find directory path with
    | .ok (.program .sh) => some (h.runSh directory args input)
    | .ok (.program p) => some (p.run (args.map Utf8.encode) input)
    | .ok (.file content true) =>
      match interpreter? (Utf8.decode content) with
      | some (program, argument) => h.startFile directory input n program (argument ++ path :: args)
      | none => none
    | _ => none

def interpreterLimit : Nat := 5

/-- The paths under which a program is looked for when it is started: its own if it has a slash, or
else one for each directory of the search path. -/
def candidates (h : Host) (program : Text) : List Text :=
  if '/' ∈ program then [program]
  else (Path.searchList (h.searchPath.getD defaultSearchPath)).map (Path.join · program)

def start (h : Host) (l : Launch) : Option Outcome :=
  if (l.program :: l.arguments).any (·.contains '\x00') then none
  else match h.tree.locate h.home l.directory with
    | .ok directory =>
      if h.tree.isDirectory directory then
        (h.candidates l.program).findSome? fun path =>
          h.startFile directory l.input interpreterLimit path l.arguments
      else none
    | .error _ => none

def programs : List (String × Program) :=
  [("sh", .sh), ("cat", .cat), ("tr", .tr), ("sort", .sort), ("printf", .printf), ("head", .head),
    ("true", .succeed), ("false", .fail)]

def location (path : String) : Location := Path.parts path.toList

def emptyTree : Tree :=
  let tree := programs.foldl (fun tree (name, p) =>
    (tree.add (location ("/bin/" ++ name)) (.program p)).add (location ("/usr/bin/" ++ name))
      (.program p)) ({} : Tree)
  tree.add (location "/dev/null") .device

def withFiles (searchPath : Option Text) (files : List (Text × Node)) : Host :=
  let home := location "/home/user"
  let tree := (emptyTree.add home .directory)
  { tree := files.foldl (fun tree (path, node) => tree.add (home ++ Path.parts path) node) tree
    home, searchPath }

def machine (h : Host) : Machine where
  read path := (h.tree.find h.home path).bind Tree.content
  isFile path :=
    match h.tree.find h.home path with
    | .ok (.file ..) | .ok (.program _) => true
    | _ => false
  present path := (h.tree.locate h.home path).isOk
  searchPath := h.searchPath
  start := h.start

end Host

end LineShell
