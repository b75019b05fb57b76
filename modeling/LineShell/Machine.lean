import LineShell.Text.Basic

/-!
The machine that the shell runs on, as far as the shell can see it: files are read by path, and
programs are started. Relative paths are meant from the directory of the shell's process. Paths are
texts: parts are separated by `/`, and a path that starts with `/` is absolute.
-/

namespace LineShell

/-! ## Paths -/

namespace Path

def isAbsolute (path : Text) : Bool := path.head? == some '/'

def parts (path : Text) : List Text := (Text.splitAt '/' path).filter (· ≠ [])

/-- The part that stands for the directory itself. -/
def here : Text := ['.']

/-- The part that stands for the directory above. -/
def up : Text := ['.', '.']

/-- The parts that count: one that stands for the directory itself counts only at the start of a
relative path. -/
def components (path : Text) : List Text :=
  match parts path with
  | [] => []
  | first :: rest =>
    let rest := rest.filter (· ≠ here)
    if isAbsolute path && first == here then rest else first :: rest

/-- Is the path relative, with the directory itself as its first component? -/
def startsHere (path : Text) : Bool :=
  !isAbsolute path && (components path).head? == some here

/-- Follow `path` from a directory: an absolute path replaces it, a relative one is appended after
a slash, if the directory does not end with one. -/
def join (dir path : Text) : Text :=
  if isAbsolute path then path
  else if dir = [] ∨ dir.getLast? = some '/' then dir ++ path
  else dir ++ '/' :: path

/-- The directories of a search path. Without any `:` it is one directory, the empty one too. -/
def searchList (path : Text) : List Text := Text.splitAt ':' path

end Path

/-! ## Files and programs -/

inductive FileError where
  | notFound
  | notDirectory
  | isDirectory
  | nameTooLong
  | nulByte
  deriving DecidableEq, Repr

def FileError.message : FileError → Text
  | notFound => "No such file or directory (os error 2)".toList
  | notDirectory => "Not a directory (os error 20)".toList
  | isDirectory => "Is a directory (os error 21)".toList
  | nameTooLong => "File name too long (os error 36)".toList
  | nulByte => "file name contained an unexpected NUL byte".toList

structure Launch where
  /-- The path of the program, as it was found. -/
  program : Text
  arguments : List Text
  /-- The directory it is to run in. -/
  directory : Text
  input : Bytes
  deriving DecidableEq, Repr

inductive Ending where
  | exited (status : Nat)
  | killed (signal : Nat)
  deriving DecidableEq, Repr

/-- The code of an ending: a status as it is, a signal above 128. -/
def Ending.code : Ending → Int
  | exited status => status
  | killed signal => 128 + signal

structure Outcome where
  output : Bytes := []
  ending : Ending := .exited 0
  /-- How many bytes of its input the program read. -/
  consumed : Nat := 0
  deriving DecidableEq, Repr

structure Machine where
  /-- The content of a file. -/
  read : Text → Except FileError Bytes
  /-- Is there a regular file at the path? -/
  isFile : Text → Bool
  /-- Is there anything at the path? -/
  present : Text → Bool
  /-- The list of directories in which programs are searched, if there is one. -/
  searchPath : Option Text
  /-- Run a program to its end; `none` if it cannot be started. -/
  start : Launch → Option Outcome

/-! ## Finding a program

An absolute name and a name of several components are paths of their own; a single component is
searched along the search path; a name that starts at the directory itself is taken as soon as
something is there. -/

namespace Lookup

def file? (m : Machine) (path : Text) : Option Text := if m.isFile path then some path else none

/-- The first directory of the search path that has a regular file of this name. -/
def search (m : Machine) (name : Text) : Option Text :=
  ((Path.searchList (m.searchPath.getD [])).map (Path.join · name)).find? m.isFile

def find? (m : Machine) (name : Text) : Option Text :=
  if Path.isAbsolute name then file? m name
  else if Path.startsHere name && m.present name then some name
  else match Path.components name with
    | [] => none
    | [component] => search m component
    | _ => file? m name

end Lookup

end LineShell
