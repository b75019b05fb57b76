import LineShell.Machine
import LineShell.Text.Utf8

/-!
What a built-in command does, and its file arguments. It either prints something at once, or reads
all that it has to read, once, and prints something that depends on it. A file is named from the
session's directory. One that cannot be read gets a line of its own and fails the command, but the
files after it are read all the same.
-/

namespace LineShell.Builtin

/-! ## Replies -/

/-- Bytes for the next stage or the sink, and the code of the command. -/
structure Reply where
  output : Bytes := []
  code : Int := 0
  deriving DecidableEq, Repr

inductive Behaviour where
  | prints (reply : Reply)
  | reads (reply : Bytes → Reply)

/-- One reply after the other; a failure of either is a failure. -/
def Reply.andThen (first second : Reply) : Reply :=
  ⟨first.output ++ second.output, if first.code = 0 then second.code else first.code⟩

def Reply.all (replies : List Reply) : Reply := replies.foldr Reply.andThen {}

/-! ## Files -/

/-- Where a command runs: the machine, and the session's directory on it. -/
structure Site where
  machine : Machine
  directory : Text

def Site.read (site : Site) (file : Text) : Except FileError Bytes :=
  site.machine.read (Path.join site.directory file)

def complaint (command file : Text) (cause : FileError) : Text :=
  command ++ ": ".toList ++ file ++ ": ".toList ++ cause.message ++ ['\n']

def Site.visit (site : Site) (command : Text) (chunk : Text → Bytes → Bytes) (file : Text) :
    Reply :=
  match site.read file with
  | .ok data => ⟨chunk file data, 0⟩
  | .error cause => ⟨Utf8.encode (complaint command file cause), 1⟩

def Site.visitAll (site : Site) (command : Text) (chunk : Text → Bytes → Bytes)
    (files : List Text) : Reply :=
  Reply.all (files.map (site.visit command chunk))

end LineShell.Builtin
