import LineShell.Options
import LineShell.ReadLoop

/-!
The command line of the shell: it runs the one line that it is given, or else the lines of its
input.
-/

namespace LineShell

structure CommandLine where
  /-- A line to run instead of those of the input. -/
  command : Option Text := none
  verbose : Bool := false
  deriving DecidableEq, Repr

namespace CommandLine

def name : Text := "pipeshell".toList

/-! ## Arguments -/

def usage : Options.Usage where
  call := "pipeshell [-c <command>] [-v]"
  purpose := "A small shell with pipelines, quoting and variables."
  options := [
    "  -c, --command     execute a single line and exit",
    "  -v, --verbose     log debug events to stderr"]

/-- Set the line to run, which can be done once. -/
def setCommand (c : CommandLine) (line : Text) : Except Options.ValueFault CommandLine :=
  match c.command with
  | some _ => .error .duplicate
  | none => .ok { c with command := some line }

def grammar : Options.Grammar CommandLine where
  usage := usage.text
  start := {}
  option word :=
    if word = "-c".toList ∨ word = "--command".toList then some (.value setCommand)
    else if word = "-v".toList ∨ word = "--verbose".toList then
      some (.switch fun c => { c with verbose := true })
    else none
  positional _ _ := none
  missing _ := none

/-! ## Running -/

structure Result where
  status : Nat := 0
  output : Bytes := []
  errors : Text := []
  deriving DecidableEq, Repr

def hint : Text := "Run ".toList ++ name ++ " --help for more information.\n".toList

/-- The result for arguments that do not ask for a run. Only the usage text is output. -/
def refuse (r : Options.Refusal) : Result :=
  let text := grammar.explain r ++ ['\n']
  if r.code = 0 then { output := Utf8.encode text } else { status := 1, errors := text ++ hint }

def parse (words : List Text) : Except Result CommandLine := (grammar.parse words).mapError refuse

/-- The terminals on which a line cannot be edited. -/
def plainTerminals : List Text := ["dumb".toList, "cons25".toList, "emacs".toList]

/-- The prompt for a kind of terminal. As the input is no terminal itself, it is written only where
lines are not edited anyway. -/
def prompt (terminal : Option Text) : Text :=
  if terminal.any fun t => plainTerminals.contains (t.map Char.toLower) then "> ".toList else []

def Result.ofReport (r : Report) : Result :=
  ⟨r.status, r.shell.session.streams.sink.written, r.errors⟩

/-- Run what the arguments ask for, in a session that shares the streams of the process. -/
def execute (c : CommandLine) (machines : Nat → Machine) (terminal : Option Text) (input : Bytes) :
    Result :=
  let session : Session := { streams := { source := { rest := input, shared := true } } }
  .ofReport <| match c.command with
    | none => Shell.readLoop { session } machines (prompt terminal)
    | some line =>
      match Shell.line { session } (machines 0) line with
      | (.ok _, shell) => { shell }
      | (.error e, shell) => { shell, errors := Session.complaint e, status := 1 }

/-- Run the shell with these arguments, on a machine that stays as it is. -/
def run (m : Machine) (terminal : Option Text) (input : Bytes) (words : List Text) : Result :=
  match parse words with
  | .error result => result
  | .ok c => c.execute (fun _ => m) terminal input

end CommandLine

end LineShell
