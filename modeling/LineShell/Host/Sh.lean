import LineShell.Host.Run

/-!
Running scripts. A script has its arguments and variables, reads its input as far as its commands
ask for, and ends with the status of its last command, unless it exits or is killed before.
-/

namespace LineShell.Host

structure ShState where
  /-- The script's name and its arguments. -/
  arguments : List Bytes
  values : List (Text × Bytes) := []
  /-- The names in the directory, in order. -/
  names : List Text := []
  input : Bytes := []
  output : Bytes := []
  status : Nat := 0
  /-- Set when the script ends early. -/
  ending : Option Ending := none

namespace ShState

/-- What `$$` stands for. -/
def ownProcess : Bytes := [36, 36]

def value (s : ShState) (name : Text) : Bytes :=
  if name = ['$'] then ownProcess
  else if name = ['?'] then Utf8.encode (Text.ofNat s.status)
  else if name = ['#'] then Utf8.encode (Text.ofNat s.arguments.tail.length)
  else match Numeral.read name with
    | .ok n => s.arguments.getD n []
    | .error _ => (s.values.lookup name).getD []

def piece (s : ShState) : Piece → Bytes
  | .text t => Utf8.encode t
  | .value name => s.value name

def expand (s : ShState) : ScriptWord → List Bytes
  | .pieces ps => [ps.flatMap s.piece]
  | .arguments => s.arguments.tail
  | .names => if s.names.isEmpty then [[42]] else s.names.map Utf8.encode

def set (s : ShState) (name : Text) (value : Bytes) : ShState :=
  { s with values := (name, value) :: s.values, status := 0 }

def exit (s : ShState) (status : Nat) : ShState := { s with ending := some (.exited status) }

def misuse : Nat := 2

def notFound : Nat := 127

/-- The signals that are ignored unless a program asks for them. -/
def ignoredSignals : List Nat := [0, 17, 18, 23, 28]

/-- Take a line from the input; NUL is dropped. Without a newline there is no line. -/
def readLine (s : ShState) (name : Text) : ShState :=
  let line := s.input.takeWhile (· ≠ 10)
  let rest := s.input.drop line.length
  let s := s.set name (line.filter (· ≠ 0))
  { s with input := rest.tail, status := if rest.isEmpty then 1 else 0 }

def call (s : ShState) (p : Program) (args : List Bytes) : ShState :=
  let o := p.run args s.input
  { s with
    input := s.input.drop o.consumed
    output := s.output ++ o.output
    status := match o.ending with | .exited n => n | .killed n => 128 + n }

def program? (name : Text) : Option Program :=
  [("cat", Program.cat), ("tr", .tr), ("sort", .sort), ("printf", .printf), ("head", .head),
    ("true", .succeed), (":", .succeed), ("false", .fail)].findSome? fun (n, p) =>
      if n.toList = name then some p else none

def assignment? (word : Bytes) : Option (Text × Bytes) :=
  let text := Utf8.decode word
  let name := text.takeWhile Script.isNameChar
  if name ≠ [] ∧ (text.drop name.length).head? = some '=' then
    some (name, word.drop (name.length + 1))
  else none

def number? (word : Bytes) : Option Nat :=
  match Utf8.decode word with
  | [] => none
  | c :: r => if c.isDigit then (Numeral.read (c :: r)).toOption else none

def simple (s : ShState) (words : List Bytes) : ShState :=
  match words with
  | [] => s
  | word :: args =>
    let name := Utf8.decode word
    if name = "exit".toList then
      match args with
      | [] => s.exit s.status
      | n :: _ =>
        match number? n with
        | some n => s.exit (n % 256)
        | none => s.exit misuse
    else if name = "kill".toList then
      match args with
      | [signal, process] =>
        match number? signal.tail with
        | some n =>
          if process ≠ ownProcess then { s with status := 1 }
          else if ignoredSignals.contains n then { s with status := 0 }
          else { s with ending := some (.killed n) }
        | none => { s with status := misuse }
      | _ => { s with status := misuse }
    else if name = "read".toList then
      match args.getLast? with
      | some target => s.readLine (Utf8.decode target)
      | none => { s with status := misuse }
    else if name = "echo".toList then
      let line := (args.intersperse [32]).flatten ++ [10]
      { s with output := s.output ++ line, status := 0 }
    else if name = "pwd".toList then { s with status := 0 }
    else match program? name with
      | some p => s.call p args
      | none => { s with status := notFound }

def assignThen (s : ShState) : List Bytes → ShState
  | [] => s
  | word :: rest =>
    match assignment? word with
    | some (name, value) => (s.set name value).assignThen rest
    | none => s.simple (word :: rest)

def run : Nat → ShState → List ScriptCommand → ShState
  | 0, s, _ => s
  | _, s, [] => s
  | n + 1, s, c :: rest =>
    if s.ending.isSome then s
    else match c with
      | .simple words isSilent =>
        let next := s.assignThen (words.flatMap s.expand)
        run n (if isSilent then { next with output := s.output } else next) rest
      | .forEach name words body =>
        let s := (words.flatMap s.expand).foldl (fun s v => run n (s.set name v) body) s
        run n s rest
      | .whileSucceeds condition body =>
        let tested := run n s condition
        if tested.ending.isSome then tested
        else if tested.status = 0 then run n (run n tested body) (c :: rest)
        else run n { tested with status := 0 } rest

end ShState

/-- Run a script. Each round of a loop that ends reads a byte at least. -/
def runScript (script : Text) (arguments : List Bytes) (names : List Text) (input : Bytes) :
    Outcome :=
  let start : ShState := { arguments, names, input }
  let s := start.run (script.length + input.length + 2) (Script.parse script)
  { output := s.output, ending := s.ending.getD (.exited s.status),
    consumed := input.length - s.input.length }

end LineShell.Host
