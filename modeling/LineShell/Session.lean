import LineShell.Builtin
import LineShell.Command
import LineShell.Error
import LineShell.Machine
import LineShell.Streams

/-!
A session: variables, a directory and streams, and the lines run in it. The stages of a line run
from left to right, each to its end, and pass data on through the pipe. A line that ends early, by
an error or by `exit`, leaves an empty pipe behind.
-/

namespace LineShell

structure Session where
  vars : Variables := {}
  directory : Text := Path.here
  streams : Streams := {}
  deriving DecidableEq, Repr

abbrev Answer (α : Type) := Except LineError α × Session

namespace Session

def setStreams (s : Session) (streams : Streams) : Session := { s with streams }

def setPipe (s : Session) (pipe : Pipe) : Session := s.setStreams { s.streams with pipe }

/-! ## Commands -/

/-- The end of a command: its output goes to the pipe, and to the sink if the stage is the last. -/
def deliver (s : Session) (p : Position) (output : Bytes) (code : Int) : Answer Int :=
  match (s.streams.append output).flush p with
  | (.ok (), streams) => (.ok code, s.setStreams streams)
  | (.error cause, streams) => (.error (.command cause), s.setStreams streams)

/-- Run a built-in command. A failure to read is reported on its output. -/
def runBuiltin (s : Session) (p : Position) : Builtin.Behaviour → Answer Int
  | .prints reply => s.deliver p reply.output reply.code
  | .reads reply =>
    match s.streams.readBytes p with
    | (.ok data, streams) => (s.setStreams streams).deliver p (reply data).output (reply data).code
    | (.error cause, streams) =>
      (s.setStreams streams).deliver p (Utf8.encode (cause ++ ['\n'])) 1

def spawnFailure (program : Text) : LineError := .command (program ++ ": failed to spawn".toList)

/-- What is handed to a program as its input, and the session while it runs. A source that the
program shares is handed over as it is. -/
def programInput (s : Session) (p : Position) : Except Text Bytes × Session :=
  if s.streams.sharesSource p then (.ok s.streams.source.rest, s)
  else
    let (data, streams) := s.streams.readBytes p
    (data, s.setStreams streams)

/-- The session after a program that read `n` bytes of its input. Only from a shared source are
they missing. -/
def afterProgram (s : Session) (p : Position) (n : Nat) : Session :=
  if s.streams.sharesSource p then
    let source := s.streams.source
    s.setStreams { s.streams with source := { source with rest := source.rest.drop n } }
  else s

def runProgram (s : Session) (m : Machine) (p : Position) (program : Text)
    (arguments : List Text) : Answer Int :=
  match s.programInput p with
  | (.error cause, s) => (.error (.command cause), s)
  | (.ok input, s) =>
    match m.start { program, arguments, directory := s.directory, input } with
    | none => (.error (spawnFailure program), s)
    | some outcome =>
      (s.afterProgram p outcome.consumed).deliver p outcome.output outcome.ending.code

def runAt (s : Session) (m : Machine) (p : Position) (name : Text) (arguments : List Text) :
    Answer Int :=
  match Builtin.find? ⟨m, s.directory⟩ name with
  | some behaviour => s.runBuiltin p (behaviour arguments)
  | none =>
    match Lookup.find? m name with
    | some program => s.runProgram m p program arguments
    | none => (.error (.unknownCommand name), s)

/-- Run a command outside any pipeline. -/
def run (s : Session) (m : Machine) (name : Text) (arguments : List Text) : Answer Int :=
  s.runAt m .alone name arguments

/-! ## Lines -/

/-- Carry out what a stage asks for. A stage of empty values alone asks for nothing. -/
def perform (s : Session) (m : Machine) (p : Position) : Command → Answer Signal
  | .assign name value => (.ok .goOn, { s with vars := s.vars.set name value })
  | .call [] => (.ok .goOn, s)
  | .call (name :: arguments) =>
    match s.runAt m p name arguments with
    | (.ok code, s) => (.ok (.ofCode code), s)
    | (.error e, s) => (.error e, s)

/-- Run one stage: what the stage before it wrote is its input, and what it does not read goes. -/
def runStage (s : Session) (m : Machine) (p : Position) (stage : Stage) : Answer Signal :=
  if stage.isEmpty then (.error (.emptyStage p.index p.total), s)
  else
    match (s.setPipe s.streams.pipe.redirect).perform m p (Command.ofStage stage) with
    | (.ok .goOn, s) => (.ok .goOn, s.setPipe s.streams.pipe.clearInput)
    | answer => answer

/-- The end of a line: what is left in the pipe goes to the sink. -/
def flush (s : Session) : Answer Signal :=
  match s.streams.pipe.flush s.streams.sink with
  | (.ok (), pipe, sink) => (.ok .goOn, s.setStreams { s.streams with pipe, sink })
  | (.error cause, pipe, sink) =>
    (.error (.transfer cause), s.setStreams { s.streams with pipe, sink })

def runStages (m : Machine) (total : Nat) : Nat → Session → List Stage → Answer Signal
  | _, s, [] => s.flush
  | index, s, stage :: rest =>
    match s.runStage m ⟨index, total⟩ stage with
    | (.ok .goOn, s) => runStages m total (index + 1) s rest
    | answer => answer

def chain (s : Session) (m : Machine) (stages : List Stage) : Answer Signal :=
  match runStages m stages.length 0 s stages with
  | (.ok .goOn, s) => (.ok .goOn, s)
  | (result, s) => (result, s.setPipe {})

def line (s : Session) (m : Machine) (text : Text) : Answer Signal :=
  match Stage.ofLine s.vars text with
  | .error e => (.error e, s)
  | .ok stages => s.chain m stages

end Session

end LineShell
