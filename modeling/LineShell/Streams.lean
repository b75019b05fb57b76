import LineShell.Position
import LineShell.Text.Utf8

/-!
What a stage reads and writes. The session has two ends: the source that it reads, which may fail
instead of ending, and the sink that it prints to. A sink may have room for so many bytes only: it
takes what fits of a write and then fails. Between the stages of a pipeline there is a buffer with
two sides, what the running stage writes and what the stage before it wrote. Only a stage that runs
alone reads the session's source; every other stage reads the pipe. All stages write to the pipe,
and only the last one's output is passed on to the sink.
-/

namespace LineShell

/-! ## The source -/

structure Source where
  /-- Taken from the stream by the reader of lines, and not used yet. -/
  ahead : Bytes := []
  /-- Still in the stream. -/
  rest : Bytes := []
  /-- The error reported in place of the end of the stream. -/
  failure : Option Text := none
  /-- A stream of the process itself, which a program can be handed as it is. -/
  shared : Bool := false
  deriving DecidableEq, Repr

namespace Source

def read (source : Source) (n : Nat) : Bytes × Source :=
  let data := source.ahead ++ source.rest
  (data.take n, { source with ahead := [], rest := data.drop n })

/-- Read to the end. All data is used up, also when the end is an error. -/
def readAll (source : Source) : Except Text Bytes × Source :=
  let used := { source with ahead := [], rest := [] }
  match source.failure with
  | some cause => (.error cause, used)
  | none => (.ok (source.ahead ++ source.rest), used)

end Source

/-! ## The sink -/

structure Sink where
  /-- How many more bytes it takes; no limit if `none`. -/
  room : Option Nat := none
  /-- All that has been taken. -/
  written : Bytes := []
  deriving DecidableEq, Repr

namespace Sink

def full : Text := "sink full".toList

/-- Write bytes: the part that fits is taken, and the write fails if some do not. -/
def write (sink : Sink) (data : Bytes) : Except Text Unit × Sink :=
  match sink.room with
  | none => (.ok (), { sink with written := sink.written ++ data })
  | some room =>
    (if data.length ≤ room then .ok () else .error full,
      { room := some (room - data.length), written := sink.written ++ data.take room })

end Sink

/-! ## The pipe -/

structure Pipe where
  /-- Written by the running stage. -/
  output : Bytes := []
  /-- Written by the stage before, for the running stage to read. -/
  input : Bytes := []
  deriving DecidableEq, Repr

namespace Pipe

def append (pipe : Pipe) (data : Bytes) : Pipe := { pipe with output := pipe.output ++ data }

/-- The output becomes the input, whatever the input was. -/
def redirect (pipe : Pipe) : Pipe := { input := pipe.output, output := [] }

def takeInput (pipe : Pipe) : Bytes × Pipe := (pipe.input, { pipe with input := [] })

def clearInput (pipe : Pipe) : Pipe := { pipe with input := [] }

/-- Write the output to a sink. If the sink fails, the output stays as it is, the part included
that the sink has taken. -/
def flush (pipe : Pipe) (sink : Sink) : Except Text Unit × Pipe × Sink :=
  match sink.write pipe.output with
  | (.ok (), sink) => (.ok (), { pipe with output := [] }, sink)
  | (.error cause, sink) => (.error cause, pipe, sink)

end Pipe

/-! ## A stage's view -/

structure Streams where
  pipe : Pipe := {}
  source : Source := {}
  sink : Sink := {}
  deriving DecidableEq, Repr

namespace Streams

/-- May a program at this position be handed the session's source itself? -/
def sharesSource (io : Streams) (p : Position) : Bool := io.source.shared && p.isSingle

def readBytes (io : Streams) (p : Position) : Except Text Bytes × Streams :=
  if p.isSingle then
    let (data, source) := io.source.readAll
    (data, { io with source })
  else
    let (data, pipe) := io.pipe.takeInput
    (.ok data, { io with pipe })

def readText (io : Streams) (p : Position) : Except Text Text × Streams :=
  let (data, io) := io.readBytes p
  (data.map Utf8.decode, io)

def append (io : Streams) (data : Bytes) : Streams := { io with pipe := io.pipe.append data }

/-- Pass the output on to the sink, at the last position only. -/
def flush (io : Streams) (p : Position) : Except Text Unit × Streams :=
  if p.isLast then
    let (result, pipe, sink) := io.pipe.flush io.sink
    (result, { io with pipe, sink })
  else (.ok (), io)

end Streams

end LineShell
