import LineShell.Session
import LineShell.Text.Basic
import LineShell.Unicode.Grapheme

/-!
The read loop: lines are taken from the input of the process and run, until one of them ends the
session or the input ends. A line that fails is reported, and the loop goes on. A line that is
blank is not run. The session can have other streams than the process, and then its commands read
nothing of what the loop reads; if it shares them, both read from the same source.
-/

namespace LineShell

/-! ## Taking a line -/

namespace Source

/-- Lines are taken from the stream in blocks of this many bytes, so that the stream of a shared
source can be further on than the line. -/
def blockSize : Nat := 8192

/-- The bytes up to the first newline, which is taken, too. -/
def firstLine : Bytes → Bytes
  | [] => []
  | b :: r => if b = 10 then [b] else b :: firstLine r

def wholeBlocks (n : Nat) : Nat := (n + (blockSize - 1)) / blockSize * blockSize

/-- Take the first line, in bytes. What the last block has beyond it is kept ahead. -/
def takeLine (source : Source) : Bytes × Source :=
  let line := firstLine (source.ahead ++ source.rest)
  let taken := wholeBlocks (line.length - source.ahead.length)
  (line,
    { source with
      ahead := (source.ahead ++ source.rest.take taken).drop line.length
      rest := source.rest.drop taken })

theorem firstLine_append_drop (data : Bytes) :
    firstLine data ++ data.drop (firstLine data).length = data := by
  induction data with
  | nil => rfl
  | cons b r ih => simp only [firstLine]; split <;> simp_all

theorem length_firstLine_le (data : Bytes) : (firstLine data).length ≤ data.length := by
  have := congrArg List.length (firstLine_append_drop data)
  simp only [List.length_append] at this
  omega

theorem le_wholeBlocks (n : Nat) : n ≤ wholeBlocks n := by
  simp only [wholeBlocks, blockSize]
  omega

/-- The line and what is left are the data that there was. -/
theorem takeLine_append (source : Source) :
    source.takeLine.1 ++ (source.takeLine.2.ahead ++ source.takeLine.2.rest) =
      source.ahead ++ source.rest := by
  have short := length_firstLine_le (source.ahead ++ source.rest)
  have enough := le_wholeBlocks
    ((firstLine (source.ahead ++ source.rest)).length - source.ahead.length)
  simp only [takeLine]
  rw [← List.drop_append_of_le_length, List.append_assoc, List.take_append_drop,
    firstLine_append_drop]
  simp only [List.length_append, List.length_take] at short ⊢
  omega

/-- An empty line, without even a newline, is taken only if no data is left. -/
theorem takeLine_eq_nil_iff (source : Source) :
    source.takeLine.1 = [] ↔ source.ahead ++ source.rest = [] := by
  simp only [takeLine]
  cases source.ahead ++ source.rest with
  | nil => simp [firstLine]
  | cons b r => simp only [firstLine]; split <;> simp

def undecodable : Text := "stream did not contain valid UTF-8".toList

/-- Take the first line and decode it; `none` at the end of the source. -/
def readLine (source : Source) : Except Text (Option Text) × Source :=
  let (line, source) := source.takeLine
  match (if line.getLast? = some 10 then none else source.failure), line, Utf8.decode? line with
  | some cause, _, _ => (.error cause, source)
  | none, [], _ => (.ok none, source)
  | none, _, some text => (.ok (some text), source)
  | none, _, none => (.error undecodable, source)

end Source

/-! ## Editing it -/

namespace InputLine

def dropEnd (line : Text) : Text :=
  match line.reverse with
  | '\n' :: '\r' :: r | '\n' :: r => r.reverse
  | _ => line

def backspace : Char := '\x08'

/-- One more cluster after those typed, the last of which comes first. -/
def type (typed : List Text) (cluster : Text) : List Text :=
  if cluster = [backspace] then typed.tail else cluster :: typed

/-- What is left of a text after each backspace has removed the cluster before it. -/
def applyBackspaces (text : Text) : Text :=
  ((Unicode.Grapheme.clusters text).foldl type []).reverse.flatten

def edit (line : Text) : Text := applyBackspaces (dropEnd line)

end InputLine

/-! ## The loop -/

/-- The input and the output of the process. -/
structure Console where
  source : Source := {}
  sink : Sink := {}
  deriving DecidableEq, Repr

/-- Ask for a line and read it; `none` at the end of the source. -/
def Console.nextLine (c : Console) (prompt : Text) : Except Text (Option Text) × Console :=
  match c.sink.write (Utf8.encode prompt) with
  | (.error cause, sink) => (.error cause, { c with sink })
  | (.ok (), sink) =>
    let (line, source) := c.source.readLine
    (line.map (·.map InputLine.edit), { source, sink })

/-- A session in the process that reads its lines. -/
structure Shell where
  session : Session
  /-- The console, where the session has streams of its own. -/
  apart : Console := {}
  deriving DecidableEq, Repr

structure Report where
  shell : Shell
  /-- What was reported on the way. -/
  errors : Text := []
  status : Nat := 0
  deriving DecidableEq, Repr

def Session.complaint (e : LineError) : Text := e.message ++ ['\n']

namespace Shell

/-- A session that shares the streams of the process has them as its own. -/
def console (sh : Shell) : Console :=
  if sh.session.streams.source.shared then
    { source := sh.session.streams.source, sink := sh.session.streams.sink }
  else sh.apart

def setConsole (sh : Shell) (c : Console) : Shell :=
  if sh.session.streams.source.shared then
    { sh with
      session := sh.session.setStreams { sh.session.streams with source := c.source, sink := c.sink } }
  else { sh with apart := c }

def nextLine (sh : Shell) (prompt : Text) : Except Text (Option Text) × Shell :=
  let (line, c) := sh.console.nextLine prompt
  (line, sh.setConsole c)

def line (sh : Shell) (m : Machine) (text : Text) : Except LineError Signal × Shell :=
  let (result, session) := sh.session.line m text
  (result, { sh with session })

/-- Run at most `n` lines more, after `k` that have been read. Programs and files can be others from
line to line: each line has a machine of its own. -/
def readLines (machines : Nat → Machine) (prompt : Text) (k : Nat) : Nat → Shell → Report
  | 0, sh => ⟨sh, [], 0⟩
  | n + 1, sh =>
    match sh.nextLine prompt with
    | (.error cause, sh) => ⟨sh, "Error: ".toList ++ cause ++ ['\n'], 1⟩
    | (.ok none, sh) => ⟨sh, [], 0⟩
    | (.ok (some text), sh) =>
      if text.all Text.isBlank then readLines machines prompt (k + 1) n sh
      else match sh.line (machines k) text with
        | (.ok .goOn, sh) => readLines machines prompt (k + 1) n sh
        | (.ok .exit, sh) => ⟨sh, [], 0⟩
        | (.error e, sh) =>
          let report := readLines machines prompt (k + 1) n sh
          { report with errors := Session.complaint e ++ report.errors }

/-- Run the lines of the console. Each takes a byte of it at least. -/
def readLoop (sh : Shell) (machines : Nat → Machine) (prompt : Text) : Report :=
  readLines machines prompt 0
    (sh.console.source.ahead.length + sh.console.source.rest.length + 1) sh

end Shell

end LineShell
