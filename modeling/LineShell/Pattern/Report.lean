import LineShell.Pattern.Fault
import LineShell.Text.Basic

/-!
The report on a refused pattern. The pattern is shown with carets under the spans. A pattern with
a newline is shown between two rules and with its lines numbered; a span over several lines is
then described in words.
-/

namespace LineShell.Pattern.Report

def spans (c : Complaint) : List Span :=
  match c.earlier with
  | none => [c.span]
  | some e => if c.span.before e then [c.span, e] else [e, c.span]

/-- Carets under the spans of a line, `column` being how far the line of carets has come. An empty
span gets one caret. -/
def carets : Nat → List Span → Text
  | _, [] => []
  | column, s :: rest =>
    let gap := s.start.column - 1 - column
    let length := max 1 (s.stop.column - s.start.column)
    List.replicate gap ' ' ++ List.replicate length '^' ++ carets (column + gap + length) rest

/-- The carets under a line of the pattern, on a line of their own, if it has any. -/
def caretLine (indent : Nat) (all : List Span) (line : Nat) : Text :=
  match all.filter fun s => s.isOneLine && s.start.line == line with
  | [] => []
  | here => List.replicate indent ' ' ++ carets 0 here ++ ['\n']

/-- The lines of the pattern, the first of which has the number `line`. -/
def notated (label : Nat → Text) (indent : Nat) (all : List Span) : Nat → List Text → Text
  | _, [] => []
  | line, text :: rest =>
    label line ++ text ++ ['\n'] ++ caretLine indent all line ++
      notated label indent all (line + 1) rest

def rule : Text := List.replicate 79 '~' ++ ['\n']

def describe (s : Span) : Text :=
  "on line ".toList ++ Text.ofNat s.start.line ++ " (column ".toList ++
    Text.ofNat s.start.column ++ ") through line ".toList ++ Text.ofNat s.stop.line ++
    " (column ".toList ++ Text.ofNat (s.stop.column - 1) ++ ")\n".toList

def lineLabel (width line : Nat) : Text :=
  let n := Text.ofNat line
  List.replicate (width - n.length) ' ' ++ n ++ ": ".toList

/-- The pattern with its carets. A span may lie behind the last newline, so that counts as the
start of one more line. -/
def body (pattern : Text) (all : List Span) : Text :=
  let lines := Text.lines pattern
  if '\n' ∈ pattern then
    let count := lines.length + if pattern.getLast? = some '\n' then 1 else 0
    let width := (Text.ofNat count).length
    rule ++ notated (lineLabel width) (width + 2) all 1 lines ++ rule ++
      (all.filter fun s => !s.isOneLine).flatMap describe
  else notated (fun _ => "    ".toList) 4 all 1 lines

def ofComplaint (pattern : Text) (c : Complaint) : Text :=
  "regex parse error:\n".toList ++ body pattern (spans c) ++ "error: ".toList ++ c.fault.message

end LineShell.Pattern.Report
