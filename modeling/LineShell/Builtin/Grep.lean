import LineShell.Builtin.Simple
import LineShell.Pattern
import LineShell.Text.Basic

/-!
`grep`: the lines that match a pattern, each with so many lines after it if that is asked for. Runs
of lines that were not next to each other are then set apart by a line of two hyphens. With several
files each line bears the name of its file.
-/

namespace LineShell.Builtin

structure Grep where
  pattern : Text
  files : List Text := []
  wholeWords : Bool := false
  ignoreCase : Bool := false
  /-- How many lines after a match are printed, too. -/
  after : Nat := 0
  deriving DecidableEq, Repr

namespace Grep

def name : Text := "grep".toList

/-! ## Arguments -/

def usage : Options.Usage where
  call := "grep [-w] [-i] [-A <after-context>] [--] <pattern> [files...]"
  purpose := "print lines matching a pattern"
  positional := ["  pattern           the pattern to search for (a regular expression)"]
  options := [
    "  -w, --word-regexp match only whole words (using non-word characters as",
    "                    boundaries)",
    "  -i, --ignore-case ignore case distinctions",
    "  -A, --after-context",
    "                    print NUM lines of trailing context after matching lines"]

structure Draft where
  pattern : Option Text := none
  files : List Text := []
  wholeWords : Bool := false
  ignoreCase : Bool := false
  after : Option Nat := none
  deriving DecidableEq, Repr

/-- Set the number of lines after a match, which can be done once. -/
def Draft.setAfter (draft : Draft) (value : Text) : Except Options.ValueFault Draft :=
  match draft.after with
  | some _ => .error .duplicate
  | none =>
    match Numeral.read value with
    | .ok n => .ok { draft with after := some n }
    | .error fault => .error (.numeral fault)

/-- The first word is the pattern, and options may follow it; the first file ends them. -/
def grammar : Options.Grammar Draft where
  usage := usage.text
  start := {}
  option word :=
    if word = "-w".toList ∨ word = "--word-regexp".toList then
      some (.switch fun draft => { draft with wholeWords := true })
    else if word = "-i".toList ∨ word = "--ignore-case".toList then
      some (.switch fun draft => { draft with ignoreCase := true })
    else if word = "-A".toList ∨ word = "--after-context".toList then some (.value Draft.setAfter)
    else none
  positional draft word :=
    match draft.pattern with
    | none => some ({ draft with pattern := some word }, false)
    | some _ => some ({ draft with files := draft.files ++ [word] }, true)
  missing draft := if draft.pattern.isNone then some "pattern".toList else none

def ofDraft (draft : Draft) : Grep :=
  ⟨draft.pattern.getD [], draft.files, draft.wholeWords, draft.ignoreCase, draft.after.getD 0⟩

def parse (words : List Text) : Except Options.Refusal Grep := (grammar.parse words).map ofDraft

/-! ## Lines -/

/-- The text of the pattern that is searched for. Whole words are those between word boundaries. -/
def patternText (grep : Grep) : Text :=
  if grep.wholeWords then "\\b(".toList ++ grep.pattern ++ ")\\b".toList else grep.pattern

/-- The lines that are kept, and a gap for each other line. The next `left` lines are kept in any
case. -/
def keep (after : Nat) (isMatch : Text → Bool) : Nat → List Text → List (Option Text)
  | _, [] => []
  | left, line :: rest =>
    match if isMatch line then after + 1 else left with
    | 0 => none :: keep after isMatch 0 rest
    | left + 1 => some line :: keep after isMatch left rest

def runs : List (Option Text) → List (List Text)
  | [] => []
  | none :: rest => runs rest
  | some line :: rest =>
    match rest.head?, runs rest with
    | some (some _), run :: others => (line :: run) :: others
    | _, others => [line] :: others

def labelled (label line : Text) : Text := label ++ line ++ ['\n']

def select (after : Nat) (isMatch : Text → Bool) (label text : Text) : Text :=
  let blocks := (runs (keep after isMatch 0 (Text.lines text))).map
    (·.flatMap (labelled label))
  Text.join (if after > 0 then "--\n".toList else []) blocks

def complaint (pattern : Text) (refusal : Pattern.Refusal) : Text :=
  "grep: invalid regex pattern: ".toList ++ pattern ++ ": ".toList ++ refusal.message pattern ++
    ['\n']

def output (grep : Grep) (e : Pattern.Expr) (label : Text) (data : Bytes) : Bytes :=
  Utf8.encode (select grep.after e.isMatch label (Utf8.decode data))

def label (grep : Grep) (file : Text) : Text :=
  if grep.files.length > 1 then file ++ [':'] else []

def behaviour (grep : Grep) (site : Site) : Behaviour :=
  match Pattern.compile grep.ignoreCase grep.patternText with
  | .error refusal => .prints ⟨Utf8.encode (complaint grep.patternText refusal), 1⟩
  | .ok e =>
    match grep.files with
    | [] => .reads fun data => ⟨grep.output e [] data, 0⟩
    | files => .prints (site.visitAll name (fun file => grep.output e (grep.label file)) files)

end Grep

end LineShell.Builtin
