import LineShell.Pattern.Escape

/-!
Repetitions: `?`, `*`, `+` and counts between braces, each with an optional `?` after it, which
changes which match is preferred and so not whether there is one.
-/

namespace LineShell.Pattern

namespace Repetition

open Reader

structure Count where
  least : Nat
  most : Option Nat
  deriving DecidableEq, Repr

def Count.isValid (count : Count) : Bool := count.most.all (count.least ≤ ·)

/-- Counts are below this number. -/
def countBound : Nat := 0x100000000

/-- Blanks around a count go in every mode. -/
def blanks : Reader Unit := do
  let s ← get
  let (blank, rest) := s.rest.span Text.isBlank
  set { s with rest, mark := blank.foldl Mark.after s.mark }

def number : Reader (Except Complaint Nat) := do
  blanks
  let start ← here
  let digits ← takeWhile Char.isDigit
  let span : Span := ⟨start, ← here⟩
  let _ ← takeWhile Text.isBlank
  if digits = [] then return .error { fault := .countMissing, span }
  let n := digits.foldl (fun n c => 10 * n + (c.toNat - '0'.toNat)) 0
  if n < countBound then return .ok n else return .error { fault := .countInvalid, span }

/-- The count after an opening brace. A fault of the first number counts only once it is certain
that the pattern goes on. -/
def count (brace : Mark) : Reader Count := do
  let least ← number
  match ← char? with
  | none => failFrom .countUnclosed brace
  | some ',' =>
    step
    match ← char? with
    | none => failFrom .countUnclosed brace
    | some '\x7d' => return ⟨← least, none⟩
    | some _ =>
      let least ← least
      return ⟨least, some (← (← number))⟩
  | some _ =>
    let n ← least
    return ⟨n, some n⟩

/-- What is repeated: the last item. Flags and nothing cannot be. -/
def operand : List Tree → Reader (Tree × List Tree)
  | [] | .empty _ :: _ | .flags .. :: _ => failHere .repetitionMissing
  | item :: items => return (item, items)

def lazy : Reader Unit := do
  if (← char?) = some '?' then bump

/-- Read a repetition by a sign. The items so far come with the last one first. -/
def bySign (items : List Tree) (count : Count) : Reader (List Tree) := do
  let (item, items) ← operand items
  bump
  lazy
  return .repetition ⟨item.span.start, ← here⟩ count.least count.most item :: items

def byCount (items : List Tree) : Reader (List Tree) := do
  let (item, items) ← operand items
  let brace ← here
  step
  if ← atEnd then failFrom .countUnclosed brace
  let count ← Repetition.count brace
  if (← char?) ≠ some '\x7d' then failFrom .countUnclosed brace
  step
  lazy
  let stop ← here
  if !count.isValid then fail .countOrder ⟨brace, stop⟩
  return .repetition ⟨item.span.start, stop⟩ count.least count.most item :: items

end Repetition

end LineShell.Pattern
