import LineShell.Pattern.Fault
import LineShell.Text.Basic

/-!
Reading a pattern character by character. In verbose mode blanks and comments, from `#` to the end
of the line, are skipped between the parts of a pattern.
-/

namespace LineShell.Pattern

structure ReadState where
  rest : Text
  mark : Mark := {}
  verbose : Bool := false
  /-- The names of groups so far. -/
  names : List (Text × Span) := []

abbrev Reader (α : Type) := StateT ReadState (Except Complaint) α

namespace ReadState

def advance (s : ReadState) : ReadState :=
  match s.rest with
  | [] => s
  | c :: r => { s with rest := r, mark := s.mark.after c }

def skipFrom : Bool → Mark → Text → Mark × Text
  | _, m, [] => (m, [])
  | true, m, c :: r => skipFrom (c ≠ '\n') (m.after c) r
  | false, m, c :: r =>
    if Text.isBlank c then skipFrom false (m.after c) r
    else if c = '#' then skipFrom true (m.after c) r
    else (m, c :: r)

def skip (s : ReadState) : ReadState :=
  if s.verbose then
    let (mark, rest) := skipFrom false s.mark s.rest
    { s with mark, rest }
  else s

/-- The first character that is not blank, the sign of a comment being passed over once. -/
def visible : Bool → Text → Option Char
  | _, [] => none
  | comment, c :: r =>
    if Text.isBlank c then visible comment r
    else if !comment && c == '#' then visible true r
    else some c

/-- The character after the present one, or in verbose mode the first one there that counts. -/
def second (s : ReadState) : Option Char :=
  if s.verbose then (visible false s.rest.tail).or s.rest.tail.head? else s.rest.tail.head?

end ReadState

namespace Reader

def char? : Reader (Option Char) := return (← get).rest.head?

def here : Reader Mark := return (← get).mark

def atEnd : Reader Bool := return (← get).rest.isEmpty

def bump : Reader Unit := modify ReadState.advance

def skip : Reader Unit := modify ReadState.skip

def step : Reader Unit := modify fun s => s.advance.skip

def fail {α : Type} (fault : Fault) (span : Span) : Reader α := throw { fault, span }

def failHere {α : Type} (fault : Fault) : Reader α := do fail fault (Span.point (← here))

def failFrom {α : Type} (fault : Fault) (start : Mark) : Reader α := do
  fail fault ⟨start, ← here⟩

def charSpan : Reader Span := do
  let s ← get
  return ⟨s.mark, s.advance.mark⟩

def accept (text : Text) : Reader Bool := do
  let s ← get
  if text.isPrefixOf s.rest then
    set (text.foldl (fun s _ => s.advance) s)
    return true
  else return false

/-- Go step by step past at most `n` characters of a class, and return them. -/
def takeAtMost (p : Char → Bool) : Nat → Reader Text
  | 0 => return []
  | n + 1 => do
    match ← char? with
    | some c =>
      if p c then
        step
        return c :: (← takeAtMost p n)
      else return []
    | none => return []

def takeWhile (p : Char → Bool) : Reader Text := do takeAtMost p (← get).rest.length

end Reader

end LineShell.Pattern
