import LineShell.Text.Basic

/-!
Places in a pattern, counted in lines and columns from one.
-/

namespace LineShell.Pattern

/-- A place before a character, or the end of the pattern. -/
structure Mark where
  line : Nat := 1
  column : Nat := 1
  deriving DecidableEq, Repr

namespace Mark

def after (m : Mark) (c : Char) : Mark :=
  if c = '\n' then ⟨m.line + 1, 1⟩ else { m with column := m.column + 1 }

/-- Does one place come before the other? -/
def before (a b : Mark) : Bool := a.line < b.line || (a.line == b.line && a.column < b.column)

end Mark

/-- The part of a pattern between two places; it is empty if they are the same. -/
structure Span where
  start : Mark
  stop : Mark
  deriving DecidableEq, Repr

namespace Span

def point (m : Mark) : Span := ⟨m, m⟩

def isOneLine (s : Span) : Bool := s.start.line == s.stop.line

/-- The order in which spans are reported: by start, then by end. -/
def before (a b : Span) : Bool :=
  a.start.before b.start || (a.start == b.start && a.stop.before b.stop)

end Span

end LineShell.Pattern
