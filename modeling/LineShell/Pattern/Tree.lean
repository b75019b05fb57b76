import LineShell.Pattern.Span

/-!
The syntax of patterns. Every node has the span of the pattern that it was read from.
-/

namespace LineShell.Pattern

inductive Flag where
  | ignoreCase | multiLine | dotMatchesNewline | swapGreed | unicode | carriageReturns | verbose
  deriving DecidableEq, Repr

structure Switch where
  flag : Flag
  on : Bool
  deriving DecidableEq, Repr

/-- Conditions on a place by what is before and after it: word characters or not. -/
inductive Boundary where
  /-- Exactly one of the two is a word character. -/
  | edge
  /-- Both are word characters, or neither is. -/
  | noEdge
  | start
  | stop
  /-- No word character before. -/
  | startHalf
  /-- No word character after. -/
  | stopHalf
  deriving DecidableEq, Repr

inductive Anchor where
  | lineStart | lineEnd | textStart | textEnd
  | word (boundary : Boundary)
  deriving DecidableEq, Repr

inductive Shorthand where
  | digit | space | word
  deriving DecidableEq, Repr

inductive Posix where
  | alnum | alpha | ascii | blank | cntrl | digit | graph | lower | print | punct | space | upper
  | word | xdigit
  deriving DecidableEq, Repr

inductive Query where
  | name (name : Text)
  | value (property value : Text)
  deriving DecidableEq, Repr

structure Literal where
  span : Span
  char : Char
  /-- Written as `\x` and two digits, which can stand for a byte. -/
  isByte : Bool := false
  deriving DecidableEq, Repr

inductive ClassEscape where
  | shorthand (kind : Shorthand)
  | property (query : Query)
  deriving DecidableEq, Repr

inductive SetOp where
  | intersection | difference | symmetricDifference
  deriving DecidableEq, Repr

inductive Members where
  | none (span : Span)
  | literal (literal : Literal)
  | range (span : Span) (first last : Literal)
  | posix (span : Span) (kind : Posix) (negated : Bool)
  | escape (span : Span) (kind : ClassEscape) (negated : Bool)
  | brackets (span : Span) (negated : Bool) (members : Members)
  | union (span : Span) (items : List Members)
  | op (span : Span) (op : SetOp) (left right : Members)

def Members.span : Members → Span
  | none s | range s .. | posix s .. | escape s .. | brackets s .. | union s _ | op s .. => s
  | literal l => l.span

inductive Tree where
  | empty (span : Span)
  /-- Flags for what follows in the group. -/
  | flags (span : Span) (switches : List Switch)
  | literal (literal : Literal)
  | dot (span : Span)
  | anchor (span : Span) (kind : Anchor)
  | escape (span : Span) (kind : ClassEscape) (negated : Bool)
  | brackets (span : Span) (negated : Bool) (members : Members)
  | repetition (span : Span) (least : Nat) (most : Option Nat) (body : Tree)
  | group (span : Span) (captures : Bool) (switches : List Switch) (body : Tree)
  | sequence (span : Span) (items : List Tree)
  | choice (span : Span) (branches : List Tree)

def Tree.span : Tree → Span
  | empty s | flags s _ | dot s | anchor s _ | escape s .. | brackets s .. | repetition s ..
  | group s .. | sequence s _ | choice s _ => s
  | literal l => l.span

end LineShell.Pattern
