import LineShell.Pattern.Tree
import LineShell.Unicode.Word

/-!
What a pattern means: an expression over sets of characters and conditions on places, in which
flags, names and spellings are resolved.
-/

namespace LineShell.Pattern

/-- Does the condition hold, given whether there are word characters before and after? -/
def Boundary.holds (boundary : Boundary) (before after : Bool) : Bool :=
  match boundary with
  | edge => before != after
  | noEdge => before == after
  | start => !before && after
  | stop => before && !after
  | startHalf => !before
  | stopHalf => !after

inductive Place where
  | textStart
  | textEnd
  /-- After a newline, too; a carriage return may end a line, too, but not before a newline. -/
  | lineStart (carriageReturns : Bool)
  /-- Before a newline, too; a carriage return may end a line, too. -/
  | lineEnd (carriageReturns : Bool)
  /-- With the word characters of Unicode or those of ASCII. -/
  | word (unicode : Bool) (boundary : Boundary)
  deriving DecidableEq, Repr

/-- Does the condition hold between two characters? A missing one is beyond an end of the line. -/
def Place.holds (before after : Option Char) : Place → Bool
  | textStart => before.isNone
  | textEnd => after.isNone
  | lineStart carriageReturns =>
    before.all (· == '\n') || (carriageReturns && before == some '\r' && after != some '\n')
  | lineEnd false => after.all (· == '\n')
  | lineEnd true =>
    after.isNone || after == some '\r' || (after == some '\n' && before != some '\r')
  | word unicode boundary =>
    let isWord := if unicode then Unicode.isWord else Unicode.isAsciiWord
    boundary.holds (before.any isWord) (after.any isWord)

inductive Expr where
  | empty
  | char (c : Char)
  | set (s : CharSet)
  | place (p : Place)
  | capture (e : Expr)
  | cat (a b : Expr)
  | alt (a b : Expr)
  | rep (least : Nat) (most : Option Nat) (e : Expr)
  deriving DecidableEq, Repr

namespace Expr

/-- A set; one of a single character is that character. -/
def ofSet (s : CharSet) : Expr :=
  match s.only? with
  | some c => char c
  | none => set s

def andThen : Expr → Expr → Expr
  | empty, b => b
  | a, empty => a
  | a, b => cat a b

def sequence (es : List Expr) : Expr := es.foldr andThen empty

/-- The characters of an expression that stands for one character of a set. -/
def charSet? : Expr → Option CharSet
  | char c => some (CharSet.single c)
  | set s => some s
  | _ => none

def unionSet? : List Expr → Option CharSet
  | [] => some {}
  | e :: es => return (← unionSet? es).union (← e.charSet?)

def choose : Expr → List Expr → Expr
  | e, [] => e
  | e, f :: es => alt e (choose f es)

/-- A choice; one between sets is a set. -/
def choice (es : List Expr) : Expr :=
  match unionSet? es, es with
  | some s, _ => ofSet s
  | none, e :: es => choose e es
  | none, [] => set {}

/-- Can the expression match nothing but the empty text? -/
def isVoid : Expr → Bool
  | empty | place _ => true
  | char _ | set _ => false
  | capture e => e.isVoid
  | cat a b | alt a b => a.isVoid && b.isVoid
  | rep _ most e => e.isVoid || most == some 0

/-- May the expression match the empty text? A set without characters counts as if it might. -/
def isNullable : Expr → Bool
  | empty | place _ => true
  | char _ => false
  | set s => s.ranges.isEmpty
  | capture e => e.isNullable
  | cat a b => a.isNullable && b.isNullable
  | alt a b => a.isNullable || b.isNullable
  | rep least _ e => least == 0 || e.isNullable

/-- A repetition. What matches only the empty text need not be repeated more than once. -/
def times (least : Nat) (most : Option Nat) (e : Expr) : Expr :=
  let least := if e.isVoid then min least 1 else least
  let most := if e.isVoid then some (min (most.getD 1) 1) else most
  if least = 0 ∧ most = some 0 then empty
  else if least = 1 ∧ most = some 1 then e
  else rep least most e

end Expr

end LineShell.Pattern
