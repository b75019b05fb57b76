import LineShell.Pattern.Expr

/-!
Matching. The places of a line are those before its characters and the one at its end. A set of
places is a list of truth values, and an expression takes the places where a match may start to
those where it may end. Nothing is preferred, so all matches are found at once.
-/

namespace LineShell.Pattern

abbrev Places := List Bool

namespace Places

def union (a b : Places) : Places := List.zipWith or a b

def inter (a b : Places) : Places := List.zipWith and a b

def all (line : Text) : Places := List.replicate (line.length + 1) true

def after (marked : List Bool) (places : Places) : Places :=
  false :: List.zipWith and marked places

/-- The places of a line where a condition holds; `before` is the character before it. -/
def holding (p : Place) : Option Char → Text → Places
  | before, [] => [p.holds before none]
  | before, c :: r => p.holds before (some c) :: holding p (some c) r

def iterate (move : Places → Places) : Nat → Places → Places
  | 0, places => places
  | n + 1, places =>
    let next := move places
    if next = places then places else iterate move n next

/-- Move up to `n` times, and keep all places on the way. -/
def spread (move : Places → Places) : Nat → Places → Places
  | 0, places => places
  | n + 1, places =>
    let next := places.union (move places)
    if next = places then places else spread move n next

end Places

namespace Expr

/-- The places where a match can end, from those where it can start. A line with `n` places is
through with a repetition after `n` rounds: those beyond them have come back to the same place. -/
def ends (line : Text) : Expr → Places → Places
  | empty, places => places
  | char c, places => places.after (line.map (· == c))
  | set s, places => places.after (line.map s.contains)
  | place p, places => places.inter (Places.holding p none line)
  | capture e, places => e.ends line places
  | cat a b, places => b.ends line (a.ends line places)
  | alt a b, places => (a.ends line places).union (b.ends line places)
  | rep least most e, places =>
    let rounds := line.length + 1
    let more := match most with
      | some most => min (most - least) rounds
      | none => rounds
    Places.spread (e.ends line) more (Places.iterate (e.ends line) (min least rounds) places)

def isMatch (e : Expr) (line : Text) : Bool := (e.ends line (Places.all line)).contains true

end Expr

end LineShell.Pattern
