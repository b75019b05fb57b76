/-!
The place of a stage in its pipeline, which decides where the stage reads and whether its output
may leave the shell; and what a line says about the session when it has run.
-/

namespace LineShell

inductive Placement where
  /-- The only stage, first and last at once. -/
  | single
  | first | intermediate | last
  deriving DecidableEq, Repr

/-- Stage `index` of `total`, counted from zero. -/
structure Position where
  index : Nat
  total : Nat
  deriving DecidableEq, Repr

namespace Position

/-- The position of a command outside any pipeline. -/
def alone : Position := ⟨0, 1⟩

def placement (p : Position) : Placement :=
  if p.total = 1 then .single
  else if p.index = 0 then .first
  else if p.index + 1 = p.total then .last
  else .intermediate

def isSingle (p : Position) : Bool := p.placement == .single

def isLast (p : Position) : Bool := p.placement == .last || p.placement == .single

end Position

inductive Signal where
  | goOn | exit
  deriving DecidableEq, Repr

namespace Signal

/-- The code by which a command asks to end the session. -/
def exitCode : Int := -1

def ofCode (code : Int) : Signal := if code = exitCode then .exit else .goOn

end Signal

end LineShell
