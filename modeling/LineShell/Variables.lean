import LineShell.Text.Basic

/-!
The variables of a session. A name is bound at most once; binding it again replaces the value and
keeps its place.
-/

namespace LineShell

/-- Names with their values, in the order in which the names were first bound. -/
structure Variables where
  bindings : List (Text × Text) := []
  deriving DecidableEq, Repr

namespace Variables

def get? (vars : Variables) (name : Text) : Option Text := vars.bindings.lookup name

/-- The value that `$name` stands for: nothing, if the name is unbound. -/
def expand (vars : Variables) (name : Text) : Text := (vars.get? name).getD []

def bind (name value : Text) : List (Text × Text) → List (Text × Text)
  | [] => [(name, value)]
  | (n, v) :: r => if n = name then (name, value) :: r else (n, v) :: bind name value r

def set (vars : Variables) (name value : Text) : Variables := ⟨bind name value vars.bindings⟩

def ofList (bindings : List (Text × Text)) : Variables :=
  bindings.foldl (fun vars b => vars.set b.1 b.2) {}

theorem lookup_bind (name value n : Text) (l : List (Text × Text)) :
    (bind name value l).lookup n = if n = name then some value else l.lookup n := by
  induction l with
  | nil => grind [bind]
  | cons b r ih => grind [bind]

/-- Binding changes the value of that name and of no other. -/
theorem get?_set (vars : Variables) (name value n : Text) :
    (vars.set name value).get? n = if n = name then some value else vars.get? n :=
  lookup_bind name value n vars.bindings

end Variables

end LineShell
