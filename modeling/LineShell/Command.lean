import LineShell.Word

/-!
Stages of a line, and what they ask for. A stage is the words between two unquoted `|`. Empty stages
are kept, so that their places can be reported; a list of words always has one stage more than it
has separators. A stage asks for one of two things: binding a variable, or running a command with
arguments. Unquoted blanks separate arguments and neighbouring words are joined. The value of an
unquoted reference is cut at its own blanks besides; quoted text never is.
-/

namespace LineShell

/-! ## Stages -/

structure Stage where
  words : List Word := []
  deriving DecidableEq, Repr

namespace Stage

/-- A stage of unquoted blanks alone has nothing to run. -/
def isEmpty (stage : Stage) : Bool := stage.words.all Word.isBlank

def consFirst (word : Word) : List Stage → List Stage
  | [] => [⟨[word]⟩]
  | stage :: stages => ⟨word :: stage.words⟩ :: stages

/-- Cut at every unquoted `|`. -/
def split : List Word → List Stage
  | [] => [⟨[]⟩]
  | word :: rest => if word.isPipe then ⟨[]⟩ :: split rest else consFirst word (split rest)

def ofLine (vars : Variables) (line : Text) : Except LineError (List Stage) :=
  split <$> Word.ofTokens vars (Token.scan line)

end Stage

/-! ## Commands -/

inductive Command where
  /-- Bind a variable. -/
  | assign (name value : Text)
  /-- Run a command: its name, if any, and its arguments. -/
  | call (argv : List Text)
  deriving DecidableEq, Repr

namespace Command

/-- Without the unquoted blanks at both ends. -/
def trim (words : List Word) : List Word :=
  ((words.dropWhile Word.isBlank).reverse.dropWhile Word.isBlank).reverse

/-- An ASCII letter or an underscore. -/
def isNameStart (c : Char) : Bool := c.isAlpha || c == '_'

def isNameChar (c : Char) : Bool := c.isAlphanum || c == '_'

/-- Names that an assignment can bind. -/
def isName : Text → Bool
  | c :: r => isNameStart c && r.all isNameChar
  | [] => false

def extend (current : Option Text) (text : Text) : Option Text := some (current.getD [] ++ text)

/-- A split value meets the argument `current`: the arguments it completes, and the one it leaves
open. A blank at an end of the value separates it from its neighbour there. -/
def splice (current : Option Text) (value : Text) : List Text × Option Text :=
  let joined := if Text.startsBlank value then none else current
  let closed := if Text.startsBlank value then current.toList else []
  match Text.fields value with
  | [] => (closed, joined)
  | first :: more =>
    let pieces := (joined.getD [] ++ first) :: more
    if Text.endsBlank value then (closed ++ pieces, none)
    else (closed ++ pieces.dropLast, pieces.getLast?)

/-- The arguments of the words that follow, when `current` is an argument not yet complete. -/
def argumentsFrom : Option Text → List Word → List Text
  | current, [] => current.toList
  | current, .bare t :: rest =>
    if Token.isBlank t then current.toList ++ argumentsFrom none rest
    else argumentsFrom (extend current t) rest
  | current, .quoted t :: rest => argumentsFrom (extend current t) rest
  | current, .expansion value :: rest =>
    (splice current value).1 ++ argumentsFrom (splice current value).2 rest

def arguments (words : List Word) : List Text := argumentsFrom none words

/-- An assignment is an unquoted name with an unquoted `=` directly after it; all that follows is
its value, neither cut nor trimmed inside. Everything else is a call. -/
def ofWords (words : List Word) : Command :=
  match trim words with
  | .bare name :: eq :: rest =>
    if isName name && eq.isEqual then .assign name (rest.flatMap Word.text)
    else .call (arguments (.bare name :: eq :: rest))
  | words => .call (arguments words)

def ofStage (stage : Stage) : Command := ofWords stage.words

end Command

end LineShell
