import LineShell.Builtin.Grep
import LineShell.Builtin.Simple
import LineShell.Builtin.Wc

/-!
The built-in commands by name. Arguments that do not give a command are explained on the command's
output.
-/

namespace LineShell.Builtin

/-- The behaviour for an argument list, by a grammar and the behaviour of what it gives. -/
def interpret {α : Type} (g : Options.Grammar α) (behave : α → Behaviour) (words : List Text) :
    Behaviour :=
  match g.parse words with
  | .ok a => behave a
  | .error refusal => .prints ⟨Utf8.encode (Text.endLine (g.explain refusal)), refusal.code⟩

def find? (site : Site) (name : Text) : Option (List Text → Behaviour) :=
  if name = Echo.name then some (interpret Echo.grammar Echo.behaviour)
  else if name = Pwd.name then some (interpret Pwd.grammar fun _ => Pwd.behaviour site)
  else if name = Exit.name then some (interpret Exit.grammar fun _ => Exit.behaviour)
  else if name = Cat.name then some (interpret Cat.grammar (Cat.behaviour site))
  else if name = Wc.name then some (interpret Wc.grammar (Wc.behaviour site))
  else if name = Grep.name then
    some (interpret Grep.grammar fun draft => (Grep.ofDraft draft).behaviour site)
  else none

end LineShell.Builtin
