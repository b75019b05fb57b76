import LineShell.Text.Basic

/-!
What can abort a line. None of these ends a session: the message is reported and the next line is
read.
-/

namespace LineShell

inductive LineError where
  /-- The line ended inside a quotation opened by this character. -/
  | unterminatedQuote (quote : Char)
  /-- Stage `index` of `total` has nothing to run. -/
  | emptyStage (index total : Nat)
  /-- The name is neither a built-in command nor a program. -/
  | unknownCommand (name : Text)
  /-- Moving data outside any command failed. -/
  | transfer (cause : Text)
  /-- A command could not be carried through. -/
  | command (cause : Text)
  deriving DecidableEq, Repr

namespace LineError

/-- The wording. Only a line with several stages has a `|` to blame for an empty one. -/
def message : LineError → Text
  | unterminatedQuote quote => "syntax error: unterminated ".toList ++ [quote] ++ " quote".toList
  | emptyStage _ total =>
    if total > 1 then "syntax error near unexpected token '|'".toList
    else "syntax error: empty command".toList
  | unknownCommand name => name ++ ": command not found".toList
  | transfer cause => "i/o error: ".toList ++ cause
  | command cause => cause

end LineError

end LineShell
