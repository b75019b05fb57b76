import LineShell.Pattern.Matching
import LineShell.Pattern.Meaning
import LineShell.Pattern.Nesting
import LineShell.Pattern.Parse
import LineShell.Pattern.Report
import LineShell.Pattern.Size

/-!
Patterns: regular expressions as they are written, and the lines that they match. A pattern is read,
checked for its depth, given a meaning and checked for its size, and the first complaint is the one
reported.
-/

namespace LineShell.Pattern

inductive Refusal where
  | fault (complaint : Complaint)
  | tooLarge
  deriving DecidableEq, Repr

def Refusal.message (pattern : Text) : Refusal → Text
  | fault c => Report.ofComplaint pattern c
  | tooLarge =>
    "Compiled regex exceeds size limit of ".toList ++ Text.ofNat Size.limit ++ " bytes.".toList

/-- The meaning of a pattern, before its size is looked at. -/
def expr? (ignoreCase : Bool) (pattern : Text) : Except Complaint Expr := do
  let tree ← Tree.ofText pattern
  tree.checkDepth 0
  return (← Meaning.tree { ignoreCase } tree).1

def compile (ignoreCase : Bool) (pattern : Text) : Except Refusal Expr :=
  match expr? ignoreCase pattern with
  | .error c => .error (.fault c)
  | .ok e => if Size.isTooLarge e then .error .tooLarge else .ok e

end LineShell.Pattern
