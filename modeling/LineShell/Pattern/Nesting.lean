import LineShell.Pattern.Fault
import LineShell.Pattern.Tree

/-!
The limit on nesting. Groups, repetitions, brackets, and all that holds several parts count one
level each; the first node beyond the limit, from the left, is to blame.
-/

namespace LineShell.Pattern

/-- One level further down, unless that is too deep. -/
def deeper (depth : Nat) (span : Span) : Except Complaint Nat :=
  if depth < nestingLimit then .ok (depth + 1) else .error { fault := .nesting, span }

mutual

def Members.checkDepth (depth : Nat) : Members → Except Complaint Unit
  | .none _ | .literal _ | .range .. | .posix .. | .escape .. => .ok ()
  | .brackets span _ members => do members.checkDepth (← deeper depth span)
  | .union span items => do Members.checkDepths (← deeper depth span) items
  | .op span _ left right => do
    let depth ← deeper depth span
    left.checkDepth depth
    right.checkDepth depth

def Members.checkDepths (depth : Nat) : List Members → Except Complaint Unit
  | [] => .ok ()
  | m :: ms => do
    m.checkDepth depth
    Members.checkDepths depth ms

end

mutual

def Tree.checkDepth (depth : Nat) : Tree → Except Complaint Unit
  | .empty _ | .flags .. | .literal _ | .dot _ | .anchor .. | .escape .. => .ok ()
  | .brackets span _ members => do members.checkDepth (← deeper depth span)
  | .repetition span _ _ body => do body.checkDepth (← deeper depth span)
  | .group span _ _ body => do body.checkDepth (← deeper depth span)
  | .sequence span items => do Tree.checkDepths (← deeper depth span) items
  | .choice span branches => do Tree.checkDepths (← deeper depth span) branches

def Tree.checkDepths (depth : Nat) : List Tree → Except Complaint Unit
  | [] => .ok ()
  | t :: ts => do
    t.checkDepth depth
    Tree.checkDepths depth ts

end

end LineShell.Pattern
