import LineShell.Pattern.Brackets
import LineShell.Pattern.Group
import LineShell.Pattern.Repetition

/-!
Reading a whole pattern. A pattern is a choice of branches between `|`, a branch a sequence of
items, and an item a character, a class, a place or a group, each repeated or not.
-/

namespace LineShell.Pattern

namespace Parse

open Reader

/-- A finished branch, from its items, last one first. A single item stands for itself. -/
def branch (start stop : Mark) : List Tree → Tree
  | [] => .empty ⟨start, stop⟩
  | [item] => item
  | items => .sequence ⟨start, stop⟩ items.reverse

/-- What has been read of a choice: the finished branches, last one first, and the start of the
first one. -/
structure Branches where
  start : Mark
  done : List Tree := []

/-- A finished choice. A single branch stands for itself. -/
def Branches.close (b : Branches) (stop : Mark) (last : Tree) : Tree :=
  match b.done with
  | [] => last
  | done => .choice ⟨b.start, stop⟩ (last :: done).reverse

def item (c : Char) : Reader Tree := do
  let span ← charSpan
  if c = '[' then brackets
  else if c = '\\' then escape
  else
    bump
    if c = '.' then return .dot span
    else if c = '^' then return .anchor span .lineStart
    else if c = '$' then return .anchor span .lineEnd
    else return .literal { span, char := c }

def sign? : Char → Option Repetition.Count
  | '?' => some ⟨0, some 1⟩
  | '*' => some ⟨0, none⟩
  | '+' => some ⟨1, none⟩
  | _ => none

/-- Read on in a branch with some items, up to the end or a closing parenthesis, which is left. The
pattern has at most `n` more characters. -/
def body : Nat → Branches → Mark → List Tree → Reader Tree
  | 0, b, start, items => do
    let stop ← here
    return b.close stop (branch start stop items)
  | n + 1, b, start, items => do
    skip
    match ← char? with
    | none | some ')' =>
      let stop ← here
      return b.close stop (branch start stop items)
    | some '|' =>
      let stop ← here
      bump
      body n { b with done := branch start stop items :: b.done } (← here) []
    | some '(' =>
      let outer := (← get).verbose
      match ← Group.opening with
      | .flags span switches =>
        modify fun s => { s with verbose := (Switch.verbose? switches).getD outer }
        body n b start (.flags span switches :: items)
      | .body span captures switches =>
        modify fun s => { s with verbose := (Switch.verbose? switches).getD outer }
        let first ← here
        let inner ← body n { start := first } first []
        if ← atEnd then fail .groupUnclosed span
        modify fun s => { s with verbose := outer }
        bump
        body n b start (.group ⟨span.start, ← here⟩ captures switches inner :: items)
    | some '\x7b' => body n b start (← Repetition.byCount items)
    | some c =>
      match sign? c with
      | some count => body n b start (← Repetition.bySign items count)
      | none => body n b start ((← item c) :: items)

def whole : Reader Tree := do
  let start ← here
  let tree ← body ((← get).rest.length + 1) { start } start []
  if !(← atEnd) then fail .groupUnopened (← charSpan)
  return tree

end Parse

def Tree.ofText (pattern : Text) : Except Complaint Tree :=
  (Parse.whole.run { rest := pattern }).map (·.1)

end LineShell.Pattern
