import LineShell.Pattern.Escape

/-!
Bracketed classes. Between the brackets stand characters, ranges, escapes, named classes and
further brackets; the operators `&&`, `--` and `~~` split them into operands, from the left.
-/

namespace LineShell.Pattern

namespace Brackets

open Reader

/-- The items of an operand so far, last one first. -/
structure Operand where
  span : Span
  items : List Members := []

namespace Operand

def push (operand : Operand) (item : Members) : Operand :=
  let start := if operand.items.isEmpty then item.span.start else operand.span.start
  ⟨⟨start, item.span.stop⟩, item :: operand.items⟩

/-- The finished operand; a single item stands for itself. -/
def close (operand : Operand) : Members :=
  match operand.items with
  | [] => .none operand.span
  | [item] => item
  | items => .union operand.span items.reverse

end Operand

/-- An operator and what stands on its left. -/
abbrev Pending := Option (SetOp × Members)

def join (pending : Pending) (right : Members) : Members :=
  match pending with
  | none => right
  | some (op, left) => .op ⟨left.span.start, right.span.stop⟩ op left right

/-! ## Items -/

def posix? (name : Text) : Option Posix :=
  [("alnum", Posix.alnum), ("alpha", .alpha), ("ascii", .ascii), ("blank", .blank),
    ("cntrl", .cntrl), ("digit", .digit), ("graph", .graph), ("lower", .lower), ("print", .print),
    ("punct", .punct), ("space", .space), ("upper", .upper), ("word", .word),
    ("xdigit", .xdigit)].findSome? fun (n, kind) => if n.toList = name then some kind else none

/-- A named class, if the text at hand has the form of one and the name is known: the class, and
how many characters it takes. -/
def namedClass? (text : Text) : Option (Posix × Bool × Nat) :=
  match text with
  | '[' :: ':' :: r =>
    let negated := r.head? == some '^'
    let r := if negated then r.tail else r
    let name := r.takeWhile (· ≠ ':')
    if ":]".toList.isPrefixOf (r.drop name.length) then
      (posix? name).map fun kind => (kind, negated, name.length + if negated then 5 else 4)
    else none
  | _ => none

def namedClass : Reader (Option Members) := do
  let start ← here
  match namedClass? (← get).rest with
  | none => return none
  | some (kind, negated, length) =>
    modify fun s => (List.replicate length ()).foldl (fun s _ => s.advance) s
    return some (.posix ⟨start, ← here⟩ kind negated)

def part : Reader Tree := do
  if (← char?) = some '\\' then escape
  else
    let span ← charSpan
    let c := (← char?).getD ' '
    bump
    return .literal { span, char := c }

/-- An item of its own. An escape that stands for a place is none. -/
def item : Tree → Reader Members
  | .literal l => return .literal l
  | .escape span kind negated => return .escape span kind negated
  | t => fail .classEscape t.span

def bound : Tree → Reader Literal
  | .literal l => return l
  | t => fail .classRangeBounds t.span

/-- An item, or a range. A hyphen makes a range unless a closing bracket or another hyphen comes
next. `unclosed` is the span to blame if the pattern ends. -/
def range (unclosed : Span) : Reader Members := do
  let first ← part
  skip
  match ← char? with
  | none => fail .classUnclosed unclosed
  | some c =>
    let next := (← get).second
    if c ≠ '-' ∨ next = some ']' ∨ next = some '-' then item first
    else
      step
      if ← atEnd then fail .classUnclosed unclosed
      let last ← part
      let span : Span := ⟨first.span.start, last.span.stop⟩
      let first ← bound first
      let last ← bound last
      if last.char < first.char then fail .classRangeOrder span
      return .range span first last

/-! ## Brackets -/

def hyphens (start : Mark) : Nat → Operand → Reader Operand
  | 0, operand => return operand
  | n + 1, operand => do
    if (← char?) != some '-' then return operand
    let operand := operand.push (.literal { span := ← charSpan, char := '-' })
    step
    if ← atEnd then fail .classUnclosed (Span.point start)
    hyphens start n operand

structure Opening where
  span : Span
  negated : Bool
  operand : Operand

/-- Read an opening bracket, the sign of a complement, and the characters that are literal only
there: hyphens, or a closing bracket. -/
def opening : Reader Opening := do
  let start ← here
  step
  if ← atEnd then failFrom .classUnclosed start
  let negated := (← char?) == some '^'
  if negated then
    step
    if ← atEnd then failFrom .classUnclosed start
  let mut operand ← hyphens start (← get).rest.length ⟨Span.point (← here), []⟩
  if operand.items.isEmpty && (← char?) == some ']' then
    operand := operand.push (.literal { span := ← charSpan, char := ']' })
    step
    if ← atEnd then failFrom .classUnclosed start
  return ⟨⟨start, ← here⟩, negated, operand⟩

def operator : Reader (Option SetOp) := do
  if ← accept "&&".toList then return some .intersection
  if ← accept "--".toList then return some .difference
  if ← accept "~~".toList then return some .symmetricDifference
  return none

/-- Read on to the closing bracket: the span of the class and what it holds. The pattern has at
most `n` more characters. -/
def members (o : Opening) : Nat → Operand → Pending → Reader (Span × Members)
  | 0, _, _ => fail .classUnclosed o.span
  | n + 1, operand, pending => do
    skip
    match ← char? with
    | none => fail .classUnclosed o.span
    | some '[' =>
      match ← namedClass with
      | some named => members o n (operand.push named) pending
      | none =>
        let inner ← opening
        let (span, nested) ← members inner n inner.operand none
        members o n (operand.push (.brackets span inner.negated nested)) pending
    | some ']' =>
      bump
      return (⟨o.span.start, ← here⟩, join pending operand.close)
    | some _ =>
      match ← operator with
      | some op =>
        members o n ⟨Span.point (← here), []⟩ (some (op, join pending operand.close))
      | none => members o n (operand.push (← range o.span)) pending

end Brackets

/-- A bracketed class. The present character is the opening bracket. -/
def Reader.brackets : Reader Tree := do
  let o ← Brackets.opening
  let (span, members) ← Brackets.members o ((← get).rest.length + 1) o.operand none
  return .brackets span o.negated members

end LineShell.Pattern
