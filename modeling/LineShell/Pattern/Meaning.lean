import LineShell.Pattern.Expr
import LineShell.Pattern.Fault
import LineShell.Unicode.Folding
import LineShell.Unicode.Property

/-!
From the syntax of a pattern to its meaning. Flags set in a group hold to its end, in the branches
that follow, too. Without the flag for Unicode a pattern speaks of bytes, and since lines are text,
it may speak of those below 0x80 only.
-/

namespace LineShell.Pattern

structure Flags where
  ignoreCase : Bool := false
  multiLine : Bool := false
  dotMatchesNewline : Bool := false
  carriageReturns : Bool := false
  unicode : Bool := true
  deriving DecidableEq, Repr

def Flags.set (f : Flags) (s : Switch) : Flags :=
  match s.flag with
  | .ignoreCase => { f with ignoreCase := s.on }
  | .multiLine => { f with multiLine := s.on }
  | .dotMatchesNewline => { f with dotMatchesNewline := s.on }
  | .carriageReturns => { f with carriageReturns := s.on }
  | .unicode => { f with unicode := s.on }
  | .swapGreed | .verbose => f

def Flags.setAll (f : Flags) (switches : List Switch) : Flags := switches.foldl Flags.set f

abbrev Meaning (α : Type) := Except Complaint α

namespace Meaning

def refuse {α : Type} (fault : Fault) (span : Span) : Meaning α := throw { fault, span }

/-! ## Sets -/

def foldAscii (s : CharSet) : CharSet :=
  let letters := (List.range 26).filter fun i =>
    CharSet.memRanges (0x41 + i) s.ranges || CharSet.memRanges (0x61 + i) s.ranges
  s.union (CharSet.ofRanges (letters.flatMap fun i =>
    [(0x41 + i, 0x41 + i), (0x61 + i, 0x61 + i)]))

def fold (f : Flags) (s : CharSet) : CharSet :=
  if !f.ignoreCase then s
  else if f.unicode then Unicode.foldCase s
  else foldAscii s

/-- The complement of a set, if asked for. Among bytes it would hold those above 0x7F. -/
def negate (f : Flags) (span : Span) (negated : Bool) (s : CharSet) : Meaning CharSet :=
  if !negated then return s
  else if f.unicode then return s.complement
  else refuse .invalidUtf8 span

/-- The character of a literal. A byte above 0x7F is no character. -/
def charOf (f : Flags) (l : Literal) : Meaning Char :=
  if !f.unicode && l.isByte && 0x80 ≤ l.char.toNat then refuse .invalidUtf8 l.span
  else return l.char

def memberOf (f : Flags) (l : Literal) : Meaning Char := do
  let c ← charOf f l
  if !f.unicode && 0x80 ≤ c.toNat then refuse .unicodeNotAllowed l.span else return c

def asciiDigits : List (Nat × Nat) := [(0x30, 0x39)]
def asciiUpper : List (Nat × Nat) := [(0x41, 0x5A)]
def asciiLower : List (Nat × Nat) := [(0x61, 0x7A)]

def posix : Posix → CharSet
  | .alnum => ⟨asciiDigits ++ asciiUpper ++ asciiLower⟩
  | .alpha => ⟨asciiUpper ++ asciiLower⟩
  | .ascii => ⟨[(0, 0x7F)]⟩
  | .blank => ⟨[(0x9, 0x9), (0x20, 0x20)]⟩
  | .cntrl => ⟨[(0, 0x1F), (0x7F, 0x7F)]⟩
  | .digit => ⟨asciiDigits⟩
  | .graph => ⟨[(0x21, 0x7E)]⟩
  | .lower => ⟨asciiLower⟩
  | .print => ⟨[(0x20, 0x7E)]⟩
  | .punct => ⟨[(0x21, 0x2F), (0x3A, 0x40), (0x5B, 0x60), (0x7B, 0x7E)]⟩
  | .space => ⟨[(0x9, 0xD), (0x20, 0x20)]⟩
  | .upper => ⟨asciiUpper⟩
  | .word => ⟨asciiDigits ++ asciiUpper ++ [(0x5F, 0x5F)] ++ asciiLower⟩
  | .xdigit => ⟨asciiDigits ++ [(0x41, 0x46), (0x61, 0x66)]⟩

def shorthand (unicode : Bool) : Shorthand → CharSet
  | .digit => if unicode then Unicode.digits else posix .digit
  | .space => if unicode then Unicode.blanks else posix .space
  | .word => if unicode then Unicode.words else posix .word

def property (span : Span) (query : Query) : Meaning CharSet :=
  let found := match query with
    | .name name => Unicode.ofName name
    | .value property value => Unicode.ofValue property value
  match found with
  | .ok s => return s
  | .error .unknown => refuse .propertyUnknown span
  | .error .unknownValue => refuse .propertyValueUnknown span

/-- The set of a class escape. Case is ignored before the complement is taken, and never for the
shorthands. -/
def classEscape (f : Flags) (span : Span) (negated : Bool) : ClassEscape → Meaning CharSet
  | .shorthand kind => negate f span negated (shorthand f.unicode kind)
  | .property query => do
    if !f.unicode then refuse .unicodeNotAllowed span
    negate f span negated (fold f (← property span query))

def setOp : SetOp → CharSet → CharSet → CharSet
  | .intersection => CharSet.inter
  | .difference => CharSet.diff
  | .symmetricDifference => CharSet.symmDiff

mutual

def members (f : Flags) : Members → Meaning CharSet
  | .none _ => return {}
  | .literal l => return CharSet.single (← memberOf f l)
  | .range _ first last => return CharSet.range (← memberOf f first) (← memberOf f last)
  | .posix span kind negated => negate f span negated (fold f (posix kind))
  | .escape span kind negated => classEscape f span negated kind
  | .brackets span negated body => do negate f span negated (fold f (← members f body))
  | .union _ items => memberList f items
  | .op _ op left right => do
    let left ← members f left
    let right ← members f right
    return setOp op (fold f left) (fold f right)

def memberList (f : Flags) : List Members → Meaning CharSet
  | [] => return {}
  | m :: ms => do
    let s ← members f m
    return (← memberList f ms).union s

end

/-! ## Patterns -/

def literal (f : Flags) (l : Literal) : Meaning Expr := do
  return Expr.ofSet (fold f (CharSet.single (← charOf f l)))

/-- The characters that a dot stands for: all but the ends of lines. -/
def dot (f : Flags) (span : Span) : Meaning Expr :=
  if !f.unicode then refuse .invalidUtf8 span
  else if f.dotMatchesNewline then return .set CharSet.all
  else if f.carriageReturns then return .set (CharSet.complement ⟨[(0xA, 0xA), (0xD, 0xD)]⟩)
  else return .set (CharSet.complement ⟨[(0xA, 0xA)]⟩)

def anchor (f : Flags) : Anchor → Place
  | .lineStart => if f.multiLine then .lineStart f.carriageReturns else .textStart
  | .lineEnd => if f.multiLine then .lineEnd f.carriageReturns else .textEnd
  | .textStart => .textStart
  | .textEnd => .textEnd
  | .word boundary => .word f.unicode boundary

mutual

/-- The meaning of a pattern under some flags, and the flags after it. -/
def tree (f : Flags) : Tree → Meaning (Expr × Flags)
  | .empty _ => return (.empty, f)
  | .flags _ switches => return (.empty, f.setAll switches)
  | .literal l => return (← literal f l, f)
  | .dot span => return (← dot f span, f)
  | .anchor _ kind => return (.place (anchor f kind), f)
  | .escape span kind negated => return (.ofSet (← classEscape f span negated kind), f)
  | .brackets span negated body =>
    return (.ofSet (← negate f span negated (fold f (← members f body))), f)
  | .repetition _ least most body => do
    let (e, f) ← tree f body
    return (e.times least most, f)
  | .group _ captures switches body => do
    let (e, _) ← tree (f.setAll switches) body
    return (if captures then .capture e else e, f)
  | .sequence _ items => do
    let (es, f) ← trees f items
    return (.sequence es, f)
  | .choice _ branches => do
    let (es, f) ← trees f branches
    return (.choice es, f)

/-- The meanings of several patterns, each under the flags after the one before it. -/
def trees (f : Flags) : List Tree → Meaning (List Expr × Flags)
  | [] => return ([], f)
  | t :: ts => do
    let (e, f) ← tree f t
    let (es, f) ← trees f ts
    return (e :: es, f)

end

end Meaning

end LineShell.Pattern
