import LineShell.Pattern.Reader
import LineShell.Pattern.Tree
import LineShell.Unicode.CharSet

/-!
Escapes: what a backslash and the characters after it stand for.
-/

namespace LineShell.Pattern

namespace Escape

open Reader

/-- The characters with a meaning of their own somewhere in a pattern. -/
def isMeta (c : Char) : Bool := "\\.+*?()|[]\x7b\x7d^$#&-~".toList.contains c

/-- The characters that a backslash makes literal: those with a meaning, and all of ASCII but
letters, digits and angle brackets. -/
def isQuotable (c : Char) : Bool :=
  isMeta c || (c.toNat < 0x80 && !c.isAlphanum && c != '<' && c != '>')

def isHexDigit (c : Char) : Bool :=
  c.isDigit || ('a' ≤ c && c ≤ 'f') || ('A' ≤ c && c ≤ 'F')

def hexChar? (digits : Text) : Option Char :=
  let n := digits.foldl (fun n c => 16 * n + hexValue c) 0
  if n.isValidChar then some (Char.ofNat n) else none

/-! ## Characters by number -/

def hexDigits : Nat → Reader Text
  | 0 => return []
  | n + 1 => do
    match ← char? with
    | none => failHere .escapeEnds
    | some c =>
      if isHexDigit c then
        step
        return c :: (← hexDigits n)
      else fail .hexDigit (← charSpan)

/-- The hexadecimal digits up to the closing brace, at most `n`; the present character is the one
before them. -/
def hexToBrace : Nat → Reader Text
  | 0 => return []
  | n + 1 => do
    step
    match ← char? with
    | none | some '\x7d' => return []
    | some c =>
      if isHexDigit c then return c :: (← hexToBrace n) else fail .hexDigit (← charSpan)

def braced : Reader Char := do
  let brace ← here
  let start := (← charSpan).stop
  let digits ← hexToBrace (← get).rest.length
  if ← atEnd then failFrom .escapeEnds brace
  let stop ← here
  step
  if digits = [] then failFrom .hexEmpty brace
  match hexChar? digits with
  | some c => return c
  | none => fail .hexValue ⟨start, stop⟩

def fixed (count : Nat) : Reader Char := do
  let start ← here
  let digits ← hexDigits count
  match hexChar? digits with
  | some c => return c
  | none => failFrom .hexValue start

/-- A character by its number, after `\x`, `\u` or `\U`, whose digits count 2, 4 or 8. -/
def byNumber (start : Mark) (count : Nat) : Reader Tree := do
  step
  match ← char? with
  | none => failHere .escapeEnds
  | some '\x7b' =>
    let char ← braced
    return .literal { span := ⟨start, ← here⟩, char }
  | some _ =>
    let char ← fixed count
    return .literal { span := ⟨start, ← here⟩, char, isByte := count == 2 }

/-! ## Properties -/

def cut (sign : Text) : Text → Option (Text × Text)
  | [] => none
  | c :: r =>
    if sign.isPrefixOf (c :: r) then some ([], (c :: r).drop sign.length)
    else (cut sign r).map fun (a, b) => (c :: a, b)

/-- What the text between braces asks for. All three signs mean that a property has a value. -/
def query (text : Text) : Query :=
  match (cut "!=".toList text).or ((cut [':'] text).or (cut ['='] text)) with
  | some (property, value) => .value property value
  | none => .name text

/-- The text up to the closing brace, at most `n` characters; the present character is the one
before them. -/
def toBrace : Nat → Reader Text
  | 0 => return []
  | n + 1 => do
    step
    match ← char? with
    | none | some '\x7d' => return []
    | some c => return c :: (← toBrace n)

/-- A property, after `\p` or `\P`: one character, or a text between braces. -/
def property (start : Mark) (negated : Bool) : Reader Tree := do
  step
  match ← char? with
  | none => failHere .escapeEnds
  | some '\x7b' =>
    let text ← toBrace (← get).rest.length
    if ← atEnd then failHere .escapeEnds
    bump
    return .escape ⟨start, ← here⟩ (.property (query text)) negated
  | some c =>
    if c = '\\' then fail .propertyForm (← charSpan)
    step
    return .escape ⟨start, ← here⟩ (.property (.name [c])) negated

/-! ## Word boundaries -/

def isBoundaryChar (c : Char) : Bool := c.isAlpha || c == '-'

def boundary? (name : Text) : Option Boundary :=
  if name = "start".toList then some .start
  else if name = "end".toList then some .stop
  else if name = "start-half".toList then some .startHalf
  else if name = "end-half".toList then some .stopHalf
  else none

/-- What stands after `\b`. A brace with a letter or a hyphen after it opens the name of a word
boundary; any other brace is left for a repetition. -/
def boundary (start : Mark) : Reader Boundary := do
  if (← char?) != some '\x7b' then return .edge
  let before ← get
  let brace ← here
  step
  match ← char? with
  | none => failFrom .wordBoundaryEnds start
  | some c =>
    if !isBoundaryChar c then
      set before
      return .edge
    let nameStart ← here
    let name ← takeWhile isBoundaryChar
    if (← char?) != some '\x7d' then failFrom .wordBoundaryUnclosed brace
    let nameStop ← here
    bump
    match boundary? name with
    | some kind => return kind
    | none => fail .wordBoundaryUnknown ⟨nameStart, nameStop⟩

/-! ## All escapes -/

def control? : Char → Option Char
  | 'a' => some '\x07'
  | 'f' => some '\x0C'
  | 't' => some '\t'
  | 'n' => some '\n'
  | 'r' => some '\r'
  | 'v' => some '\x0B'
  | _ => none

/-- The shorthand classes; a capital letter is the complement. -/
def shorthand? : Char → Option (Shorthand × Bool)
  | 'd' => some (.digit, false)
  | 'D' => some (.digit, true)
  | 's' => some (.space, false)
  | 'S' => some (.space, true)
  | 'w' => some (.word, false)
  | 'W' => some (.word, true)
  | _ => none

def anchor? : Char → Option Anchor
  | 'A' => some .textStart
  | 'z' => some .textEnd
  | 'B' => some (.word .noEdge)
  | '<' => some (.word .start)
  | '>' => some (.word .stop)
  | _ => none

def single (start : Mark) (c : Char) : Reader Tree := do
  let span : Span := ⟨start, ← here⟩
  if isQuotable c then return .literal { span, char := c }
  if let some char := control? c then return .literal { span, char }
  if let some kind := anchor? c then return .anchor span kind
  if let some (kind, negated) := shorthand? c then return .escape span (.shorthand kind) negated
  if c = 'b' then
    let kind ← boundary start
    return .anchor ⟨start, ← here⟩ (.word kind)
  fail .escapeUnknown span

end Escape

/-- An escape. The present character is the backslash. -/
def Reader.escape : Reader Tree := do
  let start ← here
  bump
  match ← char? with
  | none => failFrom .escapeEnds start
  | some c =>
    if c.isDigit then fail .backreference ⟨start, (← charSpan).stop⟩
    else if c = 'x' then Escape.byNumber start 2
    else if c = 'u' then Escape.byNumber start 4
    else if c = 'U' then Escape.byNumber start 8
    else if c = 'p' then Escape.property start false
    else if c = 'P' then Escape.property start true
    else
      bump
      Escape.single start c

end LineShell.Pattern
