import LineShell.Pattern.Escape
import LineShell.Unicode.Word

/-!
The openings of groups: plain, named and flagged ones, and flags for the rest of a group.
-/

namespace LineShell.Pattern

namespace Group

open Reader

inductive Opening where
  /-- Flags and the closing parenthesis. -/
  | flags (span : Span) (switches : List Switch)
  /-- A group whose body follows; `span` is that of the parenthesis. -/
  | body (span : Span) (captures : Bool) (switches : List Switch)

/-! ## Flags -/

def flag? : Char → Option Flag
  | 'i' => some .ignoreCase
  | 'm' => some .multiLine
  | 's' => some .dotMatchesNewline
  | 'U' => some .swapGreed
  | 'u' => some .unicode
  | 'R' => some .carriageReturns
  | 'x' => some .verbose
  | _ => none

/-- What has been read of some flags: the place of a minus sign, the flags with their places, and
whether the minus sign came last. -/
structure Switches where
  minus : Option Span := none
  flags : List (Switch × Span) := []
  dangling : Bool := false

/-- Read one flag, or the minus sign that turns off the flags after it. Each stands once at
most. -/
def switch (s : Switches) (c : Char) : Reader Switches := do
  let span ← charSpan
  if c = '-' then
    if let some earlier := s.minus then
      throw { fault := .flagNegationRepeated, span, earlier := some earlier }
    return { s with minus := some span, dangling := true }
  match flag? c with
  | none => fail .flagUnknown span
  | some flag =>
    if let some (_, earlier) := s.flags.find? (·.1.flag == flag) then
      throw { fault := .flagDuplicate, span, earlier := some earlier }
    let new : Switch := ⟨flag, s.minus.isNone⟩
    return { s with flags := s.flags ++ [(new, span)], dangling := false }

/-- Read flags up to a colon or a closing parenthesis; the pattern has at most `n` more
characters. -/
def switches : Nat → Switches → Reader (List Switch)
  | 0, _ => failHere .flagEnds
  | n + 1, s => do
    match ← char? with
    | none => failHere .flagEnds
    | some c =>
      if c = ':' ∨ c = ')' then
        if let some span := s.minus then
          if s.dangling then fail .flagNegationDangling span
        return s.flags.map (·.1)
      else
        let s ← switch s c
        bump
        switches n s

/-! ## Names -/

/-- The characters of a name; the first one is more restricted. -/
def isNameChar (first : Bool) (c : Char) : Bool :=
  c == '_' || Unicode.isAlphabetic c ||
    (!first && (c == '.' || c == '[' || c == ']' || Unicode.isNumeric c))

/-- The characters up to the closing angle bracket; the pattern has at most `n` more. -/
def nameChars : Nat → Bool → Reader Text
  | 0, _ => failHere .captureNameUnclosed
  | n + 1, first => do
    match ← char? with
    | none => failHere .captureNameUnclosed
    | some c =>
      if c = '>' then return []
      if !isNameChar first c then fail .captureNameInvalid (← charSpan)
      bump
      return c :: (← nameChars n false)

/-- A name and the closing angle bracket. A name stands for one group only. -/
def name : Reader Unit := do
  let start ← here
  let name ← nameChars ((← get).rest.length + 1) true
  let span : Span := ⟨start, ← here⟩
  bump
  if name = [] then fail .captureNameEmpty (Span.point start)
  if let some earlier := (← get).names.lookup name then
    throw { fault := .captureNameDuplicate, span, earlier := some earlier }
  modify fun s => { s with names := s.names ++ [(name, span)] }

/-! ## Openings -/

def lookAround : Reader Bool := do
  if ← accept "?=".toList then return true
  if ← accept "?!".toList then return true
  if ← accept "?<=".toList then return true
  accept "?<!".toList

def named : Reader Bool := do
  if ← accept "?P<".toList then return true
  accept "?<".toList

def flagged (paren : Span) (mark : Mark) : Reader Opening := do
  if ← atEnd then fail .groupUnclosed paren
  let switches ← switches ((← get).rest.length + 1) {}
  let closed := (← char?) == some ')'
  bump
  if closed then
    if switches = [] then fail .repetitionMissing (Span.point mark)
    return .flags ⟨paren.start, ← here⟩ switches
  return .body paren false switches

/-- Read an opening. The present character is the parenthesis. -/
def opening : Reader Opening := do
  let paren ← charSpan
  step
  if ← lookAround then failFrom .lookAround paren.start
  let mark ← here
  if ← named then
    name
    return .body paren true []
  if ← accept ['?'] then flagged paren mark
  else return .body paren true []

end Group

def Switch.verbose? (switches : List Switch) : Option Bool :=
  (switches.find? (·.flag == .verbose)).map (·.on)

end LineShell.Pattern
