/-!
Text and bytes. A text is a list of Unicode scalar values and a byte string a list of octets, so
that every scan in this library is a recursion on the list. Blank characters are the 25 characters
with the Unicode property White_Space; fields are the maximal runs without them.
-/

namespace LineShell

abbrev Text := List Char

abbrev Bytes := List UInt8

namespace Text

def ofNat (n : Nat) : Text := Nat.toDigits 10 n

/-! ## Pieces -/

/-- Put `c` in front of the first piece; it becomes a piece of its own if there is none. -/
def consHead (c : Char) : List Text → List Text
  | [] => [[c]]
  | piece :: pieces => (c :: piece) :: pieces

def join (separator : Text) : List Text → Text
  | [] => []
  | [piece] => piece
  | piece :: pieces => piece ++ separator ++ join separator pieces

/-- The pieces between the characters equal to `c`: always one more than there are such
characters. -/
def splitAt (c : Char) : Text → List Text
  | [] => [[]]
  | d :: r => if d = c then [] :: splitAt c r else consHead d (splitAt c r)

/-! ## Lines -/

/-- The text with a final newline, added only if it lacks one. -/
def endLine (text : Text) : Text :=
  if text.getLast? = some '\n' then text else text ++ ['\n']

/-- The lines of a text. A newline ends a line and goes, together with one carriage return right
before it; what follows the last newline is a line only if it is not empty, and keeps its carriage
return. -/
def lines : Text → List Text
  | [] => []
  | c :: r =>
    if c = '\n' then [] :: lines r
    else if c = '\r' ∧ r.head? = some '\n' then lines r
    else consHead c (lines r)

/-! ## Blanks -/

/-- White_Space: six controls, two spaces of Latin-1, and the typographic spaces and separators.
The zero width space and the information separators U+001C to U+001F are not blank. -/
def isBlank (c : Char) : Bool :=
  let n := c.toNat
  (0x9 ≤ n && n ≤ 0xD) || n == 0x20 || n == 0x85 || n == 0xA0 || n == 0x1680 ||
    (0x2000 ≤ n && n ≤ 0x200A) || n == 0x2028 || n == 0x2029 || n == 0x202F || n == 0x205F ||
    n == 0x3000

def trim (text : Text) : Text :=
  ((text.dropWhile isBlank).reverse.dropWhile isBlank).reverse

def fields : Text → List Text
  | [] => []
  | c :: r =>
    if isBlank c then fields r
    else match r with
      | [] => [[c]]
      | d :: _ => if isBlank d then [c] :: fields r else consHead c (fields r)

def startsBlank (text : Text) : Bool := text.head?.any isBlank

def endsBlank (text : Text) : Bool := text.getLast?.any isBlank

end Text

/-! ## Counts

A count is read from an optional `+` and decimal digits, below 2^64. The digits are read from the
left, and the first fault met is the one reported. -/

namespace Numeral

inductive Fault where
  | empty
  | notDigit
  | tooLarge
  deriving DecidableEq, Repr

def Fault.message : Fault → Text
  | .empty => "cannot parse integer from empty string".toList
  | .notDigit => "invalid digit found in string".toList
  | .tooLarge => "number too large to fit in target type".toList

def bound : Nat := 0x10000000000000000

def readDigits : Nat → Text → Except Fault Nat
  | n, [] => .ok n
  | n, c :: r =>
    if !c.isDigit then .error .notDigit
    else
      let n := n * 10 + (c.toNat - '0'.toNat)
      if n < bound then readDigits n r else .error .tooLarge

/-- Read a count. A sign needs a digit after it. -/
def read : Text → Except Fault Nat
  | [] => .error .empty
  | ['+'] => .error .notDigit
  | '+' :: digits => readDigits 0 digits
  | digits => readDigits 0 digits

end Numeral

end LineShell
