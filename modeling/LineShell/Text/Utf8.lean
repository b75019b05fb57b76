import LineShell.Text.Basic

/-!
UTF-8. Decoding is a machine over octets: it is either between characters or inside one, knowing
how many octets are missing and which values the next one may have. An octet that cannot go on ends
the character begun as one replacement character and is then read afresh, so every maximal invalid
part of the input becomes one U+FFFD.
-/

namespace LineShell.Utf8

def encode (text : Text) : Bytes := text.flatMap String.utf8EncodeChar

def replacement : Char := '\uFFFD'

/-- How far into a character the decoder is. -/
inductive State where
  | between
  /-- `more` octets after the next one; the next one lies in `low … high`; `value` so far. -/
  | inside (more : Nat) (low high : UInt8) (value : Nat)
  deriving DecidableEq, Repr

/-- Reading an octet between characters: what it gives at once, and the state after it. The bounds
on the second octet exclude overlong forms, surrogates and values above U+10FFFF. -/
def lead (b : UInt8) : Text × State :=
  if b < 0x80 then ([Char.ofNat b.toNat], .between)
  else if 0xC2 ≤ b && b ≤ 0xDF then ([], .inside 0 0x80 0xBF (b.toNat - 0xC0))
  else if b == 0xE0 then ([], .inside 1 0xA0 0xBF 0)
  else if b == 0xED then ([], .inside 1 0x80 0x9F 0xD)
  else if 0xE1 ≤ b && b ≤ 0xEF then ([], .inside 1 0x80 0xBF (b.toNat - 0xE0))
  else if b == 0xF0 then ([], .inside 2 0x90 0xBF 0)
  else if 0xF1 ≤ b && b ≤ 0xF3 then ([], .inside 2 0x80 0xBF (b.toNat - 0xF0))
  else if b == 0xF4 then ([], .inside 2 0x80 0x8F 4)
  else ([replacement], .between)

def State.read : State → UInt8 → Text × State
  | .between, b => lead b
  | .inside more low high value, b =>
    if low ≤ b && b ≤ high then
      let value := value * 64 + (b.toNat - 0x80)
      match more with
      | 0 => ([Char.ofNat value], .between)
      | n + 1 => ([], .inside n 0x80 0xBF value)
    else
      let (text, next) := lead b
      (replacement :: text, next)

/-- What the end of the input gives: a character begun is replaced. -/
def State.finish : State → Text
  | .between => []
  | .inside .. => [replacement]

def State.decode : State → Bytes → Text
  | s, [] => s.finish
  | s, b :: r => (s.read b).1 ++ (s.read b).2.decode r

def decode (bytes : Bytes) : Text := State.between.decode bytes

/-- The text that a byte string encodes, if it is valid: then, and only then, decoding loses
nothing. -/
def decode? (bytes : Bytes) : Option Text :=
  let text := decode bytes
  if encode text = bytes then some text else none

end LineShell.Utf8
