import LineShell.Host.Script
import LineShell.Host.Tree
import LineShell.Text.Basic

/-!
What the programs of a machine do with their arguments and their input.
-/

namespace LineShell.Host

def consuming (input output : Bytes) : Outcome := { output, consumed := input.length }

/-! ## Text tools -/

/-- Split at newlines; what follows the last one is a line only if it is not empty. -/
def byteLines : Bytes → List Bytes
  | [] => []
  | b :: r =>
    if b = 10 then [] :: byteLines r
    else match r, byteLines r with
      | _ :: _, line :: lines => (b :: line) :: lines
      | _, lines => [b] :: lines

def byteSet : Bytes → Bytes
  | a :: 45 :: b :: r =>
    (List.range (b.toNat + 1 - a.toNat)).map (fun i => a + UInt8.ofNat i) ++ byteSet r
  | a :: r => a :: byteSet r
  | [] => []

/-- Replace the bytes of one set by those of another, whose last one is repeated as needed. -/
def substitute (source target data : Bytes) : Bytes :=
  let pairs := source.zip (target ++ List.replicate source.length (target.getLast?.getD 0))
  data.map fun b => (pairs.lookup b).getD b

def notAfter : Bytes → Bytes → Bool
  | [], _ => true
  | _ :: _, [] => false
  | a :: r, b :: s => a < b || (a == b && notAfter r s)

def insertLine (line : Bytes) : List Bytes → List Bytes
  | [] => [line]
  | l :: ls => if notAfter line l then line :: l :: ls else l :: insertLine line ls

def sortLines (data : Bytes) : Bytes :=
  ((byteLines data).foldr insertLine []).flatMap (· ++ [10])

/-! ## Formats -/

def octal : Nat → Nat → Text → Nat × Text
  | 0, value, text => (value, text)
  | _, value, [] => (value, [])
  | n + 1, value, c :: r =>
    if '0' ≤ c && c ≤ '7' then octal n (8 * value + (c.toNat - '0'.toNat)) r
    else (value, c :: r)

/-- The bytes of an escape, after the backslash, and the text after it. -/
def formatEscape (text : Text) : Bytes × Text :=
  match text with
  | [] => ([92], [])
  | c :: r =>
    if '0' ≤ c && c ≤ '7' then
      let (value, rest) := octal 3 0 (c :: r)
      ([UInt8.ofNat value], rest)
    else if c = 'n' then ([10], r)
    else if c = 't' then ([9], r)
    else if c = 'r' then ([13], r)
    else if c = '\\' then ([92], r)
    else (92 :: Utf8.encode [c], r)

/-- Go through a format of at most `n` characters once: the bytes, the arguments left, and whether
any has been asked for. -/
def formatOnce : Nat → Text → List Bytes → Bytes × List Bytes × Bool
  | 0, _, args => ([], args, false)
  | _, [], args => ([], args, false)
  | n + 1, '\\' :: r, args =>
    let (bytes, rest) := formatEscape r
    let (more, args, asked) := formatOnce n rest args
    (bytes ++ more, args, asked)
  | n + 1, '%' :: '%' :: r, args =>
    let (more, args, asked) := formatOnce n r args
    (37 :: more, args, asked)
  | n + 1, '%' :: _ :: r, args =>
    let (more, rest, _) := formatOnce n r args.tail
    (args.headD [] ++ more, rest, true)
  | n + 1, c :: r, args =>
    let (more, args, asked) := formatOnce n r args
    (Utf8.encode [c] ++ more, args, asked)

/-- Use a format again as long as there are arguments, at most `n` times. -/
def formatAll (format : Text) : Nat → List Bytes → Bytes
  | 0, _ => []
  | n + 1, args =>
    let (bytes, rest, asked) := formatOnce (format.length + 1) format args
    if rest.isEmpty || !asked then bytes else bytes ++ formatAll format n rest

def printf : List Bytes → Bytes
  | [] => []
  | format :: args => formatAll (Utf8.decode format) (args.length + 1) args

/-! ## Programs -/

def head (count : Nat) (input : Bytes) : Bytes :=
  let lines := byteLines input
  if lines.length ≤ count then input else (lines.take count).flatMap (· ++ [10])

def headBlock : Nat := 8192

def Program.run (args : List Bytes) (input : Bytes) : Program → Outcome
  | .sh => {}
  | .cat => consuming input input
  | .tr =>
    match args with
    | [source, target] => consuming input (substitute (byteSet source) (byteSet target) input)
    | _ => { ending := .exited 1 }
  | .sort => consuming input (sortLines input)
  | .printf => { output := Host.printf args }
  | .head =>
    let count := match args with
      | [_, n] => ((Numeral.read (Utf8.decode n)).toOption).getD 10
      | _ => 10
    { output := Host.head count input, consumed := headBlock }
  | .succeed => {}
  | .fail => { ending := .exited 1 }

end LineShell.Host
