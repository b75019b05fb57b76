import LineShell.Text.Basic

/-!
Sets of characters as ranges of code points, and how they are written in tables. For each range there
stand the number of code points between it and the range before it, and, if it has more than one
character, a plus sign and the number of characters after its first; all numbers are hexadecimal.
-/

namespace LineShell

def hexValue (c : Char) : Nat :=
  if c.isDigit then c.toNat - '0'.toNat
  else if 'a' ≤ c then c.toNat - 'a'.toNat + 10
  else c.toNat - 'A'.toNat + 10

def lastCode : Nat := 0x10FFFF

/-- A set of characters: ranges, ends included, in order and with gaps between them. -/
structure CharSet where
  ranges : List (Nat × Nat) := []
  deriving DecidableEq, Repr

namespace CharSet

/-- Is a code point in one of the ranges? None that comes later can have a smaller one. -/
def memRanges (n : Nat) : List (Nat × Nat) → Bool
  | [] => false
  | (low, high) :: rest => low ≤ n && (n ≤ high || memRanges n rest)

def contains (s : CharSet) (c : Char) : Bool := memRanges c.toNat s.ranges

/-- Put a range among others; it absorbs those that it touches. -/
def insertRange (low high : Nat) : List (Nat × Nat) → List (Nat × Nat)
  | [] => [(low, high)]
  | (l, h) :: rest =>
    if high + 1 < l then (low, high) :: (l, h) :: rest
    else if h + 1 < low then (l, h) :: insertRange low high rest
    else insertRange (min low l) (max high h) rest

def gaps : Nat → List (Nat × Nat) → List (Nat × Nat)
  | n, [] => if n ≤ lastCode then [(n, lastCode)] else []
  | n, (l, h) :: rest => if n < l then (n, l - 1) :: gaps (h + 1) rest else gaps (h + 1) rest

def ofRanges (ranges : List (Nat × Nat)) : CharSet :=
  ⟨ranges.foldl (fun rs r => insertRange r.1 r.2 rs) []⟩

/-- Ranges in order; neighbours are joined. -/
def ofSorted (ranges : List (Nat × Nat)) : CharSet :=
  ⟨ranges.foldr (fun r joined =>
    match joined with
    | (low, high) :: rest => if r.2 + 1 = low then (r.1, high) :: rest else r :: joined
    | [] => [r]) []⟩

def all : CharSet := ⟨[(0, lastCode)]⟩

def single (c : Char) : CharSet := ⟨[(c.toNat, c.toNat)]⟩

def range (first last : Char) : CharSet := ⟨[(first.toNat, last.toNat)]⟩

/-- The code points of both. The set with fewer ranges should come second. -/
def union (a b : CharSet) : CharSet :=
  ⟨b.ranges.foldl (fun rs r => insertRange r.1 r.2 rs) a.ranges⟩

def complement (s : CharSet) : CharSet := ⟨gaps 0 s.ranges⟩

def inter (a b : CharSet) : CharSet := (a.complement.union b.complement).complement

def diff (a b : CharSet) : CharSet := (a.complement.union b).complement

def symmDiff (a b : CharSet) : CharSet := (a.union b).diff (a.inter b)

def isAscii (s : CharSet) : Bool := s.ranges.all fun r => r.2 < 0x80

def only? (s : CharSet) : Option Char :=
  match s.ranges with
  | [(low, high)] => if low = high then some (Char.ofNat low) else none
  | _ => none

end CharSet

/-! ## Tables -/

namespace Unicode

def hexNumber (digits : Text) : Nat := digits.foldl (fun n c => 16 * n + hexValue c) 0

def unpackFrom : Nat → List Text → List (Nat × Nat)
  | _, [] => []
  | next, word :: words =>
    let gap := word.takeWhile (· ≠ '+')
    let low := next + hexNumber gap
    let high := low + hexNumber (word.drop (gap.length + 1))
    (low, high) :: unpackFrom (high + 1) words

def unpack (packed : String) : CharSet := ⟨unpackFrom 0 (Text.fields packed.toList)⟩

/-- A set with its names. Names in tables are in lower case, without blanks and signs. -/
structure Entry where
  name : String
  aliases : List String
  packed : String

def Entry.set (e : Entry) : CharSet := unpack e.packed

def Entry.isNamed (name : Text) (e : Entry) : Bool :=
  e.name.toList == name || e.aliases.any (·.toList == name)

def lookup? (table : List Entry) (name : Text) : Option CharSet :=
  (table.find? (·.isNamed name)).map Entry.set

end Unicode

end LineShell
