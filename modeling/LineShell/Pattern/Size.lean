import LineShell.Pattern.Expr

/-!
The limit on the size of a pattern, which is that of the automaton over octets that recognises it.
Each state counts 32 bytes, each transition of a set 8 and each branch of a choice 4. There are two
automata, one reading forward and one backward, and neither may be too large.
-/

namespace LineShell.Pattern.Size

/-- How large an automaton may be, in bytes. -/
def limit : Nat := 10485760

def state : Nat := 32
def transition : Nat := 8
def branch : Nat := 4

/-! ## Octets of ranges -/

abbrev Octets := Nat × Nat

def encode (n : Nat) : List Nat :=
  if n < 0x80 then [n]
  else if n < 0x800 then [0xC0 + n / 64, 0x80 + n % 64]
  else if n < 0x10000 then [0xE0 + n / 4096, 0x80 + n / 64 % 64, 0x80 + n % 64]
  else [0xF0 + n / 262144, 0x80 + n / 4096 % 64, 0x80 + n / 64 % 64, 0x80 + n % 64]

/-- The last code points whose encodings have one octet, two, and three. -/
def lengthEnds : List Nat := [0x7F, 0x7FF, 0xFFFF]

/-- Where a range has to be cut so that its parts are products of ranges of octets: the last code
point of the first part. -/
def cut? (low high : Nat) : Option Nat :=
  match lengthEnds.find? fun n => low ≤ n && n < high with
  | some n => some n
  | none =>
    if high < 0x80 then none
    else [64, 4096, 262144].findSome? fun m =>
      if low / m = high / m then none
      else if low % m ≠ 0 then some (low / m * m + m - 1)
      else if high % m ≠ m - 1 then some (high / m * m - 1)
      else none

/-- The products of octets that make up a range, in order; `n` bounds the number of cuts in a
row. -/
def products : Nat → Nat → Nat → List (List Octets)
  | 0, _, _ => []
  | n + 1, low, high =>
    match cut? low high with
    | some last => products n low last ++ products n (last + 1) high
    | none => [(encode low).zip (encode high)]

/-- The same, without the code points of surrogates. -/
def octets (range : Nat × Nat) : List (List Octets) :=
  let (low, high) := range
  (if low < 0xD800 then products 32 low (min high 0xD7FF) else []) ++
    (if 0xDFFF < high then products 32 (max low 0xE000) high else [])

/-- Group products by their first octets, given that equal ones are neighbours. -/
def groups : List (List Octets) → List (Octets × List (List Octets))
  | [] => []
  | [] :: rest => groups rest
  | (first :: more) :: rest =>
    match groups rest with
    | (octets, tails) :: others =>
      if octets = first then (octets, (more :: tails)) :: others
      else (first, [more]) :: (octets, tails) :: others
    | [] => [(first, [more])]

/-! ## Sets -/

/-- The transitions of a state: octets and the number of the next state. -/
abbrev Node := List (Octets × Nat)

/-- The number of the state with these transitions; states with the same ones are shared. The
number zero is that of the end. -/
def number (node : Node) (nodes : List Node) : Nat × List Node :=
  match nodes.idxOf? node with
  | some i => (i + 1, nodes)
  | none => (nodes.length + 1, nodes ++ [node])

/-- The states that recognise products of up to `n` octets, put among others. -/
def share : Nat → List (List Octets) → List Node → Nat × List Node
  | 0, _, nodes => (0, nodes)
  | n + 1, all, nodes =>
    let (node, nodes) := (groups all).foldl (fun (node, nodes) (octets, tails) =>
      let (next, nodes) := share n tails nodes
      (node ++ [(octets, next)], nodes)) (([] : Node), nodes)
    if node.isEmpty then (0, nodes) else number node nodes

/-- The size of a set that is read forward: states with the same future are shared. -/
def forwardSet (s : CharSet) : Nat :=
  let (_, nodes) := share 5 (s.ranges.flatMap octets) []
  nodes.foldl (fun size node => size + state + transition * node.length) state

/-- How many different beginnings products of up to `n` octets have. -/
def beginnings : Nat → List (List Octets) → Nat
  | 0, _ => 0
  | n + 1, all => ((groups all).map fun (_, tails) => 1 + beginnings n tails).sum

/-- The size of a set that is read backward: beginnings are shared. -/
def backwardSet (s : CharSet) : Nat :=
  let all := s.ranges.flatMap octets
  2 * state + branch * all.length + state * beginnings 5 all

/-- The size of a set in one of the two directions. One of ASCII characters is one state. -/
def ofSet (backward : Bool) (s : CharSet) : Nat :=
  if s.ranges.isEmpty then state
  else if s.isAscii then 2 * state + transition * s.ranges.length
  else if backward then backwardSet s
  else forwardSet s

/-- A bound on the size of a set that is found without cutting ranges: a range has at most 24
products of four octets. -/
def boundSet (s : CharSet) : Nat := 3 * state + 24 * 4 * (state + transition) * s.ranges.length

/-! ## Expressions -/

def ofRepetition (size : Nat) (isNullable : Bool) : Nat → Option Nat → Nat
  | 0, some 1 => 2 * state + 2 * branch + size
  | 0, none =>
    if isNullable then 3 * state + 4 * branch + size else state + 2 * branch + size
  | least, none => least * size + state + 2 * branch
  | least, some most =>
    if least = most then least * size
    else
      (if least = 0 then state else least * size) + state +
        (most - least) * (state + 2 * branch + size)

/-- The size of an expression, from those of sets. Groups count when captures are kept, and the
branches of a choice share its two ends. -/
def ofExpr (set : CharSet → Nat) (captures : Bool) : Bool → Expr → Nat
  | inChoice, .alt a b =>
    (if inChoice then 0 else 2 * state) + branch + ofExpr set captures false a +
      ofExpr set captures true b
  | inChoice, e =>
    (if inChoice then branch else 0) +
      match e with
      | .empty | .place _ => state
      | .char c => state * (encode c.toNat).length
      | .set s => set s
      | .capture e => (if captures then 2 * state else 0) + ofExpr set captures false e
      | .cat a b => ofExpr set captures false a + ofExpr set captures false b
      | .alt .. => 0
      | .rep least most e => ofRepetition (ofExpr set captures false e) e.isNullable least most

/-- The part of an automaton that finds the start of a match, and its end. -/
def frame (captures : Bool) : Nat :=
  3 * state + transition + 2 * branch + (if captures then 2 * state else 0) + state

/-- Is one of the two automata too large? They are built only if the bound does not exclude it. -/
def isTooLarge (e : Expr) : Bool :=
  limit < frame true + ofExpr boundSet true false e &&
    (limit < frame true + ofExpr (ofSet false) true false e ||
      limit < frame false + ofExpr (ofSet true) false false e)

end LineShell.Pattern.Size
