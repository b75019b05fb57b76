import LineShell.Unicode.Binary
import LineShell.Unicode.GraphemeBreak

/-!
Grapheme clusters: characters as a reader sees them, such as a letter with its accents. A text is
cut wherever no rule joins a character to the cluster before it. No rule reaches back beyond the
cluster, so the cluster so far is all the context that there is.
-/

namespace LineShell.Unicode

inductive GraphemeClass where
  /-- A control, which is a cluster of its own. -/
  | control
  | carriageReturn
  | lineFeed
  /-- Extends the character before it. -/
  | extend
  | joiner
  /-- Half of a flag. -/
  | indicator
  /-- Is joined to the character after it. -/
  | prepend
  | spacingMark
  /-- The letters that Korean syllables are made of, and two kinds of whole syllables. -/
  | l | v | t | lv | lvt
  | other
  deriving DecidableEq, Repr

namespace Grapheme

def classNames : List (String × GraphemeClass) :=
  [("control", .control), ("extend", .extend), ("zwj", .joiner), ("regionalindicator", .indicator),
    ("prepend", .prepend), ("spacingmark", .spacingMark), ("l", .l), ("v", .v), ("t", .t),
    ("lv", .lv), ("lvt", .lvt)]

def classSets : List (CharSet × GraphemeClass) :=
  classNames.map fun (name, k) => ((lookup? graphemeBreaks name.toList).getD {}, k)

/-- The class of a character. For ASCII it is decided without the table. -/
def classOf (c : Char) : GraphemeClass :=
  if c = '\r' then .carriageReturn
  else if c = '\n' then .lineFeed
  else if c.toNat < 0x20 ∨ c.toNat = 0x7F then .control
  else if c.toNat < 0x80 then .other
  else ((classSets.find? (·.1.contains c)).map (·.2)).getD .other

def pictographs : CharSet := (lookup? binaryProperties "extendedpictographic".toList).getD {}

def isPictograph (c : Char) : Bool := 0x80 ≤ c.toNat && pictographs.contains c

def conjunctConsonants : CharSet :=
  unpack "915+24 1e+7 18+7 15+13 1+6 1 3+3 22+1 1 10+1 a3+13 1+6 1+1 1+4 3f 1b+13 1+6 1+1 1+4 22+1 1 11
    a3+13 1+f 1e+2 ba+25 2c5+2a 14 10+5 4+3 3 3+1 7+2 4+c c 6f1+33 26c+34 b6+1 6+20 11+7 36+1d d+1
    b+2 8dcb+2 3+23 2d+4 2+8 a+4 61+f 1+2 6 3+1 60+a d5+1a 5e25 f+3 1+2 1+1c 6cd+23 1d 2 238+9 1 2
    1+25 54a+6 2 2+7 1+1 1+17 d0 a+27 1d b+27 480+c 1+21"

def isConsonant (c : Char) : Bool := 0x80 ≤ c.toNat && conjunctConsonants.contains c

def linkers : CharSet :=
  unpack "94d 7f ff 7f ff ff 2eb 798 28d e3 66 8e14 135 5f48 6f3 29c 56d 108 51 4a8"

def isLinker (c : Char) : Bool := 0x80 ≤ c.toNat && linkers.contains c

/-- The zero width non-joiner, which keeps consonants apart. -/
def nonJoiner : Char := '\u200C'

def isConjunctMark (c : Char) : Bool :=
  let k := classOf c
  isLinker c || ((k == .extend || k == .joiner) && c != nonJoiner)

/-- Does the cluster, last character first, end in a consonant and marks, a linker among them? -/
def endsLinked (cluster : Text) : Bool :=
  let marks := cluster.takeWhile isConjunctMark
  marks.any isLinker && (cluster.drop marks.length).head?.any isConsonant

/-- Does the cluster, last character first, end in a pictograph, extenders and a joiner? -/
def endsPictograph : Text → Bool
  | [] => false
  | c :: r =>
    classOf c == .joiner && (r.dropWhile fun d => classOf d == .extend).head?.any isPictograph

/-- Does the cluster, last character first, end in an odd number of halves of flags? -/
def endsHalfFlag (cluster : Text) : Bool :=
  (cluster.takeWhile fun c => classOf c == .indicator).length % 2 == 1

def joinsClass : GraphemeClass → GraphemeClass → Bool
  | .carriageReturn, next => next == .lineFeed
  | .control, _ | .lineFeed, _ => false
  | _, .control | _, .carriageReturn | _, .lineFeed => false
  | _, .extend | _, .joiner | _, .spacingMark => true
  | .prepend, _ => true
  | .l, next => next == .l || next == .v || next == .lv || next == .lvt
  | .lv, next | .v, next => next == .v || next == .t
  | .lvt, next | .t, next => next == .t
  | _, _ => false

/-- Does a character belong to the cluster, last character first, that it follows? -/
def joins (cluster : Text) (c : Char) : Bool :=
  match cluster with
  | [] => true
  | last :: _ =>
    joinsClass (classOf last) (classOf c) || (isConsonant c && endsLinked cluster) ||
      (isPictograph c && endsPictograph cluster) ||
      (classOf c == .indicator && endsHalfFlag cluster)

/-- The clusters of a text that goes on after `cluster`, whose last character comes first. -/
def clustersAfter (cluster : Text) : Text → List Text
  | [] => if cluster.isEmpty then [] else [cluster.reverse]
  | c :: r =>
    if joins cluster c then clustersAfter (c :: cluster) r
    else cluster.reverse :: clustersAfter [c] r

def clusters (text : Text) : List Text := clustersAfter [] text

theorem flatten_clustersAfter (cluster text : Text) :
    (clustersAfter cluster text).flatten = cluster.reverse ++ text := by
  induction text generalizing cluster with
  | nil => cases cluster <;> simp [clustersAfter]
  | cons c r ih => simp only [clustersAfter]; split <;> simp [ih]

/-- Cutting a text into clusters loses nothing. -/
theorem flatten_clusters (text : Text) : (clusters text).flatten = text := by
  simp [clusters, flatten_clustersAfter]

end Grapheme

end LineShell.Unicode
