import LineShell.Unicode.Binary
import LineShell.Unicode.Category

/-!
The classes of characters that patterns use most. For ASCII they are decided without any table.
-/

namespace LineShell.Unicode

def property (name : String) : CharSet := (lookup? binaryProperties name.toList).getD {}

def alphabetic : CharSet := property "alphabetic"

def digits : CharSet := ofCategories [.nd]

def blanks : CharSet := property "whitespace"

/-- Word characters: letters, marks, digits, connectors such as `_`, and the two joiners. -/
def words : CharSet :=
  ((alphabetic.union (ofCategories [.mn, .mc, .me])).union (ofCategories [.nd, .pc])).union
    (property "joincontrol")

def isAlphabetic (c : Char) : Bool :=
  if c.toNat < 0x80 then c.isAlpha else alphabetic.contains c

def isNumeric (c : Char) : Bool :=
  if c.toNat < 0x80 then c.isDigit else (ofCategories [.nd, .nl, .no]).contains c

def isAsciiWord (c : Char) : Bool := c.isAlphanum || c == '_'

def isWord (c : Char) : Bool := if c.toNat < 0x80 then isAsciiWord c else words.contains c

end LineShell.Unicode
