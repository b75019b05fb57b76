import LineShell.Unicode.Age
import LineShell.Unicode.Binary
import LineShell.Unicode.Category
import LineShell.Unicode.GraphemeBreak
import LineShell.Unicode.Script
import LineShell.Unicode.ScriptExtensions
import LineShell.Unicode.SentenceBreak
import LineShell.Unicode.WordBreak

/-!
Finding a set of characters by the name of a property, or by a property and its value. Case, blanks,
hyphens and underscores in a name do not matter, nor does `is` at its start.
-/

namespace LineShell.Unicode

inductive NameFault where
  | unknown
  | unknownValue
  deriving DecidableEq, Repr

/-! ## Names -/

/-- A name without blanks, hyphens, underscores and capitals. -/
def squeeze (name : Text) : Text :=
  (name.filter fun c => c.toNat < 0x80 && c != ' ' && c != '_' && c != '-').map Char.toLower

/-- The form of a name that stands in the tables. `isc` is a name of its own. -/
def normalize (name : Text) : Text :=
  match name with
  | i :: s :: r =>
    if i.toLower = 'i' ∧ s.toLower = 's' then
      if squeeze r = ['c'] then "isc".toList else squeeze r
    else squeeze name
  | name => squeeze name

/-- The properties that are known by name, but that no set can be asked for by. -/
def otherProperties : String :=
  "bc bidiclass bidim bidimirrored bidimirroringglyph bidipairedbracket bidipairedbrackettype
  blk block bmg bpb bpt canonicalcombiningclass casefolding ccc ce cf changeswhennfkccasefolded
  cjkaccountingnumeric cjkcompatibilityvariant cjkiicore cjkirggsource cjkirghsource
  cjkirgjsource cjkirgkpsource cjkirgksource cjkirgmsource cjkirgssource cjkirgtsource
  cjkirguksource cjkirgusource cjkirgvsource cjkothernumeric cjkprimarynumeric cjkrsunicode
  compex compositionexclusion cwkcf decompositionmapping decompositiontype dm dt ea
  eastasianwidth equideo equivalentunifiedideograph expandsonnfc expandsonnfd expandsonnfkc
  expandsonnfkd fcnfkc fcnfkcclosure fullcompositionexclusion hangulsyllabletype hst incb
  indicconjunctbreak indicpositionalcategory indicsyllabiccategory inpc insc isc jamoshortname
  jg joininggroup joiningtype jsn jt kaccountingnumeric kcompatibilityvariant kiicore
  kirggsource kirghsource kirgjsource kirgkpsource kirgksource kirgmsource kirgssource
  kirgtsource kirguksource kirgusource kirgvsource kothernumeric kprimarynumeric krsunicode lb
  lc linebreak lowercasemapping na na1 name nfcqc nfcquickcheck nfdqc nfdquickcheck
  nfkccasefold nfkccf nfkcqc nfkcquickcheck nfkcscf nfkcsimplecasefold nfkdqc nfkdquickcheck nt
  numerictype numericvalue nv scf sfc simplecasefolding simplelowercasemapping
  simpletitlecasemapping simpleuppercasemapping slc stc suc tc titlecasemapping uc unicode1name
  unicoderadicalstroke uppercasemapping urs verticalorientation vo xonfc xonfd xonfkc xonfkd"

inductive Valued where
  | age | category | script | scriptExtensions | graphemeBreak | wordBreak | sentenceBreak
  deriving DecidableEq, Repr

def valued? (name : Text) : Option Valued :=
  [("age", Valued.age), ("gc", .category), ("generalcategory", .category), ("sc", .script),
    ("script", .script), ("scx", .scriptExtensions), ("scriptextensions", .scriptExtensions),
    ("gcb", .graphemeBreak), ("graphemeclusterbreak", .graphemeBreak), ("wb", .wordBreak),
    ("wordbreak", .wordBreak), ("sb", .sentenceBreak),
    ("sentencebreak", .sentenceBreak)].findSome? fun (n, p) =>
      if n.toList = name then some p else none

def isProperty (name : Text) : Bool :=
  binaryProperties.any (·.isNamed name) ||
    (Text.fields otherProperties.toList).contains name

/-! ## Sets -/

/-- The characters of a general category. Surrogates are none. -/
def category? (name : Text) : Option CharSet :=
  if name = "any".toList then some CharSet.all
  else if name = "ascii".toList then some ⟨[(0, 0x7F)]⟩
  else if name = "assigned".toList then some (ofCategories [.cn]).complement
  else
    (categoryNames.find? fun (names, _) => names.any (·.toList == name)).bind fun (_, categories) =>
      if categories = [.cs] then none else some (ofCategories categories)

def script? (name : Text) : Option CharSet := lookup? scripts name

def scriptExtension? (name : Text) : Option CharSet :=
  (scripts.find? (·.isNamed name)).map fun e =>
    (lookup? scriptExtensions e.name.toList).getD e.set

/-- The entries up to the first one of a name, that one included. -/
def upTo (name : Text) : List Entry → Option (List Entry)
  | [] => none
  | e :: es => if e.isNamed name then some [e] else (upTo name es).map (e :: ·)

/-- The characters that a version has, those of the versions before it included. -/
def age? (name : Text) : Option CharSet :=
  (upTo name ages).map fun es => es.foldl (fun s e => s.union e.set) {}

/-- The set of a property's value; both names are in the form of the tables. -/
def value? (property : Valued) (value : Text) : Option CharSet :=
  match property with
  | .age => age? value
  | .category => category? value
  | .script => script? value
  | .scriptExtensions => scriptExtension? value
  | .graphemeBreak => lookup? graphemeBreaks value
  | .wordBreak => lookup? wordBreaks value
  | .sentenceBreak => lookup? sentenceBreaks value

/-- The short names that stand for a category and not for the property of that name. -/
def prefersCategory (name : Text) : Bool :=
  name == "cf".toList || name == "sc".toList || name == "lc".toList

/-- The set of a name. A property comes before a category, and a category before a script. -/
def ofName (name : Text) : Except NameFault CharSet :=
  let name := normalize name
  match if prefersCategory name then none else lookup? binaryProperties name with
  | some s => .ok s
  | none =>
    if !prefersCategory name && ((valued? name).isSome || isProperty name) then .error .unknown
    else if name = "cs".toList ∨ name = "surrogate".toList then .error .unknownValue
    else match (category? name).or (script? name) with
      | some s => .ok s
      | none => .error .unknown

def ofValue (property value : Text) : Except NameFault CharSet :=
  let property := normalize property
  match valued? property with
  | some p =>
    match value? p (normalize value) with
    | some s => .ok s
    | none => .error .unknownValue
  | none => if isProperty property then .error .unknownValue else .error .unknown

end LineShell.Unicode
