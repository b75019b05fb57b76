import LineShell.Pattern.Span

/-!
What can be wrong with a pattern, and where.
-/

namespace LineShell.Pattern

def nestingLimit : Nat := 250

inductive Fault where
  | backreference
  | captureNameDuplicate
  | captureNameEmpty
  | captureNameInvalid
  | captureNameUnclosed
  | classEscape
  | classRangeBounds
  | classRangeOrder
  | classUnclosed
  | countInvalid
  | countMissing
  | countOrder
  | countUnclosed
  | escapeEnds
  | escapeUnknown
  | flagDuplicate
  | flagEnds
  | flagNegationDangling
  | flagNegationRepeated
  | flagUnknown
  | groupUnclosed
  | groupUnopened
  | hexDigit
  | hexEmpty
  | hexValue
  | invalidUtf8
  | lookAround
  | nesting
  | propertyForm
  | propertyUnknown
  | propertyValueUnknown
  | repetitionMissing
  | unicodeNotAllowed
  | wordBoundaryEnds
  | wordBoundaryUnclosed
  | wordBoundaryUnknown
  deriving DecidableEq, Repr

def Fault.message : Fault → Text
  | backreference => "backreferences are not supported".toList
  | captureNameDuplicate => "duplicate capture group name".toList
  | captureNameEmpty => "empty capture group name".toList
  | captureNameInvalid => "invalid capture group character".toList
  | captureNameUnclosed => "unclosed capture group name".toList
  | classEscape => "invalid escape sequence found in character class".toList
  | classRangeBounds => "invalid range boundary, must be a literal".toList
  | classRangeOrder => "invalid character class range, the start must be <= the end".toList
  | classUnclosed => "unclosed character class".toList
  | countInvalid => "decimal literal invalid".toList
  | countMissing => "repetition quantifier expects a valid decimal".toList
  | countOrder => "invalid repetition count range, the start must be <= the end".toList
  | countUnclosed => "unclosed counted repetition".toList
  | escapeEnds => "incomplete escape sequence, reached end of pattern prematurely".toList
  | escapeUnknown => "unrecognized escape sequence".toList
  | flagDuplicate => "duplicate flag".toList
  | flagEnds => "expected flag but got end of regex".toList
  | flagNegationDangling => "dangling flag negation operator".toList
  | flagNegationRepeated => "flag negation operator repeated".toList
  | flagUnknown => "unrecognized flag".toList
  | groupUnclosed => "unclosed group".toList
  | groupUnopened => "unopened group".toList
  | hexDigit => "invalid hexadecimal digit".toList
  | hexEmpty => "hexadecimal literal empty".toList
  | hexValue => "hexadecimal literal is not a Unicode scalar value".toList
  | invalidUtf8 => "pattern can match invalid UTF-8".toList
  | lookAround => "look-around, including look-ahead and look-behind, is not supported".toList
  | nesting =>
    "exceed the maximum number of nested parentheses/brackets (".toList ++
      Text.ofNat nestingLimit ++ [')']
  | propertyForm => "invalid Unicode character class".toList
  | propertyUnknown => "Unicode property not found".toList
  | propertyValueUnknown => "Unicode property value not found".toList
  | repetitionMissing => "repetition operator missing expression".toList
  | unicodeNotAllowed => "Unicode not allowed here".toList
  | wordBoundaryEnds =>
    "found either the beginning of a special word boundary or a bounded repetition on a \\b with an opening brace, but no closing brace".toList
  | wordBoundaryUnclosed =>
    "special word boundary assertion is either unclosed or contains an invalid character".toList
  | wordBoundaryUnknown =>
    "unrecognized special word boundary assertion, valid choices are: start, end, start-half or end-half".toList

structure Complaint where
  fault : Fault
  span : Span
  /-- What the fault clashes with, if it is there that it became one. -/
  earlier : Option Span := none
  deriving DecidableEq, Repr

end LineShell.Pattern
