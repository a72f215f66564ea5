/-!
# Flaws of patterns

Why a regular expression cannot be used.  The first group of causes concerns how the pattern is
written, the second what it may match, and the last one how large it gets.
-/

namespace PipedQuery.Pattern

/-- The deepest nesting of groups, classes, repetitions, sequences and choices. -/
def maxDepth : Nat := 250

/-- The most bytes that the automaton of a pattern may take. -/
def maxSize : Nat := 10485760

/-- Why a pattern cannot be used. -/
inductive Flaw where
  /-- Two groups of one name. -/
  | groupNameTaken
  | groupNameEmpty
  /-- A character that does not belong into the name of a group. -/
  | groupNameInvalid
  | groupNameUnclosed
  | groupUnclosed
  /-- A closing parenthesis that closes nothing. -/
  | groupUnopened
  | flagUnknown
  | flagRepeated
  | negationRepeated
  /-- A negation with no flag behind it. -/
  | negationDangling
  | flagsUnclosed
  /-- A group that looks ahead or behind. -/
  | lookAround
  | backReference
  | escapeUnknown
  /-- A backslash with too little behind it. -/
  | escapeCut
  | hexEmpty
  | hexDigitInvalid
  /-- A number that is no character. -/
  | hexNoCharacter
  /-- A brace behind a word boundary with nothing behind it. -/
  | boundaryCut
  | boundaryUnclosed
  | boundaryUnknown
  /-- A property class named by a backslash. -/
  | propertyInvalid
  | classUnclosed
  /-- An assertion inside a class. -/
  | classEscapeInvalid
  /-- A range that ends in something that is no character. -/
  | rangeEndInvalid
  | rangeReversed
  | nothingToRepeat
  | countEmpty
  | countTooLarge
  | countUnclosed
  | countReversed
  | tooDeep
  /-- A Unicode class where Unicode is switched off. -/
  | unicodeOff
  /-- A pattern that matches bytes which are no text. -/
  | matchesNonText
  | propertyUnknown
  | propertyValueUnknown
  | tooLarge
deriving DecidableEq

/-- The flaw in words. -/
def Flaw.message : Flaw → String
  | groupNameTaken => "duplicate capture group name"
  | groupNameEmpty => "empty capture group name"
  | groupNameInvalid => "invalid capture group character"
  | groupNameUnclosed => "unclosed capture group name"
  | groupUnclosed => "unclosed group"
  | groupUnopened => "unopened group"
  | flagUnknown => "unrecognized flag"
  | flagRepeated => "duplicate flag"
  | negationRepeated => "flag negation operator repeated"
  | negationDangling => "dangling flag negation operator"
  | flagsUnclosed => "expected flag but got end of regex"
  | lookAround => "look-around, including look-ahead and look-behind, is not supported"
  | backReference => "backreferences are not supported"
  | escapeUnknown => "unrecognized escape sequence"
  | escapeCut => "incomplete escape sequence, reached end of pattern prematurely"
  | hexEmpty => "hexadecimal literal empty"
  | hexDigitInvalid => "invalid hexadecimal digit"
  | hexNoCharacter => "hexadecimal literal is not a Unicode scalar value"
  | boundaryCut =>
    "found either the beginning of a special word boundary or a bounded repetition on a \\b with " ++
      "an opening brace, but no closing brace"
  | boundaryUnclosed =>
    "special word boundary assertion is either unclosed or contains an invalid character"
  | boundaryUnknown =>
    "unrecognized special word boundary assertion, valid choices are: start, end, start-half or " ++
      "end-half"
  | propertyInvalid => "invalid Unicode character class"
  | classUnclosed => "unclosed character class"
  | classEscapeInvalid => "invalid escape sequence found in character class"
  | rangeEndInvalid => "invalid range boundary, must be a literal"
  | rangeReversed => "invalid character class range, the start must be <= the end"
  | nothingToRepeat => "repetition operator missing expression"
  | countEmpty => "repetition quantifier expects a valid decimal"
  | countTooLarge => "decimal literal invalid"
  | countUnclosed => "unclosed counted repetition"
  | countReversed => "invalid repetition count range, the start must be <= the end"
  | tooDeep =>
    "exceed the maximum number of nested parentheses/brackets (" ++ toString maxDepth ++ ")"
  | unicodeOff => "Unicode not allowed here"
  | matchesNonText => "pattern can match invalid UTF-8"
  | propertyUnknown => "Unicode property not found"
  | propertyValueUnknown => "Unicode property value not found"
  | tooLarge => "Compiled regex exceeds size limit of " ++ toString maxSize ++ " bytes."

end PipedQuery.Pattern
