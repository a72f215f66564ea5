import PipedQuery.Pattern.Tree
import PipedQuery.Unicode.BinaryProperty
import PipedQuery.Unicode.CaseFold

/-!
# Modes

The flags in force at a place of a pattern, and what they do to a class of characters.  Case is
folded before a class is complemented, so that a letter is left out in both of its cases.
-/

namespace PipedQuery.Pattern

/-- The flags in force at a place of a pattern. -/
structure Mode where
  anyCase : Bool
  multiLine : Bool
  dotMatchesAll : Bool
  lazy : Bool
  unicode : Bool
  crlf : Bool
deriving DecidableEq

namespace Mode

/-- The mode at the start of a pattern. -/
def start : Mode := ⟨false, false, false, false, true, false⟩

/-- The mode behind a list of flags. -/
def after (m : Mode) (items : List FlagItem) : Mode where
  anyCase := flagAfter .anyCase items m.anyCase
  multiLine := flagAfter .multiLine items m.multiLine
  dotMatchesAll := flagAfter .dotMatchesAll items m.dotMatchesAll
  lazy := flagAfter .lazy items m.lazy
  unicode := flagAfter .unicode items m.unicode
  crlf := flagAfter .crlf items m.crlf

end Mode

/-- Whether a code point has another one that it is the same as where case does not count. -/
def hasCase (n : Nat) : Bool := Unicode.folds.any (·.contains n)

/-- A set with all code points that are the same as one of it where case does not count. -/
def foldCase (ranges : CodeRanges) : CodeRanges :=
  let found := Unicode.folds.filter (·.any ranges.containsCode)
  CodeRanges.ofList (ranges ++ found.flatten.map fun n => (n, n))

/-- The small letters of ASCII. -/
def asciiSmall : CodeRanges := [(0x61, 0x7a)]

/-- The capital letters of ASCII. -/
def asciiCapital : CodeRanges := [(0x41, 0x5a)]

/-- A set with the ASCII letters of the other case than its own ones. -/
def foldAsciiCase (ranges : CodeRanges) : CodeRanges :=
  CodeRanges.ofList (ranges ++
    (ranges.inter asciiSmall).map (fun r => (r.1 - 0x20, r.2 - 0x20)) ++
    (ranges.inter asciiCapital).map fun r => (r.1 + 0x20, r.2 + 0x20))

namespace Mode

/-- A set with what it takes in where case does not count. -/
def fold (m : Mode) (ranges : CodeRanges) : CodeRanges :=
  if !m.anyCase then ranges
  else if m.unicode then foldCase ranges
  else foldAsciiCase ranges

/-- A set that is written as a class, complemented or not. -/
def classOf (m : Mode) (negated : Bool) (ranges : CodeRanges) : CodeRanges :=
  if negated then (m.fold ranges).complement else m.fold ranges

end Mode

/-- The ASCII characters of a class with a letter of its own. -/
def Shorthand.asciiRanges : Shorthand → CodeRanges
  | .digit => [(0x30, 0x39)]
  | .space => [(0x09, 0x0d), (0x20, 0x20)]
  | .word => [(0x30, 0x39), (0x41, 0x5a), (0x5f, 0x5f), (0x61, 0x7a)]

/-- The set of a class with a letter of its own. -/
def Shorthand.set : Shorthand → CodeSet
  | .digit => Unicode.decimalNumber
  | .space => Unicode.whiteSpace
  | .word => Unicode.wordCharacter

/-- The code points of a class with a letter of its own, or of its complement. -/
def Shorthand.ranges (m : Mode) (s : Shorthand) (negated : Bool) : CodeRanges :=
  let ranges := if m.unicode then s.set.ranges else s.asciiRanges
  if negated then ranges.complement else ranges

end PipedQuery.Pattern
