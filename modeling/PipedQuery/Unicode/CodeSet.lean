import PipedQuery.Text.CodeRange

/-!
# Descriptions of sets of code points

The character database lists some sets and defines the others by them.  A description is either a
table, written as hexadecimal ranges such as `41-5a 61-7a aa`, or made of other descriptions.
`CodeSet.ranges` works it out.
-/

namespace PipedQuery

/-- A description of a set of code points. -/
inductive CodeSet where
  /-- The ranges that a text lists in increasing order. -/
  | listed (text : String)
  | union (sets : List CodeSet)
  /-- The first set but for the second one. -/
  | without (set excluded : CodeSet)
  | both (left right : CodeSet)

namespace CodeSet

/-- The value of a hexadecimal digit in lower case. -/
def digitValue (c : Char) : Nat := if c.isDigit then c.toNat - 48 else c.toNat - 87

/-- The number with the given hexadecimal digits. -/
def codeOf (digits : List Char) : Nat := digits.foldl (fun n c => n * 16 + digitValue c) 0

/-- The range with the given text: two bounds with a hyphen between them, or a single code point. -/
def rangeOf (cs : List Char) : Nat × Nat :=
  let low := codeOf (cs.takeWhile (· ≠ '-'))
  match cs.dropWhile (· ≠ '-') with
  | [] => (low, low)
  | _ :: high => (low, codeOf high)

/-- Whether a character stands between words. -/
def isGap (c : Char) : Bool := c = ' ' || c = '\n'

/-- The words of a text, which stand between blanks and line breaks. -/
def words (text : String) : List (List Char) :=
  (text.toList.splitBy fun a b => isGap a == isGap b).filter fun w => !w.any isGap

/-- The ranges with the given text. -/
def rangesOfText (text : String) : CodeRanges := (words text).map rangeOf

mutual

/-- The code points of a set. -/
def ranges : CodeSet → CodeRanges
  | .listed text => rangesOfText text
  | .union sets => CodeRanges.ofList (rangesOfAll sets)
  | .without set excluded => set.ranges.without excluded.ranges
  | .both left right => left.ranges.inter right.ranges

/-- The ranges of several sets, one set after the other. -/
def rangesOfAll : List CodeSet → CodeRanges
  | [] => []
  | s :: sets => s.ranges ++ rangesOfAll sets

end

end CodeSet

/-- A set with the names it goes by. -/
structure NamedSet where
  names : List String
  set : CodeSet

end PipedQuery
