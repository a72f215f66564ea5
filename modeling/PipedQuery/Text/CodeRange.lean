/-!
# Ranges of code points

Character properties are tables of inclusive ranges of code points in increasing order, and classes
of characters are computed with them.  No character has a number from `0xD800` to `0xDFFF`, so the
code point behind `0xD7FF` is `0xE000`.  Ranges that touch by their numbers are one range
(`ofList`), which those on the two sides of that gap never do.
-/

namespace PipedQuery

/-- Inclusive ranges of code points, in increasing order. -/
abbrev CodeRanges := List (Nat × Nat)

namespace CodeRanges

/-- Whether a code point lies in one of the ranges. -/
def containsCode (ranges : CodeRanges) (n : Nat) : Bool :=
  ranges.any fun r => decide (r.1 ≤ n) && decide (n ≤ r.2)

/-- Whether a character lies in one of the ranges. -/
def contains (ranges : CodeRanges) (c : Char) : Bool := ranges.containsCode c.toNat

/-- The largest code point. -/
def maxCode : Nat := 0x10ffff

/-- The range of all code points. -/
def full : CodeRanges := [(0, maxCode)]

/-- The code point behind another one. -/
def nextCode (n : Nat) : Nat := if n = 0xd7ff then 0xe000 else n + 1

/-- The code point before another one. -/
def prevCode (n : Nat) : Nat := if n = 0xe000 then 0xd7ff else n - 1

/-- The order by the start, and then by the end. -/
def startsFirst (a b : Nat × Nat) : Bool := decide (a.1 < b.1) || a.1 == b.1 && decide (a.2 ≤ b.2)

/-- Adds a range behind others, which are given last ones first.  It becomes part of the last one if
    the two touch. -/
def addBehind : CodeRanges → Nat × Nat → CodeRanges
  | [], r => [r]
  | last :: before, r =>
    if r.1 ≤ last.2 + 1 then (last.1, max last.2 r.2) :: before else r :: last :: before

/-- The ranges that cover the same code points as ranges in any order. -/
def ofList (ranges : List (Nat × Nat)) : CodeRanges :=
  ((ranges.mergeSort startsFirst).foldl addBehind []).reverse

/-- The code points in one of two sets or in both. -/
def union (a b : CodeRanges) : CodeRanges :=
  if b.isEmpty || a == b then a else ofList (a ++ b)

/-- The code points in both of two sets. -/
def inter : CodeRanges → CodeRanges → CodeRanges
  | [], _ => []
  | _ :: _, [] => []
  | a :: as, b :: bs =>
    let low := max a.1 b.1
    let high := min a.2 b.2
    let common := if low ≤ high then [(low, high)] else []
    common ++ if a.2 < b.2 then inter as (b :: bs) else inter (a :: as) bs
termination_by a b => a.length + b.length

/-- The code points of one set that are not in another. -/
def without : CodeRanges → CodeRanges → CodeRanges
  | [], _ => []
  | as, [] => as
  | a :: as, b :: bs =>
    if b.2 < a.1 then without (a :: as) bs
    else if a.2 < b.1 then a :: without as (b :: bs)
    else
      let before := if a.1 < b.1 then [(a.1, prevCode b.1)] else []
      before ++
        if b.2 < a.2 then without ((nextCode b.2, a.2) :: as) bs else without as (b :: bs)
termination_by a b => a.length + b.length

/-- The code points in one of two sets but not in both. -/
def symmDiff (a b : CodeRanges) : CodeRanges := (a.union b).without (a.inter b)

/-- The range between two bounds, whichever of them is smaller. -/
def between (a b : Nat) : Nat × Nat := if a ≤ b then (a, b) else (b, a)

/-- The ranges behind `last` that are not covered. -/
def gapsBehind (last : Nat) : CodeRanges → CodeRanges
  | [] => if last < maxCode then [(nextCode last, maxCode)] else []
  | r :: ranges => between (nextCode last) (prevCode r.1) :: gapsBehind r.2 ranges

/-- The code points that are not in a set.  Where two ranges leave out only numbers that no character
    has, the two code points on the sides of the gap are taken in. -/
def complement : CodeRanges → CodeRanges
  | [] => full
  | r :: ranges =>
    (if 0 < r.1 then [(0, prevCode r.1)] else []) ++ gapsBehind r.2 ranges

end CodeRanges

end PipedQuery
