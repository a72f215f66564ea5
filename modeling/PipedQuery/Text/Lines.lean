/-!
# Lines and slices

The lines of a text, and the part of it between two byte offsets.
-/

namespace PipedQuery

/-- The lines of a text without their ends.  A carriage return belongs to the end of a line if a
    line feed follows it, and a line feed at the end of the text starts no further line. -/
def textLines : List Char → List (List Char)
  | [] => []
  | '\n' :: cs => [] :: textLines cs
  | '\r' :: '\n' :: cs => [] :: textLines cs
  | c :: cs =>
    match textLines cs with
    | [] => [[c]]
    | line :: lines => (c :: line) :: lines

/-- What is left behind the first `n` bytes, if they are whole characters. -/
def dropBytes : Nat → List Char → Option (List Char)
  | 0, cs => some cs
  | _, [] => none
  | n, c :: cs => if c.utf8Size ≤ n then dropBytes (n - c.utf8Size) cs else none

/-- The first `n` bytes, if they are whole characters. -/
def takeBytes : Nat → List Char → Option (List Char)
  | 0, _ => some []
  | _, [] => none
  | n, c :: cs =>
    if c.utf8Size ≤ n then (takeBytes (n - c.utf8Size) cs).map (c :: ·) else none

/-- The part of a text between two byte offsets, if they are in order and both lie between
    characters. -/
def sliceBytes (start stop : Nat) (cs : List Char) : Option (List Char) :=
  if start ≤ stop then (dropBytes start cs).bind (takeBytes (stop - start)) else none

end PipedQuery
