import PipedQuery.Text.CodeRange

/-!
# Bytes of characters

Automata read bytes, so a range of code points is cut into pieces such that the encoded characters of
a piece are those that have some first byte, some second byte and so on, each from a range of bytes.
-/

namespace PipedQuery.Pattern

/-- An inclusive range of bytes. -/
abbrev ByteRange := Nat × Nat

/-- The bytes of an encoded code point. -/
def encode (n : Nat) : List Nat :=
  if n < 0x80 then [n]
  else if n < 0x800 then [0xc0 + n / 0x40, 0x80 + n % 0x40]
  else if n < 0x10000 then [0xe0 + n / 0x1000, 0x80 + n / 0x40 % 0x40, 0x80 + n % 0x40]
  else
    [0xf0 + n / 0x40000, 0x80 + n / 0x1000 % 0x40, 0x80 + n / 0x40 % 0x40, 0x80 + n % 0x40]

/-- The parts of a range up to a bound and behind it. -/
def cutBehind (bound : Nat) (r : Nat × Nat) : List (Nat × Nat) :=
  if r.1 ≤ bound && bound < r.2 then [(r.1, bound), (bound + 1, r.2)] else [r]

/-- The parts of a range whose code points have characters. -/
def withoutSurrogates (r : Nat × Nat) : List (Nat × Nat) :=
  if r.1 < 0xe000 && 0xd7ff < r.2 then
    [(r.1, 0xd7ff), (0xe000, r.2)].filter fun r => r.1 ≤ r.2
  else [r]

/-- A range cut into blocks of `size` code points and what is left at its ends.  Neighbouring blocks
    are cut in the same way into blocks of 64 times the size, and so on for some levels.  A range
    inside of one block is left whole. -/
def blocks : Nat → Nat → Nat × Nat → List (Nat × Nat)
  | 0, _, r => [r]
  | level + 1, size, (low, high) =>
    if low / size = high / size then [(low, high)]
    else
      let first := if low % size = 0 then low else (low / size + 1) * size
      let stop := if high % size = size - 1 then high + 1 else high / size * size
      (if low < first then [(low, first - 1)] else []) ++
        (if first < stop then blocks level (size * 0x40) (first, stop - 1) else []) ++
        if stop ≤ high then [(stop, high)] else []

/-- The pieces of a range of code points whose encodings have one length, in order. -/
def pieces (r : Nat × Nat) : List (Nat × Nat) :=
  let parts := (((withoutSurrogates r).flatMap (cutBehind 0x7f)).flatMap (cutBehind 0x7ff)).flatMap
    (cutBehind 0xffff)
  parts.flatMap fun p => if p.2 < 0x80 then [p] else blocks 3 0x40 p

/-- The ranges of bytes that make up the characters of some ranges, from the first byte on. -/
def byteRanges (ranges : CodeRanges) : List (List ByteRange) :=
  (ranges.flatMap pieces).map fun p => (encode p.1).zip (encode p.2)

end PipedQuery.Pattern
