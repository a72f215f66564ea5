/-!
# Exact decimals

A decimal is a sign, a mantissa of at most 96 bits and a scale of at most 28 fraction digits.
The scale is kept, so that `1.50` is written back as `1.50`, and equality is numeric.

Digits are read from the left.  Before the point every digit has to fit.  Behind it, the first
digit that does not fit any more rounds the ones read so far and the rest is dropped.
-/

namespace PipedQuery

/-- A decimal number: the mantissa divided by ten to the power of the scale, with a sign that also
    a zero may carry. -/
structure Decimal where
  negative : Bool
  mantissa : Nat
  scale : Nat
deriving DecidableEq

namespace Decimal

/-- No mantissa reaches this bound. -/
def bound : Nat := Nat.pow 2 96

/-- The most fraction digits a decimal keeps. -/
def maxScale : Nat := 28

/-- The value of a decimal digit. -/
def digit (c : Char) : Nat := c.toNat - '0'.toNat

/-- Ends the reading at a digit that is not kept.  From five on it rounds up, and a mantissa that
    then is too large gives up its last digit if that stands behind the point. -/
def round (mantissa scale dropped : Nat) : Option Decimal :=
  if dropped < 5 then some ⟨false, mantissa, scale⟩
  else if mantissa + 1 < bound then some ⟨false, mantissa + 1, scale⟩
  else if scale = 0 then none
  else some ⟨false, (mantissa + 1 + 4) / 10, scale - 1⟩

/-- Reads the digits behind the point. -/
def readFraction (mantissa scale : Nat) : List Char → Option Decimal
  | [] => some ⟨false, mantissa, scale⟩
  | c :: cs =>
    if scale < maxScale ∧ mantissa * 10 + digit c < bound then
      readFraction (mantissa * 10 + digit c) (scale + 1) cs
    else round mantissa scale (digit c)

/-- Reads the digits before the point, and the fraction behind one. -/
def readWhole (mantissa : Nat) : List Char → Option Decimal
  | [] => some ⟨false, mantissa, 0⟩
  | c :: cs =>
    if c = '.' then readFraction mantissa 0 cs
    else if mantissa * 10 + digit c < bound then readWhole (mantissa * 10 + digit c) cs
    else none

/-- The decimal of a run of digits with at most one point inside it.  There is none if the digits
    before the point are too many. -/
def ofDigits? (text : String) : Option Decimal := readWhole 0 text.toList

/-- The number with its sign turned round. -/
def neg (d : Decimal) : Decimal := { d with negative := !d.negative }

/-- The decimal of a run of digits behind an optional sign.  A zero read this way has no sign. -/
def ofSigned? (text : String) : Option Decimal :=
  match text.toList with
  | '-' :: cs => (readWhole 0 cs).map fun d => if d.mantissa = 0 then d else d.neg
  | '+' :: cs => readWhole 0 cs
  | cs => readWhole 0 cs

/-- The decimal of an integer. -/
def ofInt (n : Int) : Decimal := ⟨decide (n < 0), n.natAbs, 0⟩

/-- The digits of the mantissa with a point before the last `scale` of them, and at least one digit
    before the point. -/
def digits (mantissa scale : Nat) : List Char :=
  let ds := Nat.toDigits 10 mantissa
  let padded := List.replicate (scale + 1 - ds.length) '0' ++ ds
  if scale = 0 then padded
  else padded.take (padded.length - scale) ++ '.' :: padded.drop (padded.length - scale)

/-- The number as it is written. -/
def text (d : Decimal) : String :=
  String.ofList ((if d.negative then ['-'] else []) ++ digits d.mantissa d.scale)

/-- The mantissa with its sign. -/
def signed (d : Decimal) : Int := if d.negative then -d.mantissa else d.mantissa

/-- Whether two decimals are the same number, whatever their scales and the signs of zeros. -/
def same (a b : Decimal) : Bool :=
  a.signed * Int.pow 10 b.scale = b.signed * Int.pow 10 a.scale

end Decimal

end PipedQuery
