import PipedQuery.Expr
import PipedQuery.Grammar.Basic

/-!
# Names and constants

The smallest parts of commands and expressions: dotted names, numbers, strings and truth values.
-/

namespace PipedQuery

/-- The largest integer constant.  A longer number becomes a decimal. -/
def maxInt : Nat := Nat.pow 2 63 - 1

/-- The number that a run of digits stands for. -/
def digitsValue (text : String) : Nat :=
  text.toList.foldl (fun n c => n * 10 + Decimal.digit c) 0

/-- The constant of a number lexeme: an integer if it has no point and is small enough, and
    otherwise an exact decimal, if one can hold it. -/
def numberLiteral? (l : Lexeme) : Option Literal :=
  if l.kind = .integer ∧ digitsValue l.text ≤ maxInt then some (.int (digitsValue l.text))
  else (Decimal.ofDigits? l.text).map .decimal

/-- The name that a lexeme gives to a part of a dotted name.  Not every keyword may be one where
    `anyKeyword` is off. -/
def namePart? (anyKeyword : Bool) (l : Lexeme) : Option String :=
  match l.kind with
  | .identifier | .datedName => some l.text
  | .quoted .backtick => some (unquote l.text).value
  | .keyword k => if anyKeyword || k.canNameField then some l.text else none
  | _ => none

namespace Parser

variable {σ : Type} [Input σ]

/-- The part of a name that comes next, if one does behind a dot. -/
def nextPart? (ts : List Lexeme) : Option String :=
  match ts with
  | dot :: l :: _ => if dot.kind = .mark .dot then namePart? true l else none
  | _ => none

/-- Passes over a dot and the part of a name behind it, if both come next. -/
def dottedPart? : Parser σ (Option String) := do
  match nextPart? (← lexemes) with
  | some part =>
    skip 2
    return some part
  | none => return none

/-- A dotted name.  Every keyword may stand behind a dot, and at the start of a source name too. -/
def qualifiedName (source : Bool) : Parser σ String := do
  match (← peek).bind (namePart? source) with
  | none => fail (.expected (if source then .sourceName else .fieldName))
  | some first =>
    skip 1
    iterate (fun name => do
      match ← dottedPart? with
      | some part => return some (name ++ "." ++ part)
      | none => return none) first

/-- A field name. -/
def fieldName : Parser σ String := qualifiedName false

/-- The name behind `as`, if `as` comes next. -/
def alias? : Parser σ (Option String) := do
  if ← eatKeyword .as_ then
    return some (← fieldName)
  return none

/-- Passes over a number lexeme and gives its constant. -/
def number (l : Lexeme) : Parser σ Literal := do
  let place ← remaining
  skip 1
  match numberLiteral? l with
  | some literal => return literal
  | none => failAt place (.numberOutOfRange l.text)

/-- A number without a sign. -/
def plainNumber (what : Expected) : Parser σ Literal := do
  match ← peek with
  | some l => if l.kind.isNumber then number l else fail (.expected what)
  | none => fail (.expected what)

/-- A constant without a sign: a number, a string or a truth value. -/
def unsignedLiteral : Parser σ Literal := do
  match ← peek with
  | none => fail (.expected .literal)
  | some l =>
    match l.kind with
    | .integer | .decimal =>
      match numberLiteral? l with
      | some literal =>
        skip 1
        return literal
      | none => fail (.numberOutOfRange l.text)
    | .quoted .double | .quoted .single =>
      skip 1
      return .str (unquote l.text).value
    | .keyword .true_ =>
      skip 1
      return .bool true
    | .keyword .false_ =>
      skip 1
      return .bool false
    | _ => fail (.expected .literal)

/-- Whether a minus sign and a number come next. -/
def startsNegative (ts : List Lexeme) : Bool :=
  firstKind ts = some (.mark .minus) && (secondKind ts).any TokenKind.isNumber

/-- A constant: a number with an optional minus sign, a string or a truth value. -/
def literal : Parser σ Literal := do
  if startsNegative (← lexemes) then
    skip 1
    return (← unsignedLiteral).neg
  unsignedLiteral

/-- An integer. -/
def integer : Parser σ Int := do
  let place ← remaining
  match ← peek with
  | some l =>
    if l.kind = .integer then
      skip 1
      if digitsValue l.text ≤ maxInt then
        return (digitsValue l.text : Int)
      else failAt place (.integerOutOfRange l.text)
    else fail (.expected .integer)
  | none => fail (.expected .integer)

/-- An integer, if one comes next. -/
def integer? : Parser σ (Option Int) := do
  if ← check .integer then
    return some (← integer)
  return none

/-- A truth value. -/
def boolean : Parser σ Bool := do
  if ← eatKeyword .true_ then
    return true
  if ← eatKeyword .false_ then
    return false
  fail (.expected .boolean)

/-- The value of the string that comes next, if one does. -/
def string? : Parser σ (Option String) := do
  match ← peek with
  | some l =>
    if l.kind.isString then
      skip 1
      return some (unquote l.text).value
    return none
  | none => return none

/-- A string. -/
def string : Parser σ String := do
  match ← string? with
  | some s => return s
  | none => fail (.expected .string)

end Parser

end PipedQuery
