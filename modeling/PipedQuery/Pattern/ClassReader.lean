import PipedQuery.Pattern.Reader

/-!
# Classes in brackets

Reads `[...]` with its ranges, named classes, nested classes and set operations.  Operations are
taken from the left.
-/

namespace PipedQuery.Pattern

/-- The names that may stand in `[:...:]`. -/
def classNames : List (List Char) :=
  ["alnum", "alpha", "ascii", "blank", "cntrl", "digit", "graph", "lower", "print", "punct", "space",
    "upper", "word", "xdigit"].map String.toList

/-- A class that is still open: the operation that its members are an operand of, with the other
    operand, and the members, last ones first. -/
structure OpenClass where
  negated : Bool
  left : Option (SetOp × ClassSet)
  items : List ClassItem

namespace OpenClass

/-- The set as read so far. -/
def set (c : OpenClass) : ClassSet :=
  match c.left with
  | none => .union c.items.reverse
  | some (op, left) => .combined op left (.union c.items.reverse)

/-- The class with one more member. -/
def push (c : OpenClass) (item : ClassItem) : OpenClass := { c with items := item :: c.items }

/-- The class with what was read so far as the left operand of an operation. -/
def operate (c : OpenClass) (op : SetOp) : OpenClass :=
  { c with left := some (op, c.set), items := [] }

end OpenClass

/-- The class `[:name:]` or `[:^name:]` at the front of a text, and what follows it.  A text that is
    not of this form is no mistake, for it may start a nested class. -/
def namedClass? : List Char → Option (ClassItem × List Char)
  | '[' :: ':' :: cs =>
    let negated := cs.head? = some '^'
    let cs := if negated then cs.tail else cs
    let name := cs.takeWhile (· ≠ ':')
    match cs.dropWhile (· ≠ ':') with
    | ':' :: ']' :: rest =>
      if classNames.contains name then some (.named (String.ofList name) negated, rest) else none
    | _ => none
  | _ => none

/-- The first character behind a hyphen that counts for it.  In spaced mode that is neither a blank
    nor the sign that starts a comment. -/
def behindHyphen? (spaced : Bool) (cs : List Char) : Option Char :=
  if spaced then
    match cs.dropWhile isWhite with
    | '#' :: ds => (ds.dropWhile isWhite).head?
    | ds => ds.head?
  else cs.head?

namespace Reader

/-- The start of a class.  Hyphens there are members, and so is a closing bracket. -/
def openClass : Reader OpenClass := do
  advance
  needMore .classUnclosed
  let negated := (← next?) = some '^'
  if negated then
    advance
    needMore .classUnclosed
  let hyphens ← run (· = '-')
  needMore .classUnclosed
  if hyphens.isEmpty && (← next?) = some ']' then
    advance
    needMore .classUnclosed
    return ⟨negated, none, [.atom (.letter ⟨']', false⟩)]⟩
  return ⟨negated, none, hyphens.map fun c => .atom (.letter ⟨c, false⟩)⟩

/-- One end of a range, or a member that is no range. -/
def classAtom : Reader Atom := do
  match ← next? with
  | none => throw .classUnclosed
  | some c =>
    if c = '\\' then escape
    else
      pass
      return .letter ⟨c, false⟩

/-- A letter, as the end of a range has to be one. -/
def rangeEnd : Atom → Reader Letter
  | .letter l => return l
  | _ => throw .rangeEndInvalid

/-- Whether a hyphen comes next that makes a range.  One does not if a closing bracket or another
    hyphen follows it. -/
def atRange : Reader Bool := do
  match ← rest with
  | '-' :: cs =>
    let behind := behindHyphen? (← get).spaced cs
    return behind ≠ some ']' && behind ≠ some '-'
  | _ => return false

/-- A character, a range, or a class with a backslash. -/
def classItem : Reader ClassItem := do
  let first ← classAtom
  skipSpace
  needMore .classUnclosed
  if ← atRange then
    advance
    needMore .classUnclosed
    let last ← classAtom
    let low ← rangeEnd first
    let high ← rangeEnd last
    unless low.char ≤ high.char do
      throw .rangeReversed
    return .range low high
  match first with
  | .assertion _ => throw .classEscapeInvalid
  | atom => return .atom atom

/-- Goes on with a class inside of others, or ends the outermost one. -/
def classStep (classes : OpenClass × List OpenClass) :
    Reader ((OpenClass × List OpenClass) ⊕ OpenClass) := do
  let (c, outer) := classes
  skipSpace
  match ← rest with
  | [] => throw .classUnclosed
  | '&' :: '&' :: cs =>
    moveTo cs
    return .inl (c.operate .intersection, outer)
  | '-' :: '-' :: cs =>
    moveTo cs
    return .inl (c.operate .difference, outer)
  | '~' :: '~' :: cs =>
    moveTo cs
    return .inl (c.operate .symmetricDifference, outer)
  | ']' :: cs =>
    moveTo cs
    match outer with
    | [] => return .inr c
    | d :: outer => return .inl (d.push (.bracketed c.negated c.set), outer)
  | '[' :: cs =>
    match namedClass? ('[' :: cs) with
    | some (item, rest) =>
      moveTo rest
      return .inl (c.push item, outer)
    | none => return .inl (← openClass, c :: outer)
  | _ => return .inl (c.push (← classItem), outer)

/-- A class, from its opening bracket on. -/
def bracketed : Reader Tree := do
  let c ← loop .classUnclosed classStep (← openClass, [])
  return .bracketed c.negated c.set

end Reader

end PipedQuery.Pattern
