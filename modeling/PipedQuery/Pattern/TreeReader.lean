import PipedQuery.Pattern.ClassReader
import PipedQuery.Unicode.BinaryProperty

/-!
# Reading patterns

`Tree.ofText?` reads a regular expression.  It gives the tree, or the first flaw from the left.
-/

namespace PipedQuery.Pattern

/-- A group that is still open: its kind, the mode to return to behind it, and what was read before
    it, last parts and last options first. -/
structure OpenGroup where
  kind : GroupKind
  spaced : Bool
  options : List Tree
  parts : List Tree

/-- A pattern read in part: the groups that are open, and the options and parts in the innermost of
    them, last ones first.  The names are those of all groups so far. -/
structure OpenTree where
  outer : List OpenGroup
  options : List Tree
  parts : List Tree
  names : List String

namespace OpenTree

/-- The start of a pattern. -/
def start : OpenTree := ⟨[], [], [], []⟩

/-- The pattern with one more part. -/
def push (t : OpenTree) (part : Tree) : OpenTree := { t with parts := part :: t.parts }

/-- What was read in the innermost group. -/
def inner (t : OpenTree) : Tree :=
  .ofOptions (Tree.ofParts t.parts.reverse :: t.options).reverse

/-- The pattern at the start of another option. -/
def nextOption (t : OpenTree) : OpenTree :=
  { t with options := Tree.ofParts t.parts.reverse :: t.options, parts := [] }

/-- The pattern at the start of a group. -/
def openGroup (t : OpenTree) (kind : GroupKind) (spaced : Bool) : OpenTree :=
  { t with outer := ⟨kind, spaced, t.options, t.parts⟩ :: t.outer, options := [], parts := [] }

/-- The pattern with its last part repeated.  There has to be one that is no flag directive. -/
def repeatLast (t : OpenTree) (marked : Bool) (low : Nat) (high : Option Nat) :
    Except Flaw OpenTree :=
  match t.parts with
  | [] | .flags _ :: _ => .error .nothingToRepeat
  | part :: parts => .ok { t with parts := .repeated part marked low high :: parts }

end OpenTree

/-- The ranges of the alphabetic characters. -/
def alphabeticRanges : CodeRanges := Unicode.alphabetic.ranges

/-- The ranges of the numerals. -/
def numericRanges : CodeRanges := Unicode.number.ranges

/-- Whether the character may stand in the name of a group. -/
def isGroupNameChar (first : Bool) (c : Char) : Bool :=
  if first then c = '_' || alphabeticRanges.contains c
  else c = '_' || c = '.' || c = '[' || c = ']' || alphabeticRanges.contains c ||
    numericRanges.contains c

/-- The name of a group up to its closing bracket, and what follows that. -/
def groupName (first : Bool) : List Char → Except Flaw (List Char × List Char)
  | [] => .error .groupNameUnclosed
  | c :: cs =>
    if c = '>' then .ok ([], cs)
    else if isGroupNameChar first c then do
      let (name, rest) ← groupName false cs
      return (c :: name, rest)
    else .error .groupNameInvalid

/-- Flags up to the colon or parenthesis that ends them, that character, and what follows it. -/
def flagItems (items : List FlagItem) : List Char → Except Flaw (List FlagItem × Char × List Char)
  | [] => .error .flagsUnclosed
  | c :: cs =>
    if c = ':' || c = ')' then
      if items.getLast? = some .negation then .error .negationDangling else .ok (items, c, cs)
    else if c = '-' then
      if items.contains .negation then .error .negationRepeated
      else flagItems (items ++ [.negation]) cs
    else
      match Flag.ofChar? c with
      | none => .error .flagUnknown
      | some f =>
        if items.contains (.flag f) then .error .flagRepeated
        else flagItems (items ++ [.flag f]) cs

/-- Whether a group that starts this way looks ahead or behind. -/
def looksAround : List Char → Bool
  | '?' :: '=' :: _ | '?' :: '!' :: _ | '?' :: '<' :: '=' :: _ | '?' :: '<' :: '!' :: _ => true
  | _ => false

namespace Reader

/-- A number in the braces of a repetition, with blanks around it.  The flaw of a number that is
    missing or too large is given, not raised. -/
def count : Reader (Except Flaw Nat) := do
  moveTo ((← rest).dropWhile isWhite)
  let digits ← run Char.isDigit
  let _ ← run isWhite
  if digits.isEmpty then return .error .countEmpty
  let n := number 10 digits
  return if n < Nat.pow 2 32 then .ok n else .error .countTooLarge

/-- The numbers in the braces of a repetition, from the opening brace on. -/
def counts : Reader (Nat × Option Nat) := do
  advance
  needMore .countUnclosed
  let low ← count
  needMore .countUnclosed
  if (← next?) = some ',' then
    advance
    needMore .countUnclosed
    if (← next?) = some '}' then return (← ofExcept low, none)
    let low ← ofExcept low
    let high ← ofExcept (← count)
    return (low, some high)
  let low ← ofExcept low
  return (low, some low)
where
  /-- The value, or the flaw that stops the reader. -/
  ofExcept : Except Flaw Nat → Reader Nat
    | .ok n => return n
    | .error flaw => throw flaw

/-- Whether the mark comes next that turns round whether a repetition is lazy.  Passes over it. -/
def laziness : Reader Bool := do
  let marked := (← next?) = some '?'
  if marked then pass
  return marked

/-- A repetition with a sign of its own. -/
def signRepetition (t : OpenTree) (low : Nat) (high : Option Nat) : Reader OpenTree := do
  let _ ← t.repeatLast false low high
  pass
  t.repeatLast (← laziness) low high

/-- A repetition with numbers in braces. -/
def countRepetition (t : OpenTree) : Reader OpenTree := do
  let _ ← t.repeatLast false 0 none
  let (low, high) ← counts
  unless (← next?) = some '}' do
    throw .countUnclosed
  advance
  let marked ← laziness
  unless high.all (low ≤ ·) do
    throw .countReversed
  t.repeatLast marked low high

/-- A named group, from its name on. -/
def namedGroup (t : OpenTree) (cs : List Char) : Reader OpenTree := do
  let (name, rest) ← groupName true cs
  moveTo rest
  if name.isEmpty then throw .groupNameEmpty
  let name := String.ofList name
  if t.names.contains name then throw .groupNameTaken
  return { t.openGroup (.named name) (← get).spaced with names := name :: t.names }

/-- A group with flags or a flag directive, from the flags on. -/
def flagGroup (t : OpenTree) (cs : List Char) : Reader OpenTree := do
  if cs.isEmpty then throw .groupUnclosed
  let (items, stop, rest) ← flagItems [] cs
  let spaced := (← get).spaced
  set (Cursor.mk (flagAfter .spaced items spaced) rest)
  if stop = ':' then return t.openGroup (.flagged items) spaced
  if items.isEmpty then throw .nothingToRepeat
  return t.push (.flags items)

/-- A group or flag directive, from the opening parenthesis on. -/
def openGroup (t : OpenTree) : Reader OpenTree := do
  advance
  let cs ← rest
  if looksAround cs then throw .lookAround
  match cs with
  | '?' :: 'P' :: '<' :: cs => namedGroup t cs
  | '?' :: '<' :: cs => namedGroup t cs
  | '?' :: cs => flagGroup t cs
  | _ => return t.openGroup .numbered (← get).spaced

/-- The end of a group, at the closing parenthesis. -/
def closeGroup (t : OpenTree) : Reader OpenTree := do
  match t.outer with
  | [] => throw .groupUnopened
  | g :: outer =>
    set (Cursor.mk g.spaced (← rest).tail)
    return ⟨outer, g.options, .group g.kind t.inner :: g.parts, t.names⟩

/-- Goes on with a pattern, or ends it. -/
def treeStep (t : OpenTree) : Reader (OpenTree ⊕ Tree) := do
  skipSpace
  match ← next? with
  | none => if t.outer.isEmpty then return .inr t.inner else throw .groupUnclosed
  | some c =>
    match c with
    | '(' => return .inl (← openGroup t)
    | ')' => return .inl (← closeGroup t)
    | '|' =>
      pass
      return .inl t.nextOption
    | '[' => return .inl (t.push (← bracketed))
    | '?' => return .inl (← signRepetition t 0 (some 1))
    | '*' => return .inl (← signRepetition t 0 none)
    | '+' => return .inl (← signRepetition t 1 none)
    | '{' => return .inl (← countRepetition t)
    | '\\' => return .inl (t.push (.atom (← escape)))
    | '.' =>
      pass
      return .inl (t.push (.atom .dot))
    | '^' =>
      pass
      return .inl (t.push (.atom (.assertion .lineStart)))
    | '$' =>
      pass
      return .inl (t.push (.atom (.assertion .lineEnd)))
    | c =>
      pass
      return .inl (t.push (.atom (.letter ⟨c, false⟩)))

end Reader

/-- Reads a pattern. -/
def Tree.ofText? (text : String) : Except Flaw Tree :=
  (Reader.loop .groupUnclosed Reader.treeStep .start ⟨false, text.toList⟩).map (·.1)

end PipedQuery.Pattern
