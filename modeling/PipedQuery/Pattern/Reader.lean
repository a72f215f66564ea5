import PipedQuery.Pattern.Flaw
import PipedQuery.Pattern.Tree

/-!
# Readers of patterns

A reader takes characters from the front of a pattern, or gives the flaw that stops it.  In spaced
mode blanks do not count, nor do comments, which reach from `#` to the end of the line.

`Reader.loop` repeats a step no more often than there are characters, so every reader ends.
-/

namespace PipedQuery.Pattern

/-- The white space of Unicode. -/
def isWhite (c : Char) : Bool :=
  let n := c.toNat
  decide (9 ≤ n ∧ n ≤ 13) || n == 0x20 || n == 0x85 || n == 0xa0 || n == 0x1680 ||
    decide (0x2000 ≤ n ∧ n ≤ 0x200a) || n == 0x2028 || n == 0x2029 || n == 0x202f ||
    n == 0x205f || n == 0x3000

/-- Drops blanks and comments, starting inside of a comment or not. -/
def dropSpace (inComment : Bool) : List Char → List Char
  | [] => []
  | c :: cs =>
    if inComment then dropSpace (c ≠ '\n') cs
    else if isWhite c then dropSpace false cs
    else if c = '#' then dropSpace true cs
    else c :: cs

theorem length_dropSpace_le (inComment : Bool) (cs : List Char) :
    (dropSpace inComment cs).length ≤ cs.length := by
  induction cs generalizing inComment with
  | nil => simp [dropSpace]
  | cons c cs ih =>
    rw [dropSpace]
    split
    · exact Nat.le_succ_of_le (ih _)
    · split
      · exact Nat.le_succ_of_le (ih _)
      · split
        · exact Nat.le_succ_of_le (ih _)
        · exact Nat.le_refl _

/-- Drops what does not count. -/
def dropUncounted (spaced : Bool) (cs : List Char) : List Char :=
  if spaced then dropSpace false cs else cs

theorem length_dropUncounted_le (spaced : Bool) (cs : List Char) :
    (dropUncounted spaced cs).length ≤ cs.length := by
  rw [dropUncounted]
  split
  · exact length_dropSpace_le _ _
  · exact Nat.le_refl _

/-- Splits a run of characters off, and drops what does not count behind each of them. -/
def splitRun (spaced : Bool) (p : Char → Bool) : List Char → List Char × List Char
  | [] => ([], [])
  | c :: cs =>
    if p c then
      let (run, rest) := splitRun spaced p (dropUncounted spaced cs)
      (c :: run, rest)
    else ([], c :: cs)
termination_by cs => cs.length
decreasing_by exact Nat.lt_succ_of_le (length_dropUncounted_le _ _)

/-- What is left of a pattern, and whether it is read in spaced mode. -/
structure Cursor where
  spaced : Bool
  rest : List Char

/-- A reader of values of type `α` from the front of a pattern. -/
abbrev Reader (α : Type) : Type := StateT Cursor (Except Flaw) α

namespace Reader

/-- The characters that are left. -/
def rest : Reader (List Char) := return (← get).rest

/-- The next character. -/
def next? : Reader (Option Char) := return (← get).rest.head?

/-- Puts the reader in front of other characters. -/
def moveTo (cs : List Char) : Reader Unit := modify fun s => { s with rest := cs }

/-- Passes over what does not count. -/
def skipSpace : Reader Unit := modify fun s => { s with rest := dropUncounted s.spaced s.rest }

/-- Passes over one character. -/
def pass : Reader Unit := modify fun s => { s with rest := s.rest.tail }

/-- Passes over one character and what does not count behind it. -/
def advance : Reader Unit := do
  pass
  skipSpace

/-- Stops if nothing is left. -/
def needMore (flaw : Flaw) : Reader Unit := do
  if (← rest).isEmpty then throw flaw

/-- Reads a run of characters, passing over what does not count behind each of them. -/
def run (p : Char → Bool) : Reader (List Char) := do
  let s ← get
  let (run, rest) := splitRun s.spaced p s.rest
  moveTo rest
  return run

/-- Repeats a step until it gives a result, but not more often than the number says.  Then it stops
    with the given flaw. -/
def loopUpTo {σ β : Type} (idle : Flaw) (step : σ → Reader (σ ⊕ β)) : Nat → σ → Reader β
  | 0, _ => throw idle
  | n + 1, a => do
    match ← step a with
    | .inr b => return b
    | .inl a => loopUpTo idle step n a

/-- Repeats a step until it gives a result.  Every step but the last one has to read something, so
    there are no more of them than characters and one; if there are, a step was idle, and the loop
    stops with the given flaw. -/
def loop {σ β : Type} (idle : Flaw) (step : σ → Reader (σ ⊕ β)) (a : σ) : Reader β := do
  loopUpTo idle step ((← rest).length + 1) a

/-- The number that some digits stand for. -/
def number (base : Nat) (digits : List Char) : Nat :=
  digits.foldl (fun n c => n * base + digitValue c) 0
where
  /-- The value of a decimal or hexadecimal digit. -/
  digitValue (c : Char) : Nat :=
    if c.isDigit then c.toNat - '0'.toNat
    else if 'a' ≤ c then c.toNat - 'a'.toNat + 10
    else c.toNat - 'A'.toNat + 10

/-- Whether the character is a hexadecimal digit. -/
def isHexDigit (c : Char) : Bool :=
  c.isDigit || decide ('a' ≤ c ∧ c ≤ 'f') || decide ('A' ≤ c ∧ c ≤ 'F')

/-- A fixed number of hexadecimal digits. -/
def hexDigits : Nat → Reader (List Char)
  | 0 => return []
  | n + 1 => do
    match ← next? with
    | none => throw .escapeCut
    | some c =>
      unless isHexDigit c do
        throw .hexDigitInvalid
      advance
      return c :: (← hexDigits n)

/-- Hexadecimal digits in braces, from the opening brace on. -/
def bracedHexDigits : Reader (List Char) := do
  advance
  let digits ← run isHexDigit
  match ← next? with
  | none => throw .escapeCut
  | some '}' =>
    advance
    if digits.isEmpty then throw .hexEmpty
    return digits
  | some _ => throw .hexDigitInvalid

/-- The character that some hexadecimal digits stand for. -/
def scalar (digits : List Char) : Reader Char := do
  let n := number 16 digits
  unless n.isValidChar do
    throw .hexNoCharacter
  return Char.ofNat n

/-- A character by its number, from the letter behind the backslash on.  The number of digits tells
    how many there are without braces. -/
def hexLetter (digits : Nat) : Reader Letter := do
  advance
  match ← next? with
  | none => throw .escapeCut
  | some '{' => return ⟨← scalar (← bracedHexDigits), false⟩
  | some _ => return ⟨← scalar (← hexDigits digits), digits == 2⟩

/-- The first place of a text behind which `separator` follows, and what follows it. -/
def splitAt? (separator : List Char) : List Char → Option (List Char × List Char)
  | [] => none
  | c :: cs =>
    if separator.isPrefixOf (c :: cs) then some ([], (c :: cs).drop separator.length)
    else (splitAt? separator cs).map fun (before, behind) => (c :: before, behind)

/-- The property with the given text between its braces. -/
def propertyOfText (cs : List Char) : Property :=
  match (splitAt? ['!', '='] cs).or ((splitAt? [':'] cs).or (splitAt? ['='] cs)) with
  | some (name, value) => .valued (String.ofList name) (String.ofList value)
  | none => .named (String.ofList cs)

/-- A property, from the letter behind the backslash on. -/
def property : Reader Property := do
  advance
  match ← next? with
  | none => throw .escapeCut
  | some '{' =>
    advance
    let text ← run (· ≠ '}')
    needMore .escapeCut
    pass
    return propertyOfText text
  | some '\\' => throw .propertyInvalid
  | some c =>
    pass
    return .named (String.singleton c)

/-- Whether the character may stand in the name of a special word boundary. -/
def isBoundaryChar (c : Char) : Bool := c.isAlpha || c = '-'

/-- The special word boundary with the given name. -/
def boundaryNamed? (name : List Char) : Option Assertion :=
  match String.ofList name with
  | "start" => some .wordStart
  | "end" => some .wordEnd
  | "start-half" => some .wordStartHalf
  | "end-half" => some .wordEndHalf
  | _ => none

/-- A word boundary, behind whose letter there may be the name of a special one in braces.  Braces
    that hold no name are left alone, for they count a repetition. -/
def boundary : Reader Assertion := do
  let start ← rest
  if start.head? = some '{' then
    advance
    match ← next? with
    | none => throw .boundaryCut
    | some c =>
      if isBoundaryChar c then
        let name ← run isBoundaryChar
        unless (← next?) = some '}' do
          throw .boundaryUnclosed
        pass
        match boundaryNamed? name with
        | some a => return a
        | none => throw .boundaryUnknown
      moveTo start
  return .wordBoundary

/-- Whether a backslash takes away the meaning of the character.  It does so for the ASCII
    characters that are neither letters nor digits, but angle brackets are word boundaries. -/
def isEscapable (c : Char) : Bool :=
  decide (c.toNat < 0x80) && !c.isAlphanum && c ≠ '<' && c ≠ '>'

/-- An escape, from the backslash on. -/
def escape : Reader Atom := do
  pass
  match ← next? with
  | none => throw .escapeCut
  | some c =>
    if c.isDigit then throw .backReference
    if c = 'x' then return .letter (← hexLetter 2)
    if c = 'u' then return .letter (← hexLetter 4)
    if c = 'U' then return .letter (← hexLetter 8)
    if c = 'p' || c = 'P' then return .property (← property) (c = 'P')
    pass
    if isEscapable c then return .letter ⟨c, false⟩
    match c with
    | 'd' => return .shorthand .digit false
    | 's' => return .shorthand .space false
    | 'w' => return .shorthand .word false
    | 'D' => return .shorthand .digit true
    | 'S' => return .shorthand .space true
    | 'W' => return .shorthand .word true
    | 'a' => return .letter ⟨'\x07', false⟩
    | 'f' => return .letter ⟨'\x0c', false⟩
    | 't' => return .letter ⟨'\t', false⟩
    | 'n' => return .letter ⟨'\n', false⟩
    | 'r' => return .letter ⟨'\r', false⟩
    | 'v' => return .letter ⟨'\x0b', false⟩
    | 'b' => return .assertion (← boundary)
    | 'A' => return .assertion .textStart
    | 'z' => return .assertion .textEnd
    | 'B' => return .assertion .noWordBoundary
    | '<' => return .assertion .wordStart
    | '>' => return .assertion .wordEnd
    | _ => throw .escapeUnknown

end Reader

end PipedQuery.Pattern
