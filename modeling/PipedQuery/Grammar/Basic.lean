import PipedQuery.Grammar.Parser

/-!
# Single lexemes and lists

Looking at the next one or two lexemes, reading an expected one, and lists separated by commas.
-/

namespace PipedQuery

/-- The kind of the first lexeme. -/
def firstKind (ts : List Lexeme) : Option TokenKind := ts.head?.map (·.kind)

/-- The kind of the second lexeme. -/
def secondKind (ts : List Lexeme) : Option TokenKind := ts.tail.head?.map (·.kind)

/-- Whether `name=` comes next for the keyword `k`. -/
def startsOption (k : Keyword) (ts : List Lexeme) : Bool :=
  firstKind ts = some (.keyword k) && secondKind ts = some (.mark .equal)

/-- Whether a word and `=` come next. -/
def startsAssignment (ts : List Lexeme) : Bool :=
  (match firstKind ts with
    | some .identifier | some (.keyword _) => true
    | _ => false) &&
  secondKind ts = some (.mark .equal)

namespace Parser

variable {σ α β : Type} [Input σ]

/-- Whether a lexeme of the given kind comes next. -/
def check (kind : TokenKind) : Parser σ Bool := do
  return firstKind (← lexemes) = some kind

/-- Passes over a lexeme of the given kind if one comes next, and tells whether it did. -/
def eat (kind : TokenKind) : Parser σ Bool := do
  if ← check kind then
    skip 1
    return true
  return false

/-- Passes over the given mark if it comes next. -/
def eatMark (m : Mark) : Parser σ Bool := eat (.mark m)

/-- Passes over the given keyword if it comes next. -/
def eatKeyword (k : Keyword) : Parser σ Bool := eat (.keyword k)

/-- Passes over a lexeme of the given kind, which has to come next. -/
def expect (kind : TokenKind) : Parser σ Unit := do
  unless ← eat kind do
    fail (.expected (.token kind))

/-- Passes over the given mark, which has to come next. -/
def expectMark (m : Mark) : Parser σ Unit := expect (.mark m)

/-- Passes over the given keyword, which has to come next. -/
def expectKeyword (k : Keyword) : Parser σ Unit := expect (.keyword k)

/-- Whether `name=` comes next for the keyword `k`. -/
def atOption (k : Keyword) : Parser σ Bool := do
  return startsOption k (← lexemes)

/-- Whether a word and `=` come next. -/
def atAssignment : Parser σ Bool := do
  return startsAssignment (← lexemes)

/-- Repeats `item` behind each comma that follows. -/
def behindCommas (item : β → Parser σ β) (b : β) : Parser σ β :=
  iterate (fun b => do
    if ← eatMark .comma then
      return some (← item b)
    return none) b

/-- One or more items separated by commas, threading a value through them. -/
def separated (item : β → Parser σ β) (b : β) : Parser σ β := do
  behindCommas item (← item b)

/-- One or more items separated by commas. -/
def list (item : Parser σ α) : Parser σ (List α) := do
  let items ← separated (fun items => do return (← item) :: items) []
  return items.reverse

/-- One or more items separated by commas, keeping the items before a faulty one.  The first item
    has to be sound.  The issue of a later one is raised and the rest of the stage is passed over. -/
def lenientList (item : Parser σ α) : Parser σ (List α) := do
  let first ← item
  let items ← iterate (fun items => do
    unless ← eatMark .comma do
      return none
    match ← attempt item with
    | .ok a => return some (a :: items)
    | .error issue =>
      raise issue
      skipAll
      return none) [first]
  return items.reverse

end Parser

end PipedQuery
