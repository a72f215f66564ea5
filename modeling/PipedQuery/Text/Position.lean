/-!
# Places in a text

Offsets count UTF-8 bytes, columns count characters, and only a line feed starts a new line.
-/

namespace PipedQuery

/-- A half-open range of byte offsets. -/
structure Span where
  start : Nat
  stop : Nat
deriving DecidableEq

namespace Span

/-- The empty span at `offset`. -/
def point (offset : Nat) : Span := ⟨offset, offset⟩

/-- The number of bytes covered. -/
def size (s : Span) : Nat := s.stop - s.start

/-- Whether no byte is covered. -/
def isEmpty (s : Span) : Bool := s.start = s.stop

/-- The smallest span that covers both spans. -/
def cover (s t : Span) : Span := ⟨min s.start t.start, max s.stop t.stop⟩

end Span

/-- A place in a text: the bytes before it, and its line and column, counted from one. -/
structure Position where
  offset : Nat
  line : Nat
  column : Nat
deriving DecidableEq

namespace Position

/-- The start of a text. -/
def origin : Position := ⟨0, 1, 1⟩

/-- The place just behind the character `c`. -/
def next (p : Position) (c : Char) : Position :=
  if c = '\n' then ⟨p.offset + c.utf8Size, p.line + 1, 1⟩
  else ⟨p.offset + c.utf8Size, p.line, p.column + 1⟩

/-- The place behind all of `cs`. -/
def past (p : Position) (cs : List Char) : Position := cs.foldl next p

/-- The place with its line and column counted in 32 bits, which start again from zero when they are
    used up. -/
def wrapped (p : Position) : Position :=
  { p with line := p.line % UInt32.size, column := p.column % UInt32.size }

theorem past_nil (p : Position) : p.past [] = p := rfl

theorem past_cons (p : Position) (c : Char) (cs : List Char) :
    p.past (c :: cs) = (p.next c).past cs := rfl

theorem past_append (p : Position) (cs ds : List Char) :
    p.past (cs ++ ds) = (p.past cs).past ds := by
  simp [past]

end Position

end PipedQuery
