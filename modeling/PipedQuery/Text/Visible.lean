import PipedQuery.Text.Unprintable
import PipedQuery.Unicode.BinaryProperty

/-!
# Visible spellings

Listings and messages show a text so that every character of it can be told: controls and other
characters without a glyph are written as escapes, and so is a combining character where it would
attach to a quote.
-/

namespace PipedQuery

/-- The escape that spells the code point of a character. -/
def unicodeEscape (c : Char) : List Char :=
  '\\' :: 'u' :: '\x7b' :: Nat.toDigits 16 c.toNat ++ ['\x7d']

/-- The ranges of the characters that attach to the one in front of them. -/
def graphemeExtendRanges : CodeRanges := Unicode.graphemeExtend.ranges

/-- Whether a character has a glyph that stands for itself alone. -/
def isVisible (c : Char) : Bool :=
  if c.toNat < 0x7f then decide (0x20 ≤ c.toNat)
  else !graphemeExtendRanges.contains c && !unprintableRanges.contains c

/-- The spelling of a character between double quotes. -/
def spellQuoted (c : Char) : List Char :=
  if c = '\x00' then ['\\', '0']
  else if c = '\t' then ['\\', 't']
  else if c = '\r' then ['\\', 'r']
  else if c = '\n' then ['\\', 'n']
  else if c = '\\' || c = '"' then ['\\', c]
  else if isVisible c then [c]
  else unicodeEscape c

/-- A text between double quotes, with every character visible. -/
def visibleQuoted (s : String) : String :=
  String.ofList ('"' :: s.toList.flatMap spellQuoted ++ ['"'])

/-- The spelling of a character that stands alone, where a single quote is escaped too. -/
def spellAlone (c : Char) : List Char :=
  if c = '\'' then ['\\', '\''] else spellQuoted c

/-- The spelling of a text of one character. -/
def visibleAlone (s : String) : String := String.ofList (s.toList.flatMap spellAlone)

end PipedQuery
