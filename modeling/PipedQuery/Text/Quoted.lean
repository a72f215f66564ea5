/-!
# Quoted text

Strings stand between double or single quotes, and names that are not plain words stand between
backticks.  In all three styles a doubled quote stands for one quote.  A backslash takes the
character after it literally: in strings this holds for quotes and backslashes only and any other
pair is kept as written, so that the escapes of a regular expression survive.

`Quote.extent` finds where a quoted text ends, `unquote` decodes one, and `writeString` and
`writeBackticks` encode.
-/

namespace PipedQuery

/-- The three quoting styles. -/
inductive Quote where
  | double
  | single
  | backtick
deriving DecidableEq

namespace Quote

/-- The character that opens and closes the style. -/
def char : Quote → Char
  | .double => '"'
  | .single => '\''
  | .backtick => '`'

/-- The style that `c` opens. -/
def ofChar? (c : Char) : Option Quote :=
  if c = '"' then some .double
  else if c = '\'' then some .single
  else if c = '`' then some .backtick
  else none

/-- Splits the text behind an opening quote after the closing quote.  A text without one belongs
    to the quotation as a whole. -/
def extent (q : Quote) : List Char → List Char × List Char
  | [] => ([], [])
  | ['\\'] => (['\\'], [])
  | '\\' :: c :: cs =>
    let (body, rest) := q.extent cs
    ('\\' :: c :: body, rest)
  | [c] => ([c], [])
  | c :: d :: cs =>
    if c = q.char then
      if d = q.char then
        let (body, rest) := q.extent cs
        (c :: d :: body, rest)
      else ([c], d :: cs)
    else
      let (body, rest) := q.extent (d :: cs)
      (c :: body, rest)

/-- What a backslash and `c` stand for. -/
def escaped (q : Quote) (c : Char) : List Char :=
  if q = .backtick ∨ c = '"' ∨ c = '\'' ∨ c = '\\' then [c] else ['\\', c]

/-- Decodes the text behind an opening quote.  The flag tells whether it ends with the closing
    quote. -/
def decode (q : Quote) : List Char → List Char × Bool
  | [] => ([], false)
  | ['\\'] => (['\\'], false)
  | '\\' :: c :: cs =>
    let (value, terminated) := q.decode cs
    (q.escaped c ++ value, terminated)
  | [c] => if c = q.char then ([], true) else ([c], false)
  | c :: d :: cs =>
    if c = q.char then
      if d = q.char then
        let (value, terminated) := q.decode cs
        (c :: value, terminated)
      else ([], false)
    else
      let (value, terminated) := q.decode (d :: cs)
      (c :: value, terminated)

end Quote

/-- A decoded text, and whether its closing quote was there. -/
structure Unquoted where
  value : String
  terminated : Bool
deriving DecidableEq

/-- Decodes a quoted text.  A text that opens with no quote stands for itself, and the empty text
    lacks its quotes. -/
def unquote (text : String) : Unquoted :=
  match text.toList with
  | [] => ⟨"", false⟩
  | c :: cs =>
    match Quote.ofChar? c with
    | none => ⟨text, true⟩
    | some q => ⟨String.ofList (q.decode cs).1, (q.decode cs).2⟩

/-- Escapes quotes and backslashes for a single-quoted string. -/
def escapeString : List Char → List Char
  | [] => []
  | c :: cs => if c = '\'' ∨ c = '\\' then '\\' :: c :: escapeString cs else c :: escapeString cs

/-- Doubles backticks and backslashes for a backtick-quoted name. -/
def escapeBackticks : List Char → List Char
  | [] => []
  | c :: cs => if c = '`' ∨ c = '\\' then c :: c :: escapeBackticks cs else c :: escapeBackticks cs

/-- The single-quoted string that decodes to `s`. -/
def writeString (s : String) : String :=
  String.ofList ('\'' :: escapeString s.toList ++ ['\''])

/-- The backtick-quoted name that decodes to `s`. -/
def writeBackticks (s : String) : String :=
  String.ofList ('`' :: escapeBackticks s.toList ++ ['`'])

end PipedQuery
