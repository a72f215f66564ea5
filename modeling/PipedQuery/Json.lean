/-!
# JSON text

Values with their fields in order, written compactly or indented by two spaces.  Only quotes,
backslashes and the control characters below the space are escaped.
-/

namespace PipedQuery

/-- A JSON value.  Numbers are integers, and fields keep their order. -/
inductive Json where
  | null
  | bool (value : Bool)
  | num (value : Int)
  | str (value : String)
  | arr (items : List Json)
  | obj (fields : List (String × Json))

namespace Json

/-- The value of an optional field, with `null` for an absent one. -/
def opt {α : Type} (encode : α → Json) : Option α → Json
  | none => .null
  | some a => encode a

/-- A natural number. -/
def nat (n : Nat) : Json := .num n

/-- The lower-case hexadecimal digit of a number below sixteen. -/
def hexDigit (n : Nat) : Char := Nat.digitChar n

/-- The characters that stand for `c` inside a JSON string. -/
def escapeChar (c : Char) : List Char :=
  if c = '"' then ['\\', '"']
  else if c = '\\' then ['\\', '\\']
  else if c = '\x08' then ['\\', 'b']
  else if c = '\x0c' then ['\\', 'f']
  else if c = '\n' then ['\\', 'n']
  else if c = '\r' then ['\\', 'r']
  else if c = '\t' then ['\\', 't']
  else if c.toNat < 0x20 then
    ['\\', 'u', '0', '0', hexDigit (c.toNat / 16), hexDigit (c.toNat % 16)]
  else [c]

/-- A JSON string with its quotes. -/
def quote (s : String) : String :=
  String.ofList ('"' :: s.toList.flatMap escapeChar ++ ['"'])

mutual

/-- The text without any blanks. -/
def compact : Json → String
  | .null => "null"
  | .bool b => if b then "true" else "false"
  | .num n => toString n
  | .str s => quote s
  | .arr items => "[" ++ compactItems items ++ "]"
  | .obj fields => "\x7b" ++ compactFields fields ++ "\x7d"

/-- The items of an array, separated by commas. -/
def compactItems : List Json → String
  | [] => ""
  | [item] => compact item
  | item :: items => compact item ++ "," ++ compactItems items

/-- The fields of an object, separated by commas. -/
def compactFields : List (String × Json) → String
  | [] => ""
  | [(name, value)] => quote name ++ ":" ++ compact value
  | (name, value) :: fields => quote name ++ ":" ++ compact value ++ "," ++ compactFields fields

end

/-- A line break followed by `depth` steps of indentation. -/
def newline (depth : Nat) : String := "\n" ++ String.ofList (List.replicate (2 * depth) ' ')

mutual

/-- The indented text of a value that stands `depth` steps deep. -/
def prettyAt (depth : Nat) : Json → String
  | .null => "null"
  | .bool b => if b then "true" else "false"
  | .num n => toString n
  | .str s => quote s
  | .arr [] => "[]"
  | .arr (item :: items) =>
    "[" ++ newline (depth + 1) ++ prettyAt (depth + 1) item ++ prettyItems depth items ++
      newline depth ++ "]"
  | .obj [] => "\x7b\x7d"
  | .obj ((name, value) :: fields) =>
    "\x7b" ++ newline (depth + 1) ++ quote name ++ ": " ++ prettyAt (depth + 1) value ++
      prettyFields depth fields ++ newline depth ++ "\x7d"

/-- The further items of an array that stands `depth` steps deep. -/
def prettyItems (depth : Nat) : List Json → String
  | [] => ""
  | item :: items =>
    "," ++ newline (depth + 1) ++ prettyAt (depth + 1) item ++ prettyItems depth items

/-- The further fields of an object that stands `depth` steps deep. -/
def prettyFields (depth : Nat) : List (String × Json) → String
  | [] => ""
  | (name, value) :: fields =>
    "," ++ newline (depth + 1) ++ quote name ++ ": " ++ prettyAt (depth + 1) value ++
      prettyFields depth fields

end

/-- The text indented by two spaces per level. -/
def pretty (j : Json) : String := prettyAt 0 j

end Json

end PipedQuery
