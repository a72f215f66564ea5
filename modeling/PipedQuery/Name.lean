import PipedQuery.Keyword.Class
import PipedQuery.Token.Scan

/-!
# Names

A name is written plainly if scanning brings it back, and between backticks otherwise.  Sources
have a rule of their own, because patterns such as `metrics-2024.*` are plain there.
-/

namespace PipedQuery

/-- The parts of a text between its dots.  There is always at least one. -/
def dottedParts : List Char → List (List Char)
  | [] => [[]]
  | c :: cs =>
    if c = '.' then [] :: dottedParts cs
    else match dottedParts cs with
      | [] => [[c]]
      | part :: parts => (c :: part) :: parts

/-- Whether the word is `else` in any letter case, which ends the branches of a `case` and so is
    neither an operand nor a plain name. -/
def isElse (word : String) : Bool := word.map Char.toLower == "else"

/-- Whether a part of a dotted name is a plain word: one that scans as a single name, and that is
    neither `else` nor a keyword unfit for a field. -/
def isPlainPart (part : List Char) : Bool :=
  Scan.startsName part && !isElse (String.ofList part) &&
    part.tail.all Scan.isNameContinue &&
    (Keyword.ofWord? (String.ofList part)).all Keyword.canNameField

/-- A field or alias as it is written in a query. -/
def writeName (name : String) : String :=
  if !name.isEmpty && (dottedParts name.toList).all isPlainPart then name
  else writeBackticks name

/-- Whether two dots stand side by side. -/
def hasDoubleDot : List Char → Bool
  | '.' :: '.' :: _ => true
  | _ :: cs => hasDoubleDot cs
  | [] => false

/-- Whether a source name is written plainly: it starts with a letter or underscore, goes on with
    the characters of index patterns, and has no empty part. -/
def isPlainSource (name : String) : Bool :=
  match name.toList with
  | [] => false
  | c :: cs =>
    (c.isAlpha || c = '_') &&
      cs.all (fun d => d.isAlphanum || d = '_' || d = '-' || d = '*' || d = '.') &&
      !hasDoubleDot (c :: cs) && (c :: cs).getLast? != some '.'

/-- An index or pattern to read from, on a remote cluster if one is named. -/
structure DataSource where
  cluster : Option String
  name : String
deriving DecidableEq

namespace DataSource

/-- A source on no remote cluster. -/
def ofName (name : String) : DataSource := ⟨none, name⟩

/-- The source as it is written in a query. -/
def text (s : DataSource) : String :=
  (match s.cluster with
    | some cluster => cluster ++ ":"
    | none => "") ++
  if isPlainSource s.name then s.name else writeName s.name

end DataSource

end PipedQuery
