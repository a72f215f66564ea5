/-!
# Captures by their spelling

The fields that a pattern names, found in its text without reading it as a whole: the named groups of
a regular expression, and the captures `%{PATTERN:field}` of a grok pattern.
-/

namespace PipedQuery.Pattern

/-- The name in front of a closing bracket, if it is a letter followed by letters, digits and
    underscores. -/
def bracketedName? (cs : List Char) : Option String :=
  let name := cs.takeWhile fun c => c.isAlphanum || c = '_'
  if name.head?.any Char.isAlpha && (cs.drop name.length).head? = some '>' then
    some (String.ofList name)
  else none

/-- The name of the group that starts here. -/
def groupNameAt? : List Char → Option String
  | '(' :: '?' :: 'P' :: '<' :: cs => bracketedName? cs
  | '(' :: '?' :: '<' :: cs => bracketedName? cs
  | _ => none

/-- Whether the character may stand in the field of a grok capture. -/
def isGrokFieldChar (c : Char) : Bool :=
  c.isAlphanum || c = '_' || c = '@' || c = '.' || c = '[' || c = ']' || c = '-'

/-- Whether a grok capture ends here, with a closing brace that a type may stand in front of. -/
def endsGrokCapture : List Char → Bool
  | '}' :: _ => true
  | ':' :: cs =>
    let type := cs.takeWhile Char.isAlpha
    !type.isEmpty && (cs.drop type.length).head? = some '}'
  | _ => false

/-- The field of the grok capture that starts here, if it has one. -/
def grokFieldAt? : List Char → Option String
  | '%' :: '{' :: cs =>
    let pattern := cs.takeWhile fun c => c.isAlphanum || c = '_'
    match cs.drop pattern.length with
    | ':' :: cs =>
      let field := cs.takeWhile isGrokFieldChar
      if !pattern.isEmpty && !field.isEmpty && endsGrokCapture (cs.drop field.length) then
        some (String.ofList field)
      else none
    | _ => none
  | _ => none

/-- What is found at the places of a text, from left to right. -/
def findAll {α : Type} (at? : List Char → Option α) : List Char → List α
  | [] => []
  | c :: cs => (at? (c :: cs)).toList ++ findAll at? cs

/-- The names of the groups of a regular expression, valid or not. -/
def writtenGroupNames (text : String) : List String := findAll groupNameAt? text.toList

/-- The fields of a grok pattern. -/
def grokFields (text : String) : List String := findAll grokFieldAt? text.toList

end PipedQuery.Pattern
