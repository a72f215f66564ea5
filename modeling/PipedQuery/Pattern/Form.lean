import PipedQuery.Text.CodeRange
import PipedQuery.Pattern.Tree

/-!
# Forms of patterns

What a pattern comes to when its flags are worked out: texts, classes, places, repetitions, groups,
sequences and choices.  Forms are built by functions that simplify: texts in a row are one text, a
choice between characters is a class, and a start that all options share comes first
(`Form.ofOptions`).
-/

namespace PipedQuery.Pattern

/-- What a place of a text has to be. -/
inductive Place where
  | textStart
  | textEnd
  | lineStart (crlf : Bool)
  | lineEnd (crlf : Bool)
  /-- A word boundary, by the words of Unicode or those of ASCII. -/
  | word (a : Assertion) (unicode : Bool)
deriving DecidableEq

/-- A pattern without flags. -/
inductive Form where
  | empty
  | text (cs : List Char)
  /-- A class, with Unicode on or off. -/
  | oneOf (unicode : Bool) (ranges : CodeRanges)
  | place (p : Place)
  | repeated (body : Form) (lazy : Bool) (low : Nat) (high : Option Nat)
  | group (body : Form)
  | sequence (parts : List Form)
  | choice (options : List Form)

namespace Form

/-- The bytes of a code point. -/
def codeSize (n : Nat) : Nat :=
  if n < 0x80 then 1 else if n < 0x800 then 2 else if n < 0x10000 then 3 else 4

/-- The bytes of a text. -/
def textSize (cs : List Char) : Nat := cs.foldr (fun c size => c.utf8Size + size) 0

mutual

/-- The fewest bytes that a form matches, if it matches anything. -/
def minLength? : Form → Option Nat
  | .empty | .place _ => some 0
  | .text cs => some (textSize cs)
  | .oneOf _ ranges => ranges.head?.map fun r => codeSize r.1
  | .repeated body _ low _ => body.minLength?.map (· * low)
  | .group body => body.minLength?
  | .sequence parts => minLengthOfAll? parts
  | .choice options => shortest? options

/-- The fewest bytes that several forms in a row match. -/
def minLengthOfAll? : List Form → Option Nat
  | [] => some 0
  | f :: fs => do return (← f.minLength?) + (← minLengthOfAll? fs)

/-- The fewest bytes that one of several forms matches, if each of them matches something. -/
def shortest? : List Form → Option Nat
  | [] => none
  | [f] => f.minLength?
  | f :: fs => do return min (← f.minLength?) (← shortest? fs)

end

mutual

/-- The most bytes that a form matches, if it matches anything and there is a bound. -/
def maxLength? : Form → Option Nat
  | .empty | .place _ => some 0
  | .text cs => some (textSize cs)
  | .oneOf _ ranges => ranges.getLast?.map fun r => codeSize r.2
  | .repeated body _ _ high => do return (← high) * (← body.maxLength?)
  | .group body => body.maxLength?
  | .sequence parts => maxLengthOfAll? parts
  | .choice options => longest? options

/-- The most bytes that several forms in a row match. -/
def maxLengthOfAll? : List Form → Option Nat
  | [] => some 0
  | f :: fs => do return (← f.maxLength?) + (← maxLengthOfAll? fs)

/-- The most bytes that one of several forms matches, if each of them matches something. -/
def longest? : List Form → Option Nat
  | [] => none
  | [f] => f.maxLength?
  | f :: fs => do return max (← f.maxLength?) (← longest? fs)

end

/-- Whether a form matches nothing but places. -/
def isPlace (f : Form) : Bool := f.maxLength? = some 0

mutual

/-- Whether a form starts with a place whatever it matches. -/
def startsWith (p : Place) : Form → Bool
  | .place q => q = p
  | .repeated body _ low _ => decide (0 < low) && body.startsWith p
  | .group body => body.startsWith p
  | .sequence parts => anyStartsWith p parts
  | .choice options => allStartWith p options
  | .empty | .text _ | .oneOf _ _ => false

/-- Whether several forms in a row start with a place. -/
def anyStartsWith (p : Place) : List Form → Bool
  | [] => false
  | f :: fs => f.startsWith p || f.isPlace && anyStartsWith p fs

/-- Whether each of several forms starts with a place. -/
def allStartWith (p : Place) : List Form → Bool
  | [] => true
  | f :: fs => f.startsWith p && allStartWith p fs

end

mutual

/-- Whether a form ends with a place whatever it matches. -/
def endsWith (p : Place) : Form → Bool
  | .place q => q = p
  | .repeated body _ low _ => decide (0 < low) && body.endsWith p
  | .group body => body.endsWith p
  | .sequence parts => anyEndsWith p parts
  | .choice options => allEndWith p options
  | .empty | .text _ | .oneOf _ _ => false

/-- Whether several forms in a row end with a place. -/
def anyEndsWith (p : Place) : List Form → Bool
  | [] => false
  | f :: fs => anyEndsWith p fs || fs.all isPlace && f.endsWith p

/-- Whether each of several forms ends with a place. -/
def allEndWith (p : Place) : List Form → Bool
  | [] => true
  | f :: fs => f.endsWith p && allEndWith p fs

end

mutual

/-- Whether two forms are the same.  Each group is the same as itself alone, so no two groups are. -/
def same : Form → Form → Bool
  | .empty, .empty => true
  | .text a, .text b => a == b
  | .oneOf unicode a, .oneOf unicode' b => unicode == unicode' && a == b
  | .place p, .place q => p = q
  | .repeated a lazy low high, .repeated b lazy' low' high' =>
    lazy == lazy' && low == low' && high == high' && a.same b
  | .sequence as, .sequence bs => allSame as bs
  | .choice as, .choice bs => allSame as bs
  | _, _ => false

/-- Whether forms are the same one by one. -/
def allSame : List Form → List Form → Bool
  | [], [] => true
  | a :: as, b :: bs => a.same b && allSame as bs
  | _, _ => false

end

mutual

/-- The number of forms that a form consists of. -/
def count : Form → Nat
  | .empty | .text _ | .oneOf _ _ | .place _ => 1
  | .repeated body _ _ _ | .group body => body.count + 1
  | .sequence parts => countAll parts + 1
  | .choice options => countAll options + 1

/-- The number of forms that several forms consist of. -/
def countAll : List Form → Nat
  | [] => 0
  | f :: fs => f.count + countAll fs

end

/-! ## Building forms -/

/-- The class of no characters, which nothing matches. -/
def impossible : Form := .oneOf false []

/-- A text, which may have no characters. -/
def ofText : List Char → Form
  | [] => .empty
  | cs => .text cs

/-- The only code point of a set. -/
def onlyCode? : CodeRanges → Option Nat
  | [(low, high)] => if low = high then some low else none
  | _ => none

/-- A class.  One of a single character is a text. -/
def ofRanges (unicode : Bool) (ranges : CodeRanges) : Form :=
  if ranges.isEmpty then impossible
  else match onlyCode? ranges with
  | some n => .text [Char.ofNat n]
  | none => .oneOf unicode ranges

/-- A repetition.  What matches places only is repeated once at most. -/
def ofRepetition (body : Form) (lazy : Bool) (low : Nat) (high : Option Nat) : Form :=
  let (low, high) :=
    if body.isPlace then (min low 1, (high.map (min 1)).or (some 1)) else (low, high)
  if low = 0 && high = some 0 then .empty
  else if low = 1 && high = some 1 then body
  else .repeated body lazy low high

/-- The parts of a form in a sequence. -/
def parts : Form → List Form
  | .empty => []
  | .sequence fs => fs
  | f => [f]

/-- Forms in a row, with texts in a row as one text. -/
def joinTexts : List Form → List Form
  | [] => []
  | f :: fs =>
    match f, joinTexts fs with
    | .text a, .text b :: rest => .text (a ++ b) :: rest
    | f, rest => f :: rest

/-- Forms in a row. -/
def ofParts (fs : List Form) : Form :=
  match joinTexts (fs.flatMap parts) with
  | [] => .empty
  | [f] => f
  | fs => .sequence fs

/-- The options of a form in a choice. -/
def options : Form → List Form
  | .choice fs => fs
  | f => [f]

/-- The code points that several forms stand for, if each is a text of one character. -/
def codes? : List Form → Option (List Nat)
  | [] => some []
  | .text [c] :: fs => (codes? fs).map (c.toNat :: ·)
  | _ :: _ => none

/-- The code points of several forms, if each is a class. -/
def classes? : List Form → Option CodeRanges
  | [] => some []
  | .oneOf _ ranges :: fs => (classes? fs).map (ranges ++ ·)
  | _ :: _ => none

/-- A choice between classes or between single characters as a class. -/
def classOfOptions? (fs : List Form) : Option Form :=
  ((codes? fs).map (·.map fun n => (n, n))).or (classes? fs) |>.map fun ranges =>
    ofRanges true (CodeRanges.ofList ranges)

/-- The forms at the front of two sequences that are the same. -/
def commonParts : List Form → List Form → List Form
  | a :: as, b :: bs => if a.same b then a :: commonParts as bs else []
  | _, _ => []

/-- The parts of a sequence. -/
def sequenceParts? : Form → Option (List Form)
  | .sequence fs => some fs
  | _ => none

/-- The start that several forms share, if they are sequences. -/
def sharedStart (fs : List Form) : List Form :=
  match fs.mapM sequenceParts? with
  | some (first :: rest) => rest.foldl commonParts first
  | _ => []

/-- The form behind the first `n` parts. -/
def dropParts (n : Nat) (f : Form) : Form := ofParts (f.parts.drop n)

/-- A choice between several forms.  A start that they share comes first, and then the choice of what
    follows it, where again a start may be shared.  The number says how often. -/
def ofOptionsUpTo : Nat → List Form → Form
  | depth, fs =>
    match fs.flatMap options with
    | [] => impossible
    | [f] => f
    | fs =>
      match classOfOptions? fs with
      | some f => f
      | none =>
        match depth, sharedStart fs with
        | 0, _ | _, [] => .choice fs
        | depth + 1, start =>
          ofParts (start ++ [ofOptionsUpTo depth (fs.map (dropParts start.length))])

/-- A choice between several forms. -/
def ofOptions (fs : List Form) : Form := ofOptionsUpTo (countAll fs) fs

end Form

end PipedQuery.Pattern
