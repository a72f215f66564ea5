import PipedQuery.Token

/-!
# The grammar of lexemes

The forms that lexemes have, said without the scanner: each class of characters by its ranges, each
form by the pieces it consists of, and the lexeme at the start of a text as the longest piece of a
form (`Munches`).
-/

namespace PipedQuery

namespace Form

/-- The characters between words. -/
def Blank (c : Char) : Prop := c = ' ' ∨ c = '\t' ∨ c = '\r' ∨ c = '\n'

/-- The letters of ASCII, which are the only ones that names may have without quotes. -/
def Letter (c : Char) : Prop := ('A' ≤ c ∧ c ≤ 'Z') ∨ ('a' ≤ c ∧ c ≤ 'z')

/-- The decimal digits. -/
def Digit (c : Char) : Prop := '0' ≤ c ∧ c ≤ '9'

/-- What a run of a name starts with, maybe behind a star. -/
def NameStart (c : Char) : Prop := Letter c ∨ c = '_' ∨ c = '@'

/-- What a run of a name goes on with. -/
def RunChar (c : Char) : Prop := Letter c ∨ Digit c ∨ c = '_' ∨ c = '*' ∨ c = '-'

/-- What keywords consist of. -/
def WordChar (c : Char) : Prop := Letter c ∨ Digit c ∨ c = '_'

/-- What the groups behind a name consist of. -/
def DateChar (c : Char) : Prop := Digit c ∨ c = '*'

/-- The text splits into characters of a class, as many as there are, and what is behind them. -/
structure Greedy (p : Char → Prop) (rest taken behind : List Char) : Prop where
  whole : rest = taken ++ behind
  members : ∀ c ∈ taken, p c
  ends : ∀ c ∈ behind.head?, ¬p c

/-- Whether a run of a name starts with the text. -/
inductive StartsRun : List Char → Prop where
  | plain {c : Char} (cs : List Char) : NameStart c → StartsRun (c :: cs)
  | star {c : Char} (cs : List Char) : NameStart c → StartsRun ('*' :: c :: cs)

/-- The text starts with a run, and then goes on. -/
inductive IsRun : List Char → List Char → List Char → Prop where
  | intro {c : Char} {cs more behind : List Char} :
    StartsRun (c :: cs) → Greedy RunChar cs more behind → IsRun (c :: cs) (c :: more) behind

/-- What may stand between a run and the groups behind it: nothing, or a colon and a second run
    unless the first one starts with `@`. -/
inductive IsCluster (run : List Char) : List Char → List Char → Prop where
  | none {behind : List Char} : IsCluster run behind []
  | second {cs second behind : List Char} :
    run.head? ≠ some '@' → IsRun cs second behind → IsCluster run (':' :: cs) (':' :: second)

/-- A point or a dash with digits and stars. -/
inductive IsGroup : List Char → Prop where
  | intro {sep : Char} {cs : List Char} :
    sep = '.' ∨ sep = '-' → cs ≠ [] → (∀ c ∈ cs, DateChar c) → IsGroup (sep :: cs)

/-- The text starts with a name that consists of a run, a second one and groups. -/
structure IsName (rest run cluster : List Char) (groups : List (List Char)) : Prop where
  pieces : ∃ behind, IsRun rest run behind ∧ IsCluster run behind cluster ∧
    cluster ++ groups.flatten <+: behind
  isGroup : ∀ group ∈ groups, IsGroup group

/-- The kind of a name that consists of a run, a second one and groups. -/
inductive NameKind (run cluster : List Char) (groups : List (List Char)) : TokenKind → Prop where
  | dated : groups ≠ [] → NameKind run cluster groups .datedName
  | cluster : groups = [] → cluster ≠ [] → NameKind run cluster groups .clusterName
  | keyword {k : Keyword} : groups = [] → cluster = [] → (∀ c ∈ run, WordChar c) →
    (String.ofList run).map Char.toUpper = k.spelling → NameKind run cluster groups (.keyword k)
  | identifier : groups = [] → cluster = [] →
    (¬∃ k : Keyword, (∀ c ∈ run, WordChar c) ∧
      (String.ofList run).map Char.toUpper = k.spelling) →
    NameKind run cluster groups .identifier

/-- The text starts with a number that consists of digits and a fraction, which may be left out. -/
structure IsNumber (rest whole fraction : List Char) : Prop where
  digits : whole ≠ [] ∧ ∀ c ∈ whole, Digit c
  optional : fraction = [] ∨ ∃ ds, fraction = '.' :: ds ∧ ds ≠ [] ∧ ∀ c ∈ ds, Digit c
  starts : whole ++ fraction <+: rest

/-- What stands between two quotes. -/
inductive IsQuoted (q : Quote) : List Char → Prop where
  | nil : IsQuoted q []
  | plain {c : Char} {cs : List Char} :
    c ≠ '\\' → c ≠ q.char → IsQuoted q cs → IsQuoted q (c :: cs)
  | escaped {c : Char} {cs : List Char} : IsQuoted q cs → IsQuoted q ('\\' :: c :: cs)
  | doubled {cs : List Char} : IsQuoted q cs → IsQuoted q (q.char :: q.char :: cs)

/-- The quotation that the text goes on with ends behind `body`: with a quote that is not doubled. -/
structure Closes (q : Quote) (rest body : List Char) : Prop where
  isQuoted : IsQuoted q body
  ends : ∃ behind, rest = body ++ q.char :: behind ∧ behind.head? ≠ some q.char

/-- The lexeme at the start of a text: its kind, its channel and its characters.  Each form takes as
    many characters as it can. -/
inductive Munches (rest : List Char) : TokenKind → Channel → List Char → Prop where
  | space {word behind : List Char} : word ≠ [] → Greedy Blank rest word behind →
    Munches rest .space .hidden word
  | name {run cluster : List Char} {groups : List (List Char)} {kind : TokenKind} :
    IsName rest run cluster groups →
    (∀ run' cluster' groups', IsName rest run' cluster' groups' →
      (run' ++ cluster' ++ groups'.flatten).length ≤ (run ++ cluster ++ groups.flatten).length) →
    NameKind run cluster groups kind →
    Munches rest kind .default (run ++ cluster ++ groups.flatten)
  | number {whole fraction : List Char} : IsNumber rest whole fraction →
    (∀ whole' fraction', IsNumber rest whole' fraction' →
      (whole' ++ fraction').length ≤ (whole ++ fraction).length) →
    Munches rest (if fraction = [] then .integer else .decimal) .default (whole ++ fraction)
  | mark {m : Mark} : ¬StartsRun rest → m.spelling.toList <+: rest →
    (∀ m' : Mark, m'.spelling.toList <+: rest →
      m'.spelling.toList.length ≤ m.spelling.toList.length) →
    Munches rest (.mark m) .default m.spelling.toList
  | closed {q : Quote} {cs body : List Char} : rest = q.char :: cs → Closes q cs body →
    Munches rest (.quoted q) .default (q.char :: (body ++ [q.char]))
  | unclosed {q : Quote} {cs : List Char} : rest = q.char :: cs → (∀ body, ¬Closes q cs body) →
    Munches rest (.quoted q) .default rest
  | unrecognized {c : Char} {cs : List Char} : rest = c :: cs → ¬Blank c → ¬Digit c →
    ¬StartsRun rest → (∀ q : Quote, c ≠ q.char) → (∀ m : Mark, ¬m.spelling.toList <+: rest) →
    Munches rest .unrecognized .error [c]

end Form

end PipedQuery
