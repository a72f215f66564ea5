import PipedQuery.Pattern.ByteRange
import PipedQuery.Pattern.Form

/-!
# What patterns start with

The texts that a match of a pattern starts with, as far as there are only a few of them.  Where they
are the matches themselves, a search for these texts is all it takes, and no automaton is laid out
(`Form.isTextSearch`).

The order of the texts is that of preference, and the numbers of texts and of their bytes are
limited, so that the texts of a small pattern are found and those of a large one are not looked for.
-/

namespace PipedQuery.Pattern

/-- Bytes that matches start with, or that are whole matches. -/
structure Prefix where
  bytes : List Nat
  exact : Bool
deriving DecidableEq

namespace Prefix

/-- The prefix that is no match. -/
def inexact (p : Prefix) : Prefix := { p with exact := false }

/-- The first bytes of a prefix. -/
def take (n : Nat) (p : Prefix) : Prefix :=
  if p.bytes.length ≤ n then p else ⟨p.bytes.take n, false⟩

end Prefix

/-- Adds a prefix behind others, which are given last ones first.  If the last one has the same bytes,
    it stands for both. -/
def addPrefix : List Prefix → Prefix → List Prefix
  | [], p => [p]
  | last :: before, p =>
    if last.bytes = p.bytes then { last with exact := last.exact && p.exact } :: before
    else p :: last :: before

/-- Prefixes without repetitions next to each other. -/
def distinct (ps : List Prefix) : List Prefix := (ps.foldl addPrefix []).reverse

/-- The prefixes of a pattern, or nothing where there could be any. -/
abbrev Prefixes := Option (List Prefix)

namespace Prefixes

/-- The most characters of a class that are taken one by one. -/
def maxClass : Nat := 10

/-- The most repetitions that are followed. -/
def maxRepetitions : Nat := 10

/-- The most bytes of a prefix. -/
def maxLength : Nat := 100

/-- The most prefixes. -/
def maxCount : Nat := 250

/-- The prefix of every text. -/
def nothing : Prefixes := some [⟨[], true⟩]

/-- Whether all prefixes are matches. -/
def areExact (ps : Prefixes) : Bool := ps.any (·.all (·.exact))

/-- Whether no prefix is a match. -/
def areInexact (ps : Prefixes) : Bool := ps.all (·.all fun p => !p.exact)

/-- The prefixes as ones that are no matches. -/
def inexact (ps : Prefixes) : Prefixes := ps.map (·.map Prefix.inexact)

/-- The first bytes of the prefixes. -/
def take (n : Nat) (ps : Prefixes) : Prefixes := ps.map (·.map (Prefix.take n))

/-- The prefixes of one pattern in front of another one.  What is no match goes on in ways that are
    not known. -/
def followedBy (ps qs : Prefixes) : Prefixes :=
  let few : Bool := match ps, qs with
    | some ps, some qs => ps.length * qs.length ≤ maxCount
    | _, _ => true
  let found := match ps, if few then qs else none with
    | none, _ => none
    | some ps, none => if ps.any (·.bytes.isEmpty) then none else some (ps.map Prefix.inexact)
    | some ps, some qs => some (distinct (ps.flatMap fun p =>
        if p.exact then qs.map fun q => ⟨p.bytes ++ q.bytes, q.exact⟩ else [p]))
  take maxLength found

/-- The prefixes of two patterns, if there are not too many of them. -/
def join (ps qs : Prefixes) : Prefixes :=
  match ps, qs with
  | some ps, some qs =>
    if ps.length + qs.length ≤ maxCount then some (distinct (ps ++ qs))
    else
      let ps := distinct (ps.map (Prefix.take 4))
      let qs := distinct (qs.map (Prefix.take 4))
      if ps.length + qs.length ≤ maxCount then some (distinct (ps ++ qs)) else none
  | _, _ => none

/-- The prefixes of a class. -/
def ofRanges (ranges : CodeRanges) : Prefixes :=
  if ranges.foldr (fun r size => r.2 + 1 - r.1 + size) 0 ≤ maxClass then
    let codes := ranges.flatMap fun r => List.range' r.1 (r.2 + 1 - r.1)
    some ((codes.filter Nat.isValidChar).map fun n => ⟨encode n, true⟩)
  else none

/-- The prefixes of a pattern repeated so many times.  There is no need to go on once none of them is
    a match. -/
def times (ps : Prefixes) : Nat → Prefixes → Prefixes
  | 0, before => before
  | n + 1, before => if areInexact before then before else times ps n (followedBy before ps)

/-- The prefixes of a repetition. -/
def repeated (ps : Prefixes) (lazy : Bool) (low : Nat) (high : Option Nat) : Prefixes :=
  if low = 0 then
    let ps := if high = some 1 then ps else inexact ps
    if lazy then join nothing ps else join ps nothing
  else
    let found := times ps (min low maxRepetitions) nothing
    if high = some low && low ≤ maxRepetitions then found else inexact found

end Prefixes

namespace Form

mutual

/-- The prefixes of a form. -/
def prefixes : Form → Prefixes
  | .empty | .place _ => .nothing
  | .text cs => Prefixes.take Prefixes.maxLength (some [⟨cs.flatMap fun c => encode c.toNat, true⟩])
  | .oneOf _ ranges => .ofRanges ranges
  | .group body => body.prefixes
  | .repeated body lazy low high => body.prefixes.repeated lazy low high
  | .sequence parts => prefixesOfParts .nothing parts
  | .choice options => prefixesOfOptions (some []) options

/-- The prefixes of several forms in a row, behind others. -/
def prefixesOfParts (before : Prefixes) : List Form → Prefixes
  | [] => before
  | f :: fs =>
    if before.areInexact then before else prefixesOfParts (before.followedBy f.prefixes) fs

/-- The prefixes of several options, besides others. -/
def prefixesOfOptions (before : Prefixes) : List Form → Prefixes
  | [] => before
  | f :: fs => if before.isNone then none else prefixesOfOptions (before.join f.prefixes) fs

end

mutual

/-- Whether a form has neither groups nor places. -/
def isUnmarked : Form → Bool
  | .empty | .text _ | .oneOf _ _ => true
  | .place _ | .group _ => false
  | .repeated body _ _ _ => body.isUnmarked
  | .sequence parts => areUnmarked parts
  | .choice options => areUnmarked options

/-- Whether several forms have neither groups nor places. -/
def areUnmarked : List Form → Bool
  | [] => true
  | f :: fs => f.isUnmarked && areUnmarked fs

end

end Form

/-- Prefixes without those that another one, which is preferred, is a prefix of. -/
def preferred (ps : List Prefix) : List Prefix :=
  ps.foldl (fun kept p => if kept.any (·.bytes.isPrefixOf p.bytes) then kept else kept ++ [p]) []

/-- The bytes that several prefixes have in common at their start. -/
def commonBytes : List Prefix → List Nat
  | [] => []
  | p :: ps => ps.foldl (fun bytes q =>
      ((bytes.zip q.bytes).takeWhile fun (a, b) => a = b).map (·.1)) p.bytes

/-- Whether a byte is rare enough in texts to be worth looking for by itself. -/
def isRareByte (n : Nat) : Bool :=
  decide (n < 0x80) && !"\n\r (),-./0129:_abcdefghilmnoprstuvxy|".toList.contains (Char.ofNat n)

/-- Prefixes cut short as long as there are many of them. -/
def shortened (ps : List Prefix) : List (Nat × Nat) → List Prefix
  | [] => ps
  | (length, count) :: more =>
    if ps.length ≤ count then ps else shortened (preferred (ps.map (Prefix.take length))) more

/-- The prefixes that are worth looking for.  There is none if every place of a text has one. -/
def worthwhile (ps : List Prefix) : Prefixes :=
  if ps.any (·.bytes.isEmpty) then none
  else
    let kept := preferred ps
    let common := commonBytes kept
    if 1 < ps.length && 1 ≤ common.length && common.length ≤ 3 && common.head?.any isRareByte then
      some (distinct (kept.map (Prefix.take 1)))
    else
      let few := kept.all (·.exact) && decide (kept.length ≤ 16)
      let kept :=
        if 4 < common.length || 1 < common.length && !few then
          distinct (kept.map (Prefix.take common.length))
        else kept
      let short := shortened kept [(5, 10), (4, 10), (3, 64), (2, 64), (1, 10)]
      if kept.all (·.exact) && (short.any (·.bytes.length ≤ 2) || decide (64 < short.length)) then
        some kept
      else some short

namespace Form

/-- How many texts a choice between texts has to have in order to be searched for them. -/
def manyTexts : Nat := 3000

/-- Whether a form is a choice between very many texts. -/
def isManyTexts : Form → Bool
  | .choice options =>
    options.all (fun f => f matches .text _) && decide (manyTexts ≤ options.length)
  | _ => false

/-- Whether the matches of a form are a few texts. -/
def isFewTexts (f : Form) : Bool :=
  f.isUnmarked &&
    ((Prefixes.join (some []) f.prefixes).bind worthwhile).any fun ps =>
      !ps.isEmpty && ps.all (·.exact)

/-- Whether a form is searched for as texts. -/
def isTextSearch (f : Form) : Bool := f.isManyTexts || f.isFewTexts

end Form

end PipedQuery.Pattern
