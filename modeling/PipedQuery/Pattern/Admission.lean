import PipedQuery.Pattern.PropertyName

/-!
# What patterns may match

A pattern matches text, and a part of it that could match other bytes is refused.  Only where
Unicode is switched off can there be one: everything that reaches beyond ASCII by a class, a dot or
a byte.  Unicode properties are refused there as well, and everywhere if they have no known name.
-/

namespace PipedQuery.Pattern

/-- Whether the letter is beyond ASCII. -/
def Letter.isBeyondAscii (l : Letter) : Bool := decide (0x80 ≤ l.char.toNat)

/-- What is wrong with a letter by itself. -/
def Letter.flaw? (unicode : Bool) (l : Letter) : Option Flaw :=
  if !unicode && l.isByte && l.isBeyondAscii then some .matchesNonText else none

/-- What is wrong with a letter in a class.  Without Unicode a class holds bytes. -/
def Letter.memberFlaw? (unicode : Bool) (l : Letter) : Option Flaw :=
  (l.flaw? unicode).or (if !unicode && l.isBeyondAscii then some .unicodeOff else none)

/-- What is wrong with a class that takes in everything beyond ASCII. -/
def wideFlaw? (unicode wide : Bool) : Option Flaw :=
  if !unicode && wide then some .matchesNonText else none

/-- What is wrong with an atom. -/
def Atom.flaw? (unicode : Bool) : Atom → Option Flaw
  | .letter l => l.flaw? unicode
  | .dot => wideFlaw? unicode true
  | .assertion _ => none
  | .shorthand _ negated => wideFlaw? unicode negated
  | .property p _ => if unicode then p.flaw? else some .unicodeOff

mutual

/-- What is wrong with a set. -/
def ClassSet.flaw? (unicode : Bool) : ClassSet → Option Flaw
  | .union items => ClassItem.flawOfAll? unicode items
  | .combined _ left right => (left.flaw? unicode).or (right.flaw? unicode)

/-- What is wrong with a member of a class. -/
def ClassItem.flaw? (unicode : Bool) : ClassItem → Option Flaw
  | .atom (.letter l) => l.memberFlaw? unicode
  | .atom a => a.flaw? unicode
  | .range first last => (first.memberFlaw? unicode).or (last.memberFlaw? unicode)
  | .named _ negated => wideFlaw? unicode negated
  | .bracketed negated set => (set.flaw? unicode).or (wideFlaw? unicode negated)

/-- What is wrong with the first of several members that has a flaw. -/
def ClassItem.flawOfAll? (unicode : Bool) : List ClassItem → Option Flaw
  | [] => none
  | item :: items => (item.flaw? unicode).or (ClassItem.flawOfAll? unicode items)

end

/-- Whether Unicode is on inside a group. -/
def GroupKind.unicode (before : Bool) : GroupKind → Bool
  | .flagged items => flagAfter .unicode items before
  | .numbered | .named _ => before

/-- The flaw that was found, or else whether Unicode is on. -/
def screened (unicode : Bool) : Option Flaw → Except Flaw Bool
  | none => .ok unicode
  | some flaw => .error flaw

mutual

/-- Checks a pattern in front of which Unicode is on or off.  Tells whether it is on behind it. -/
def Tree.screen (unicode : Bool) : Tree → Except Flaw Bool
  | .flags items => .ok (flagAfter .unicode items unicode)
  | .atom a => screened unicode (a.flaw? unicode)
  | .bracketed negated set =>
    screened unicode ((set.flaw? unicode).or (wideFlaw? unicode negated))
  | .repeated body _ _ _ => body.screen unicode
  | .group kind body => (body.screen (kind.unicode unicode)).map fun _ => unicode
  | .sequence parts => Tree.screenAll unicode parts
  | .choice options => Tree.screenAll unicode options

/-- Checks several patterns, each in the state that the one before it leaves. -/
def Tree.screenAll (unicode : Bool) : List Tree → Except Flaw Bool
  | [] => .ok unicode
  | t :: ts =>
    match t.screen unicode with
    | .ok unicode => Tree.screenAll unicode ts
    | .error flaw => .error flaw

end

end PipedQuery.Pattern
