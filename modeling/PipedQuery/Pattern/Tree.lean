/-!
# Patterns as trees

A regular expression as it is written, with its groups, classes, repetitions and flags.  A flag
directive is a part of a sequence like any other and holds up to the end of the group it stands in.
-/

namespace PipedQuery.Pattern

/-- The flags that a pattern may switch on and off. -/
inductive Flag where
  /-- Letter case does not count. -/
  | anyCase
  /-- The anchors match at every line. -/
  | multiLine
  /-- The dot matches line feeds too. -/
  | dotMatchesAll
  /-- Repetitions are lazy unless they are marked. -/
  | lazy
  /-- Classes and boundaries follow Unicode. -/
  | unicode
  /-- Lines may end in a carriage return and a line feed. -/
  | crlf
  /-- Blanks and comments in the pattern do not count. -/
  | spaced
deriving DecidableEq

/-- The flag with the given letter. -/
def Flag.ofChar? : Char → Option Flag
  | 'i' => some anyCase
  | 'm' => some multiLine
  | 's' => some dotMatchesAll
  | 'U' => some lazy
  | 'u' => some unicode
  | 'R' => some crlf
  | 'x' => some spaced
  | _ => none

/-- An entry of a list of flags.  A negation switches off the flags behind it. -/
inductive FlagItem where
  | negation
  | flag (f : Flag)
deriving DecidableEq

/-- Whether a list of flags switches a flag on, or off, or leaves it alone. -/
def flagState? (f : Flag) : List FlagItem → Option Bool
  | [] => none
  | .flag g :: items => if g = f then some true else flagState? f items
  | .negation :: items => if items.contains (.flag f) then some false else none

/-- The state of a flag behind a list of flags. -/
def flagAfter (f : Flag) (items : List FlagItem) (before : Bool) : Bool :=
  (flagState? f items).getD before

/-- A character in a pattern.  One written with two hexadecimal digits stands for the byte of that
    number where Unicode is switched off. -/
structure Letter where
  char : Char
  isByte : Bool
deriving DecidableEq

/-- The classes with a letter of their own. -/
inductive Shorthand where
  | digit
  | space
  | word
deriving DecidableEq

/-- A Unicode property, by its name alone or with a value. -/
inductive Property where
  | named (name : String)
  | valued (name value : String)
deriving DecidableEq

/-- What a place of a text may have to be. -/
inductive Assertion where
  /-- The start of the text, or of a line if the flags say so. -/
  | lineStart
  /-- The end of the text, or of a line if the flags say so. -/
  | lineEnd
  | textStart
  | textEnd
  | wordBoundary
  | noWordBoundary
  | wordStart
  | wordEnd
  /-- A place with no word character in front of it. -/
  | wordStartHalf
  /-- A place with no word character behind it. -/
  | wordEndHalf
deriving DecidableEq

/-- What matches at most one character. -/
inductive Atom where
  | letter (l : Letter)
  /-- Any character, line feeds apart unless a flag allows them. -/
  | dot
  /-- What matches a place. -/
  | assertion (a : Assertion)
  | shorthand (s : Shorthand) (negated : Bool)
  | property (p : Property) (negated : Bool)
deriving DecidableEq

/-- The operations between the parts of a class. -/
inductive SetOp where
  | intersection
  | difference
  | symmetricDifference
deriving DecidableEq

mutual

/-- The inside of a class. -/
inductive ClassSet where
  | union (items : List ClassItem)
  | combined (op : SetOp) (left right : ClassSet)

/-- A member of a class. -/
inductive ClassItem where
  | atom (a : Atom)
  | range (first last : Letter)
  /-- A class such as `[:alpha:]`. -/
  | named (name : String) (negated : Bool)
  | bracketed (negated : Bool) (set : ClassSet)

end

/-- The kinds of groups. -/
inductive GroupKind where
  | numbered
  | named (name : String)
  /-- A group that is not captured but may switch flags. -/
  | flagged (items : List FlagItem)
deriving DecidableEq

/-- A pattern. -/
inductive Tree where
  | flags (items : List FlagItem)
  | atom (a : Atom)
  | bracketed (negated : Bool) (set : ClassSet)
  /-- From `low` to `high` times, or without end.  A marked repetition is lazy, unless lazy ones are
      the rule. -/
  | repeated (body : Tree) (marked : Bool) (low : Nat) (high : Option Nat)
  | group (kind : GroupKind) (body : Tree)
  | sequence (parts : List Tree)
  | choice (options : List Tree)

namespace Tree

/-- Some parts in sequence.  A single part is a sequence by itself. -/
def ofParts : List Tree → Tree
  | [part] => part
  | parts => .sequence parts

/-- A choice between some options.  A single option leaves no choice. -/
def ofOptions : List Tree → Tree
  | [option] => option
  | options => .choice options

mutual

/-- The names of the named groups, from left to right.  What is repeated zero times has no groups. -/
def names : Tree → List String
  | .group (.named name) body => name :: body.names
  | .group _ body => body.names
  | .repeated body _ _ high => if high = some 0 then [] else body.names
  | .sequence parts => namesOfAll parts
  | .choice options => namesOfAll options
  | .flags _ | .atom _ | .bracketed _ _ => []

/-- The names of the named groups of several patterns. -/
def namesOfAll : List Tree → List String
  | [] => []
  | t :: ts => t.names ++ namesOfAll ts

end

end Tree

mutual

/-- How deeply a set is nested.  A union of one member counts as that member. -/
def ClassSet.depth : ClassSet → Nat
  | .union [] => 0
  | .union [item] => item.depth
  | .union (item :: items) => max item.depth (ClassItem.depthOfAll items) + 1
  | .combined _ left right => max left.depth right.depth + 1

/-- How deeply a member of a class is nested. -/
def ClassItem.depth : ClassItem → Nat
  | .bracketed _ set => set.depth + 1
  | .atom _ | .range _ _ | .named _ _ => 0

/-- The depth of the most deeply nested of several members. -/
def ClassItem.depthOfAll : List ClassItem → Nat
  | [] => 0
  | item :: items => max item.depth (ClassItem.depthOfAll items)

end

mutual

/-- How deeply a pattern is nested. -/
def Tree.depth : Tree → Nat
  | .flags _ | .atom _ | .sequence [] => 0
  | .bracketed _ set => set.depth + 1
  | .repeated body _ _ _ | .group _ body => body.depth + 1
  | .sequence (part :: parts) => max part.depth (Tree.depthOfAll parts) + 1
  | .choice options => Tree.depthOfAll options + 1

/-- The depth of the most deeply nested of several patterns. -/
def Tree.depthOfAll : List Tree → Nat
  | [] => 0
  | t :: ts => max t.depth (Tree.depthOfAll ts)

end

end PipedQuery.Pattern
