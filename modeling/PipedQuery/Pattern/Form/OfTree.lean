import PipedQuery.Pattern.ClassRanges
import PipedQuery.Pattern.Form

/-!
# From trees to forms

`Tree.form` works out the flags of a pattern.  A flag directive matches nothing by itself; it sets the
mode for what follows it in its group, the further options of the group included.
-/

namespace PipedQuery.Pattern

/-- The place that an assertion stands for. -/
def Assertion.place (m : Mode) : Assertion → Place
  | .textStart => .textStart
  | .textEnd => .textEnd
  | .lineStart => if m.multiLine then .lineStart m.crlf else .textStart
  | .lineEnd => if m.multiLine then .lineEnd m.crlf else .textEnd
  | a => .word a m.unicode

/-- The code points that the dot matches. -/
def Mode.dotRanges (m : Mode) : CodeRanges :=
  if m.dotMatchesAll then CodeRanges.full
  else if m.crlf then CodeRanges.complement [(0x0a, 0x0a), (0x0d, 0x0d)]
  else CodeRanges.complement [(0x0a, 0x0a)]

/-- The form of a letter.  One with case is a class where case does not count. -/
def Letter.form (m : Mode) (l : Letter) : Form :=
  let n := l.char.toNat
  if m.anyCase && (if m.unicode then hasCase n else l.char.isAlpha) then
    .ofRanges m.unicode (m.fold [(n, n)])
  else .text [l.char]

/-- The form of an atom. -/
def Atom.form (m : Mode) : Atom → Form
  | .letter l => l.form m
  | .dot => .ofRanges m.unicode m.dotRanges
  | .assertion a => .place (a.place m)
  | .shorthand s negated => .ofRanges m.unicode (s.ranges m negated)
  | .property p negated => .ofRanges true (p.classRanges m negated)

/-- The mode inside a group. -/
def GroupKind.mode (m : Mode) : GroupKind → Mode
  | .flagged items => m.after items
  | .numbered | .named _ => m

/-- The form of a group with the given contents. -/
def GroupKind.form (body : Form) : GroupKind → Form
  | .flagged _ => body
  | .numbered | .named _ => .group body

mutual

/-- The form of a tree in a mode, and the mode behind it. -/
def Tree.form (m : Mode) : Tree → Form × Mode
  | .flags items => (.empty, m.after items)
  | .atom a => (a.form m, m)
  | .bracketed negated set => (.ofRanges m.unicode (m.classOf negated (set.ranges m)), m)
  | .repeated body marked low high =>
    let (f, m) := body.form m
    (.ofRepetition f (marked != m.lazy) low high, m)
  | .group kind body => (kind.form (body.form (kind.mode m)).1, m)
  | .sequence parts =>
    let (fs, m) := Tree.formsOfAll m parts
    (.ofParts fs, m)
  | .choice options =>
    let (fs, m) := Tree.formsOfAll m options
    (.ofOptions fs, m)

/-- The forms of several trees, each in the mode behind the one before it. -/
def Tree.formsOfAll (m : Mode) : List Tree → List Form × Mode
  | [] => ([], m)
  | t :: ts =>
    let (f, m) := t.form m
    let (fs, m) := Tree.formsOfAll m ts
    (f :: fs, m)

end

end PipedQuery.Pattern
