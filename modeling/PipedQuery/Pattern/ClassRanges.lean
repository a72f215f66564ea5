import PipedQuery.Pattern.Mode
import PipedQuery.Pattern.PropertyName

/-!
# The characters of a class

Which code points a class in brackets holds in a mode.
-/

namespace PipedQuery.Pattern

/-- The code points of the class `[:name:]`. -/
def namedClassRanges (name : String) : CodeRanges :=
  match name with
  | "alnum" => [(0x30, 0x39), (0x41, 0x5a), (0x61, 0x7a)]
  | "alpha" => [(0x41, 0x5a), (0x61, 0x7a)]
  | "ascii" => [(0x00, 0x7f)]
  | "blank" => [(0x09, 0x09), (0x20, 0x20)]
  | "cntrl" => [(0x00, 0x1f), (0x7f, 0x7f)]
  | "digit" => [(0x30, 0x39)]
  | "graph" => [(0x21, 0x7e)]
  | "lower" => [(0x61, 0x7a)]
  | "print" => [(0x20, 0x7e)]
  | "punct" => [(0x21, 0x2f), (0x3a, 0x40), (0x5b, 0x60), (0x7b, 0x7e)]
  | "space" => [(0x09, 0x0d), (0x20, 0x20)]
  | "upper" => [(0x41, 0x5a)]
  | "word" => [(0x30, 0x39), (0x41, 0x5a), (0x5f, 0x5f), (0x61, 0x7a)]
  | "xdigit" => [(0x30, 0x39), (0x41, 0x46), (0x61, 0x66)]
  | _ => []

/-- The code points of a property in a mode, or those without it. -/
def Property.classRanges (m : Mode) (p : Property) (negated : Bool) : CodeRanges :=
  m.classOf negated p.ranges

/-- The code points that an atom adds to a class. -/
def Atom.memberRanges (m : Mode) : Atom → CodeRanges
  | .letter l => [(l.char.toNat, l.char.toNat)]
  | .shorthand s negated => s.ranges m negated
  | .property p negated => p.classRanges m negated
  | .dot | .assertion _ => []

/-- An operation between two sets. -/
def SetOp.apply : SetOp → CodeRanges → CodeRanges → CodeRanges
  | .intersection => CodeRanges.inter
  | .difference => CodeRanges.without
  | .symmetricDifference => CodeRanges.symmDiff

mutual

/-- The code points of a set.  The operands of an operation are folded before it. -/
def ClassSet.ranges (m : Mode) : ClassSet → CodeRanges
  | .union items => CodeRanges.ofList (ClassItem.rangesOfAll m items)
  | .combined op left right =>
    CodeRanges.ofList (op.apply (m.fold (left.ranges m)) (m.fold (right.ranges m)))

/-- The code points that a member adds to its class. -/
def ClassItem.ranges (m : Mode) : ClassItem → CodeRanges
  | .atom a => a.memberRanges m
  | .range first last => [(first.char.toNat, last.char.toNat)]
  | .named name negated => m.classOf negated (namedClassRanges name)
  | .bracketed negated set => m.classOf negated (set.ranges m)

/-- The ranges of several members, one member after the other. -/
def ClassItem.rangesOfAll (m : Mode) : List ClassItem → CodeRanges
  | [] => []
  | item :: items => item.ranges m ++ ClassItem.rangesOfAll m items

end

end PipedQuery.Pattern
