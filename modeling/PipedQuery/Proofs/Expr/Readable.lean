import PipedQuery.Grammar.Expression
import PipedQuery.Keyword.Arity
import PipedQuery.Proofs.Expr.Lexemes
import PipedQuery.Proofs.Grammar.Numbers

/-!
# Expressions that can be read back

`Expr.Readable` says which expressions the canonical text brings back when it is parsed.  It depends
on what stands behind the expression, because the words `interval` and `percentile` are fields only
before some lexemes.
-/

namespace PipedQuery

/-- What comes behind an expression, as far as the meaning of its last word depends on it. -/
inductive Follow where
  /-- A lexeme that `interval` takes for the start of its value. -/
  | value
  /-- The mark `<`, which starts the rank of `percentile`. -/
  | less
  /-- Anything else, or nothing. -/
  | other
deriving DecidableEq

namespace Follow

/-- What a lexeme of the kind, or the end, is as a follower. -/
def ofKind : Option TokenKind → Follow
  | none => .other
  | some kind =>
    if kind = .mark .less then .less else if startsIntervalValue kind then .value else .other

/-- Whether the name is read as a word of its own meaning before the follower. -/
def captures (follow : Follow) (name : String) : Prop :=
  (follow = .value ∧ Keyword.ofWord? name = some .interval) ∨
    (follow = .less ∧ Keyword.ofWord? name = some .percentile)

end Follow

/-- Whether the number is in the range of integer constants. -/
def IsIntConstant (n : Int) : Prop := n.natAbs ≤ maxInt

/-- Whether the number is an integer constant without a sign, from zero to the greatest one. -/
def IsCount (n : Int) : Prop := 0 ≤ n ∧ IsIntConstant n

/-- Whether the constant can be written without a sign. -/
def Literal.IsUnsigned : Literal → Prop
  | .int n => IsCount n
  | .decimal d => d.negative = false ∧ d.IsConstant
  | _ => True

/-- Whether the constant can be written as the value of an option. -/
def Literal.IsOptionValue : Literal → Prop
  | .int n => IsIntConstant n
  | .decimal d => d.IsConstant
  | .date _ _ => False
  | _ => True

/-- Whether the option can be written. -/
def NamedOption.IsReadable (o : NamedOption) : Prop :=
  (∃ k : Keyword, k.isRelevanceOption = true ∧ o.name = k.lowercase) ∧ o.value.IsOptionValue

/-- Whether the number can be written as a weight. -/
def Decimal.IsWeight (d : Decimal) : Prop :=
  d.IsConstant ∨ ∃ n : Int, IsIntConstant n ∧ d = .ofInt n

/-- Whether the field and its weight can be written. -/
def WeightedField.IsReadable (f : WeightedField) : Prop := ∀ weight ∈ f.weight, weight.IsWeight

namespace Expr

/-- What comes behind the expression where it is an operand: its own parenthesis, if it has any. -/
def behind (e : Expr) (follow : Follow) : Follow := if e.needsParens then .other else follow

/-- Whether the expression is one that `position` reads in front of a comma without parentheses. -/
def isSum : Expr → Bool
  | .binary op _ _ => op.looseness ≤ 2
  | e => !e.needsParens

/-- Whether parsing the canonical text brings the expression back, in front of what `follow` says. -/
inductive Readable : Follow → Expr → Prop
  | literal {follow value} (constant : value.IsUnsigned) : Readable follow (.literal value)
  | field {follow name} (scannable : IsScannable name) (free : ¬follow.captures name) :
    Readable follow (.field name)
  | call {follow family args options} {k : Keyword} (function : k.family? = some family)
    (notCast : k ≠ .cast)
    (accepted : k.arity?.all (fun a => a.accepts args.length) = true)
    (position : k = .position → ∀ e ∈ args.head?, e.isSum = true)
    (args_readable : ∀ e ∈ args, Readable .other e)
    (options_relevance : options ≠ [] → family = .relevance)
    (options_readable : ∀ o ∈ options, o.IsReadable) :
    Readable follow (.call k.lowercase family args options)
  | multiField {follow fields arg options} {k : Keyword} (function : k.isMultiField = true)
    (nonempty : fields ≠ []) (fields_readable : ∀ f ∈ fields, f.IsReadable)
    (arg_readable : Readable .other arg) (options_readable : ∀ o ∈ options, o.IsReadable) :
    Readable follow (.call k.lowercase .relevance [.weighted fields, arg] options)
  | binary {follow op left right} (notCall : op = .like → right.needsParens = false)
    (left_readable : Readable (left.behind (.ofKind (some op.kind))) left)
    (right_readable : Readable (right.behind follow) right) :
    Readable follow (.binary op left right)
  | unary {follow op operand} (operand_readable : Readable (operand.behind follow) operand) :
    Readable follow (.unary op operand)
  | inList {follow item list} (nonempty : list ≠ [])
    (item_readable : Readable .other item) (list_readable : ∀ e ∈ list, Readable .other e) :
    Readable follow (.inList item list)
  | case {follow branches fallback} (nonempty : branches ≠ [])
    (conditions_readable : ∀ b ∈ branches, Readable .other b.1)
    (values_readable : ∀ b ∈ branches, Readable .other b.2)
    (last_readable : fallback.isSome → ∀ b ∈ branches.getLast?, Readable .value b.2)
    (fallback_readable : ∀ e ∈ fallback, Readable .other e) :
    Readable follow (.case branches fallback)
  | cast {follow value target} (value_readable : Readable .other value) :
    Readable follow (.cast value target)
  | interval {follow value} {unit : Keyword} (isUnit : unit.isIntervalUnit = true)
    (starts : (firstKind value.operandLexemes).any startsIntervalValue = true)
    (value_readable : Readable .other value) :
    Readable follow (.interval value unit)

end Expr

end PipedQuery
