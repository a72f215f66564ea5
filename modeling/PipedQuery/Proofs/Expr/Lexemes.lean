import PipedQuery.Expr.Text
import PipedQuery.Proofs.Grammar.Operators
import PipedQuery.Proofs.Scan.Names
import PipedQuery.Proofs.Scan.Numbers

/-!
# The lexemes of canonical expressions

What the canonical text of an expression scans as, built like the text itself, and how many levels
of nesting the text needs.
-/

namespace PipedQuery

/-- Runs of lexemes with commas between them. -/
def commaLexemes : List (List Lexeme) → List Lexeme
  | [] => []
  | ls :: more => ls ++ more.flatMap (.mark .comma :: ·)

/-- Lexemes between parentheses if they are needed. -/
def parenLexemes (needed : Bool) (ls : List Lexeme) : List Lexeme :=
  if needed then .mark .lParen :: (ls ++ [.mark .rParen]) else ls

/-- The keyword that introduces the kind. -/
def DateKind.keyword : DateKind → Keyword
  | .date => .date
  | .time => .time
  | .timestamp => .timestamp

/-- The keyword for the type. -/
def DataType.keyword : DataType → Keyword
  | .int => .int
  | .integer => .integer
  | .long => .long
  | .float => .float
  | .double => .double
  | .string => .string
  | .boolean => .boolean
  | .date => .date
  | .time => .time
  | .timestamp => .timestamp

/-- The keyword of a truth value. -/
def boolKeyword (b : Bool) : Keyword := if b then .true_ else .false_

/-- The lexemes of a number with its sign. -/
def Decimal.lexemes (d : Decimal) : List Lexeme :=
  if d.negative then [.mark .minus, d.lexeme] else [d.lexeme]

/-- The lexemes of a constant. -/
def Literal.lexemes : Literal → List Lexeme
  | .int n => if n < 0 then [.mark .minus, .integer n.natAbs] else [.integer n.natAbs]
  | .decimal d => d.lexemes
  | .str s => [.string s]
  | .bool b => [(boolKeyword b).lexeme]
  | .date kind value => [kind.keyword.lexeme, .string value]

theorem Literal.lexemes_of_nonneg {n : Int} (positive : 0 ≤ n) :
    (Literal.int n).lexemes = [.integer n.natAbs] := if_neg (Int.not_lt.mpr positive)

/-- The lexemes of an option. -/
def NamedOption.lexemes (o : NamedOption) : List Lexeme :=
  .word o.name :: .mark .equal :: o.value.lexemes

/-- The lexemes of an entry of a list of weighted fields. -/
def WeightedField.lexemes (f : WeightedField) : List Lexeme :=
  .string f.field ::
    match f.weight with
    | some weight => .mark .caret :: weight.lexemes
    | none => []

/-- The lexeme of an operator in front of its operand. -/
def UnaryOp.lexeme : UnaryOp → Lexeme
  | .not => Keyword.not_.lexeme
  | .negate => .mark .minus
  | .plus => .mark .plus

namespace Expr

mutual

/-- The lexemes of the canonical text. -/
def lexemes : Expr → List Lexeme
  | .literal value => value.lexemes
  | .field name => nameLexemes name
  | .call name _ args options =>
    .word name :: .mark .lParen ::
      (commaLexemes (listLexemes args ++ options.map NamedOption.lexemes) ++ [.mark .rParen])
  | .binary op left right =>
    parenLexemes left.needsParens left.lexemes ++
      op.lexeme :: parenLexemes right.needsParens right.lexemes
  | .unary op operand => op.lexeme :: parenLexemes operand.needsParens operand.lexemes
  | .inList item list =>
    parenLexemes item.needsParens item.lexemes ++ Keyword.in_.lexeme :: .mark .lParen ::
      (commaLexemes (listLexemes list) ++ [.mark .rParen])
  | .case branches none =>
    Keyword.case.lexeme :: .mark .lParen ::
      (commaLexemes (branchLexemes branches) ++ [.mark .rParen])
  | .case branches (some fallback) =>
    Keyword.case.lexeme :: .mark .lParen ::
      (commaLexemes (branchLexemes branches) ++
        ⟨.identifier, "else"⟩ :: (fallback.lexemes ++ [.mark .rParen]))
  | .cast value target =>
    Keyword.cast.lexeme :: .mark .lParen ::
      (value.lexemes ++ [Keyword.as_.lexeme, target.keyword.lexeme, .mark .rParen])
  | .interval value unit =>
    Keyword.interval.lexeme :: (parenLexemes value.needsParens value.lexemes ++ [unit.lexeme])
  | .weighted fields =>
    .mark .lBracket :: (commaLexemes (fields.map WeightedField.lexemes) ++ [.mark .rBracket])

/-- The lexemes of several expressions. -/
def listLexemes : List Expr → List (List Lexeme)
  | [] => []
  | e :: es => e.lexemes :: listLexemes es

/-- The lexemes of the branches of a choice. -/
def branchLexemes : List (Expr × Expr) → List (List Lexeme)
  | [] => []
  | (condition, value) :: branches =>
    (condition.lexemes ++ .mark .comma :: value.lexemes) :: branchLexemes branches

end

/-- The lexemes as an operand, in parentheses if it needs them. -/
def operandLexemes (e : Expr) : List Lexeme := parenLexemes e.needsParens e.lexemes

mutual

/-- How many levels of nesting reading the canonical text takes. -/
def levels : Expr → Nat
  | .literal _ | .field _ => 1
  | .weighted _ => 0
  | .call _ _ args _ => listLevels args + 1
  | .binary _ left right =>
    max (left.levels + left.needsParens.toNat) (right.levels + right.needsParens.toNat)
  | .unary _ operand => operand.levels + operand.needsParens.toNat + 1
  | .inList item list => max (item.levels + item.needsParens.toNat) (listLevels list)
  | .case branches none => branchLevels branches + 1
  | .case branches (some fallback) => max (branchLevels branches) fallback.levels + 1
  | .cast value _ => value.levels + 1
  | .interval value _ => value.levels + value.needsParens.toNat + 1

/-- The most levels that any of some expressions takes. -/
def listLevels : List Expr → Nat
  | [] => 0
  | e :: es => max e.levels (listLevels es)

/-- The most levels that any part of some branches takes. -/
def branchLevels : List (Expr × Expr) → Nat
  | [] => 0
  | (condition, value) :: branches =>
    max (max condition.levels value.levels) (branchLevels branches)

end

/-- How many levels of nesting reading the expression as an operand takes. -/
def operandLevels (e : Expr) : Nat := e.levels + e.needsParens.toNat

theorem texts_eq_map (es : List Expr) : texts es = es.map text := by
  induction es with
  | nil => rfl
  | cons e es ih => rw [texts, ih, List.map_cons]

theorem branchTexts_eq_map (branches : List (Expr × Expr)) :
    branchTexts branches = branches.map fun b => b.1.text ++ ", " ++ b.2.text := by
  induction branches with
  | nil => rfl
  | cons b branches ih => rw [branchTexts, ih, List.map_cons]

theorem listLexemes_eq_map (es : List Expr) : listLexemes es = es.map lexemes := by
  induction es with
  | nil => rfl
  | cons e es ih => rw [listLexemes, ih, List.map_cons]

/-- A call is written with its options behind its arguments. -/
theorem text_call (name : String) (family : FunctionFamily) (args : List Expr)
    (options : List NamedOption) :
    text (.call name family args options) =
      name ++ "(" ++ ", ".intercalate (args.map text ++ options.map NamedOption.text) ++ ")" := by
  rw [text, texts_eq_map]

theorem lexemes_call (name : String) (family : FunctionFamily) (args : List Expr)
    (options : List NamedOption) :
    lexemes (.call name family args options) = .word name :: .mark .lParen ::
      (commaLexemes (args.map lexemes ++ options.map NamedOption.lexemes) ++ [.mark .rParen]) := by
  rw [lexemes, listLexemes_eq_map]

theorem branchLexemes_eq_map (branches : List (Expr × Expr)) :
    branchLexemes branches = branches.map fun b => b.1.lexemes ++ .mark .comma :: b.2.lexemes := by
  induction branches with
  | nil => rfl
  | cons b branches ih => rw [branchLexemes, ih, List.map_cons]

theorem listLevels_le {es : List Expr} {n : Nat} : listLevels es ≤ n ↔ ∀ e ∈ es, e.levels ≤ n := by
  induction es with
  | nil => simp [listLevels]
  | cons e es ih => rw [listLevels, Nat.max_le, ih, List.forall_mem_cons]

theorem branchLevels_le {branches : List (Expr × Expr)} {n : Nat} :
    branchLevels branches ≤ n ↔ ∀ b ∈ branches, b.1.levels ≤ n ∧ b.2.levels ≤ n := by
  induction branches with
  | nil => simp [branchLevels]
  | cons b branches ih => rw [branchLevels, Nat.max_le, Nat.max_le, ih, List.forall_mem_cons, and_assoc]

end Expr

end PipedQuery
