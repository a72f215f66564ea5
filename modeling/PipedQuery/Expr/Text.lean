import PipedQuery.Expr

/-!
# Expressions as text

The canonical text of an expression.  Operands that are not primary stand in parentheses, so the
text reads the same whatever binds tighter.
-/

namespace PipedQuery

/-- The option as an argument. -/
def NamedOption.text (o : NamedOption) : String := o.name ++ "=" ++ o.value.text

/-- The entry of a list of weighted fields. -/
def WeightedField.text (f : WeightedField) : String :=
  writeString f.field ++
    match f.weight with
    | some weight => " ^ " ++ weight.text
    | none => ""

namespace Expr

/-- Whether the expression needs parentheses as an operand. -/
def needsParens : Expr → Bool
  | .binary _ _ _ | .inList _ _ | .unary .not _ => true
  | _ => false

/-- A text between parentheses if they are needed. -/
def parenthesize (needed : Bool) (text : String) : String :=
  if needed then "(" ++ text ++ ")" else text

mutual

/-- The canonical text. -/
def text : Expr → String
  | .literal value => value.text
  | .field name => writeName name
  | .call name _ args options =>
    name ++ "(" ++ ", ".intercalate (texts args ++ options.map NamedOption.text) ++ ")"
  | .binary op left right =>
    parenthesize left.needsParens left.text ++ " " ++ op.symbol ++ " " ++
      parenthesize right.needsParens right.text
  | .unary op operand => op.symbol ++ parenthesize operand.needsParens operand.text
  | .inList item list =>
    parenthesize item.needsParens item.text ++ " in (" ++ ", ".intercalate (texts list) ++ ")"
  | .case branches none => "case(" ++ ", ".intercalate (branchTexts branches) ++ ")"
  | .case branches (some fallback) =>
    "case(" ++ ", ".intercalate (branchTexts branches) ++ " else " ++ fallback.text ++ ")"
  | .cast value target => "cast(" ++ value.text ++ " as " ++ target.text ++ ")"
  | .interval value unit =>
    "interval " ++ parenthesize value.needsParens value.text ++ " " ++ unit.lowercase
  | .weighted fields => "[" ++ ", ".intercalate (fields.map WeightedField.text) ++ "]"

/-- The canonical texts of several expressions. -/
def texts : List Expr → List String
  | [] => []
  | e :: es => e.text :: texts es

/-- The canonical texts of the branches of a choice. -/
def branchTexts : List (Expr × Expr) → List String
  | [] => []
  | (condition, value) :: branches =>
    (condition.text ++ ", " ++ value.text) :: branchTexts branches

end

end Expr

end PipedQuery
