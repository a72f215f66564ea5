import PipedQuery.Expr

/-!
# Encoded expressions

Expressions as JSON, and the comparison of expressions up to the scale of decimals.
-/

namespace PipedQuery

/-- The encoded option. -/
def NamedOption.toJson (o : NamedOption) : Json :=
  .obj [("name", .str o.name), ("value", o.value.toJson)]

/-- The encoded entry of a list of weighted fields. -/
def WeightedField.toJson (f : WeightedField) : Json :=
  .obj [("field", .str f.field), ("weight", .opt (fun w => .str w.text) f.weight)]

/-- Whether two weights are the same number, or both absent. -/
def sameWeight : Option Decimal → Option Decimal → Bool
  | none, none => true
  | some a, some b => a.same b
  | _, _ => false

/-- Whether two lists agree entry by entry. -/
def sameLists {α : Type} (same : α → α → Bool) : List α → List α → Bool
  | [], [] => true
  | a :: as, b :: bs => same a b && sameLists same as bs
  | _, _ => false

/-- Whether two options agree. -/
def NamedOption.same (a b : NamedOption) : Bool := a.name = b.name && a.value.same b.value

/-- Whether two weighted fields agree. -/
def WeightedField.same (a b : WeightedField) : Bool :=
  a.field = b.field && sameWeight a.weight b.weight

namespace Expr

mutual

/-- The encoded expression. -/
def toJson : Expr → Json
  | .literal value => .obj [("type", .str "literal"), ("value", value.toJson)]
  | .field name => .obj [("type", .str "field"), ("name", .str name)]
  | .call name family args options =>
    .obj [("type", .str "function_call"), ("name", .str name), ("family", .str family.tag),
      ("args", .arr (toJsons args)), ("options", .arr (options.map NamedOption.toJson))]
  | .binary op left right =>
    .obj [("type", .str "binary_op"), ("op", .str op.tag), ("left", left.toJson),
      ("right", right.toJson)]
  | .unary op operand =>
    .obj [("type", .str "unary_op"), ("op", .str op.tag), ("operand", operand.toJson)]
  | .inList item list =>
    .obj [("type", .str "in"), ("expr", item.toJson), ("list", .arr (toJsons list))]
  | .case branches none =>
    .obj [("type", .str "case"), ("branches", .arr (branchJsons branches)), ("default", .null)]
  | .case branches (some fallback) =>
    .obj [("type", .str "case"), ("branches", .arr (branchJsons branches)),
      ("default", fallback.toJson)]
  | .cast value target =>
    .obj [("type", .str "cast"), ("expr", value.toJson), ("to", .str target.text)]
  | .interval value unit =>
    .obj [("type", .str "interval"), ("value", value.toJson), ("unit", .str unit.spelling)]
  | .weighted fields =>
    .obj [("type", .str "weighted_fields"), ("fields", .arr (fields.map WeightedField.toJson))]

/-- Several encoded expressions. -/
def toJsons : List Expr → List Json
  | [] => []
  | e :: es => e.toJson :: toJsons es

/-- The encoded branches of a choice. -/
def branchJsons : List (Expr × Expr) → List Json
  | [] => []
  | (condition, value) :: branches =>
    .obj [("condition", condition.toJson), ("value", value.toJson)] :: branchJsons branches

end

mutual

/-- Whether two expressions are equal, decimals being compared as numbers. -/
def same : Expr → Expr → Bool
  | .literal a, .literal b => a.same b
  | .field a, .field b => a = b
  | .call a family args options, .call b family' args' options' =>
    a = b && family = family' && sameAll args args' && sameLists NamedOption.same options options'
  | .binary op left right, .binary op' left' right' =>
    op = op' && same left left' && same right right'
  | .unary op operand, .unary op' operand' => op = op' && same operand operand'
  | .inList item list, .inList item' list' => same item item' && sameAll list list'
  | .case branches none, .case branches' none => sameBranches branches branches'
  | .case branches (some fallback), .case branches' (some fallback') =>
    sameBranches branches branches' && same fallback fallback'
  | .cast value target, .cast value' target' => same value value' && target = target'
  | .interval value unit, .interval value' unit' => same value value' && unit = unit'
  | .weighted fields, .weighted fields' => sameLists WeightedField.same fields fields'
  | _, _ => false

/-- Whether two lists of expressions are equal in the same sense. -/
def sameAll : List Expr → List Expr → Bool
  | [], [] => true
  | e :: es, e' :: es' => same e e' && sameAll es es'
  | _, _ => false

/-- Whether two lists of branches are equal in the same sense. -/
def sameBranches : List (Expr × Expr) → List (Expr × Expr) → Bool
  | [], [] => true
  | (condition, value) :: branches, (condition', value') :: branches' =>
    same condition condition' && same value value' && sameBranches branches branches'
  | _, _ => false

end

end Expr

end PipedQuery
