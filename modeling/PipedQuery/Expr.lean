import PipedQuery.Keyword.Class
import PipedQuery.Literal
import PipedQuery.Name

/-!
# Expressions

The trees that conditions, assignments, aggregations and arguments are read into.
-/

namespace PipedQuery

/-- Operators between two operands. -/
inductive BinaryOp where
  | or | xor | and
  | equal | notEqual | less | lessEqual | greater | greaterEqual | like | regexp
  | add | subtract | multiply | divide | modulo
deriving DecidableEq

namespace BinaryOp

/-- Every operator. -/
def all : List BinaryOp :=
  [.or, .xor, .and, .equal, .notEqual, .less, .lessEqual, .greater, .greaterEqual, .like, .regexp,
   .add, .subtract, .multiply, .divide, .modulo]

/-- How the operator is written. -/
def symbol : BinaryOp → String
  | .or => "or"
  | .xor => "xor"
  | .and => "and"
  | .equal => "="
  | .notEqual => "!="
  | .less => "<"
  | .lessEqual => "<="
  | .greater => ">"
  | .greaterEqual => ">="
  | .like => "like"
  | .regexp => "regexp"
  | .add => "+"
  | .subtract => "-"
  | .multiply => "*"
  | .divide => "/"
  | .modulo => "%"

/-- The operator's tag in encoded answers. -/
def tag : BinaryOp → String
  | .or => "or"
  | .xor => "xor"
  | .and => "and"
  | .equal => "equal"
  | .notEqual => "not_equal"
  | .less => "less"
  | .lessEqual => "less_equal"
  | .greater => "greater"
  | .greaterEqual => "greater_equal"
  | .like => "like"
  | .regexp => "regexp"
  | .add => "add"
  | .subtract => "subtract"
  | .multiply => "multiply"
  | .divide => "divide"
  | .modulo => "modulo"

/-- Whether the operator compares two values. -/
def isComparison : BinaryOp → Bool
  | .equal | .notEqual | .less | .lessEqual | .greater | .greaterEqual | .like | .regexp => true
  | _ => false

/-- Whether the operator joins two conditions. -/
def isLogical : BinaryOp → Bool
  | .or | .xor | .and => true
  | _ => false

end BinaryOp

/-- Operators in front of one operand. -/
inductive UnaryOp where
  | not
  | negate
  | plus
deriving DecidableEq

namespace UnaryOp

/-- Every operator. -/
def all : List UnaryOp := [.not, .negate, .plus]

/-- How the operator is written in front of its operand. -/
def symbol : UnaryOp → String
  | .not => "not "
  | .negate => "-"
  | .plus => "+"

/-- The operator's tag in encoded answers. -/
def tag : UnaryOp → String
  | .not => "not"
  | .negate => "negate"
  | .plus => "plus"

end UnaryOp

/-- An argument `name=value` of a relevance function. -/
structure NamedOption where
  name : String
  value : Literal
deriving DecidableEq

/-- An entry of a list `[field ^ weight, ...]`. -/
structure WeightedField where
  field : String
  weight : Option Decimal
deriving DecidableEq

/-- An expression. -/
inductive Expr where
  /-- A constant. -/
  | literal (value : Literal)
  /-- A field, possibly a dotted path. -/
  | field (name : String)
  /-- A call of a function, with positional arguments and, for relevance functions, options. -/
  | call (name : String) (family : FunctionFamily) (args : List Expr)
      (options : List NamedOption)
  /-- An operator between two operands. -/
  | binary (op : BinaryOp) (left right : Expr)
  /-- An operator in front of its operand. -/
  | unary (op : UnaryOp) (operand : Expr)
  /-- A test whether a value is in a list. -/
  | inList (item : Expr) (list : List Expr)
  /-- A choice by conditions, each paired with its value, and a fallback. -/
  | case (branches : List (Expr × Expr)) (fallback : Option Expr)
  /-- A conversion. -/
  | cast (value : Expr) (target : DataType)
  /-- A stretch of time. -/
  | interval (value : Expr) (unit : Keyword)
  /-- The fields that a relevance function searches, with their weights. -/
  | weighted (fields : List WeightedField)

namespace Expr

/-- The name of a field. -/
def asField? : Expr → Option String
  | .field name => some name
  | _ => none

/-- The name of the function that is called. -/
def asCall? : Expr → Option String
  | .call name _ _ _ => some name
  | _ => none

/-- The value of a named option of a call, in any ASCII letter case of the name.  The first of
    several options with the name counts. -/
def option? (name : String) : Expr → Option Literal
  | .call _ _ _ options =>
    (options.find? fun o => o.name.map Char.toLower == name.map Char.toLower).map (·.value)
  | _ => none

end Expr

end PipedQuery
