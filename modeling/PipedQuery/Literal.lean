import PipedQuery.Decimal
import PipedQuery.Json
import PipedQuery.Keyword
import PipedQuery.Text.Quoted

/-!
# Constants

The constant values of a query, the words that introduce dates and times, and the types that a
value may be cast to.
-/

namespace PipedQuery

/-- The kinds of dated constants, such as `date '2024-01-01'`. -/
inductive DateKind where
  | date
  | time
  | timestamp
deriving DecidableEq

namespace DateKind

/-- The word that introduces the kind, which is also its tag in encoded answers. -/
def text : DateKind → String
  | .date => "date"
  | .time => "time"
  | .timestamp => "timestamp"

/-- The kind that a keyword introduces. -/
def ofKeyword? : Keyword → Option DateKind
  | .date => some .date
  | .time => some .time
  | .timestamp => some .timestamp
  | _ => none

end DateKind

/-- The target types of `cast`. -/
inductive DataType where
  | int | integer | long | float | double | string | boolean | date | time | timestamp
deriving DecidableEq

namespace DataType

/-- The word for the type, which is also its tag in encoded answers. -/
def text : DataType → String
  | .int => "int"
  | .integer => "integer"
  | .long => "long"
  | .float => "float"
  | .double => "double"
  | .string => "string"
  | .boolean => "boolean"
  | .date => "date"
  | .time => "time"
  | .timestamp => "timestamp"

/-- The type that a keyword stands for. -/
def ofKeyword? : Keyword → Option DataType
  | .int => some .int
  | .integer => some .integer
  | .long => some .long
  | .float => some .float
  | .double => some .double
  | .string => some .string
  | .boolean => some .boolean
  | .date => some .date
  | .time => some .time
  | .timestamp => some .timestamp
  | _ => none

end DataType

/-- A constant value. -/
inductive Literal where
  | int (value : Int)
  | decimal (value : Decimal)
  | str (value : String)
  | bool (value : Bool)
  | date (kind : DateKind) (value : String)
deriving DecidableEq

/-- The word for a truth value. -/
def boolText (b : Bool) : String := if b then "true" else "false"

namespace Literal

/-- The value of an integer constant. -/
def asInt? : Literal → Option Int
  | .int n => some n
  | _ => none

/-- The value of a Boolean constant. -/
def asBool? : Literal → Option Bool
  | .bool b => some b
  | _ => none

/-- The value of a string constant. -/
def asString? : Literal → Option String
  | .str s => some s
  | _ => none

/-- Whether the constant is a number. -/
def isNumeric : Literal → Bool
  | .int _ | .decimal _ => true
  | _ => false

/-- The name of the constant's type in messages. -/
def typeName : Literal → String
  | .int _ => "integer"
  | .decimal _ => "decimal"
  | .str _ => "string"
  | .bool _ => "boolean"
  | .date _ _ => "date"

/-- The constant with the sign of a number turned round. -/
def neg : Literal → Literal
  | .int n => .int (-n)
  | .decimal d => .decimal d.neg
  | other => other

/-- The constant as it is written in a query. -/
def text : Literal → String
  | .int n => toString n
  | .decimal d => d.text
  | .str s => writeString s
  | .bool b => boolText b
  | .date kind value => kind.text ++ " " ++ writeString value

/-- The encoded constant.  Decimals are strings, so that every digit survives. -/
def toJson : Literal → Json
  | .int n => .obj [("type", .str "int"), ("value", .num n)]
  | .decimal d => .obj [("type", .str "decimal"), ("value", .str d.text)]
  | .str s => .obj [("type", .str "str"), ("value", .str s)]
  | .bool b => .obj [("type", .str "bool"), ("value", .bool b)]
  | .date kind value =>
    .obj [("type", .str "date"),
      ("value", .obj [("kind", .str kind.text), ("value", .str value)])]

/-- Whether two constants are equal, decimals being compared as numbers. -/
def same : Literal → Literal → Bool
  | .decimal a, .decimal b => a.same b
  | a, b => a = b

end Literal

end PipedQuery
