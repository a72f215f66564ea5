import PipedQuery.Keyword

/-!
# Classes of keywords

Which keywords may name a field, call a function, measure an interval or a span, or name an
option.  Several keywords belong to a class besides the one of their role: `DAY` is a function
and a unit of both kinds, and `D` is a clause word and a span unit.
-/

namespace PipedQuery

/-- The family of a function. -/
inductive FunctionFamily where
  | aggregate
  | scalar
  | relevance
deriving DecidableEq

/-- The family's tag in encoded answers. -/
def FunctionFamily.tag : FunctionFamily → String
  | .aggregate => "aggregate"
  | .scalar => "scalar"
  | .relevance => "relevance"

/-- Every function family. -/
def FunctionFamily.all : List FunctionFamily := [.aggregate, .scalar, .relevance]

namespace Keyword

/-- Whether the word starts a command. -/
def isCommand (k : Keyword) : Bool := k.role = .command

/-- Whether the word may stand for a field name outside of command position.  The operators that
    glue expressions together and the Boolean constants never may. -/
def canNameField : Keyword → Bool
  | .and_ | .or_ | .xor_ | .not_ | .in_ | .regexp | .as_ | .by_ | .true_ | .false_ => false
  | _ => true

/-- The family of the function that the word calls. -/
def family? (k : Keyword) : Option FunctionFamily :=
  match k.role with
  | .aggregateFunction => some .aggregate
  | .scalarFunction => some .scalar
  | .relevanceFunction => some .relevance
  | _ => none

/-- Whether the word calls a relevance function over a weighted list of fields. -/
def isMultiField : Keyword → Bool
  | .multiMatch | .simpleQueryString | .queryString => true
  | _ => false

/-- Whether the word names an option of the relevance functions. -/
def isRelevanceOption (k : Keyword) : Bool := k.role = .relevanceOption || k = .timeZone

/-- Whether the word is a unit after `interval <value>`. -/
def isIntervalUnit (k : Keyword) : Bool :=
  k.role = .intervalUnit ||
    match k with
    | .microsecond | .second | .minute | .hour | .day | .week | .month | .quarter | .year => true
    | _ => false

/-- Whether the word is a unit in `span(<field>, <value> <unit>)`. -/
def isSpanUnit (k : Keyword) : Bool :=
  k.role = .spanUnit ||
    match k with
    | .d | .millisecond | .second | .minute | .hour | .day | .week | .month | .quarter
    | .year => true
    | _ => false

/-- Whether the word is a target type of `cast`. -/
def isDataType (k : Keyword) : Bool :=
  k.role = .dataType ||
    match k with
    | .date | .time | .timestamp => true
    | _ => false

/-- Whether the word is the comparison hint of a sort key. -/
def isSortCast : Keyword → Bool
  | .auto | .str | .ip | .num => true
  | _ => false

/-- Whether the word names a parameter of `kmeans`. -/
def isKmeansOption : Keyword → Bool
  | .centroids | .iterations | .distanceType => true
  | _ => false

/-- Whether the word names a parameter of `ad`. -/
def isAdOption (k : Keyword) : Bool := k.role = .mlOption && !k.isKmeansOption

end Keyword

end PipedQuery
