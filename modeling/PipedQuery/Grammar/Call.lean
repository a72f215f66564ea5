import PipedQuery.Grammar.Value

/-!
# Calls and special forms

Calls of functions with their own ways to write arguments, and the forms that look like calls:
`case`, `cast` and `interval`.  Each takes the parsers of the expressions inside it as arguments,
so that it does not matter here how deep those may go.
-/

namespace PipedQuery

namespace Parser

variable {σ : Type} [Input σ]

/-- The value of a named option: a name, which stands for its own text, or a constant. -/
def optionValue : Parser σ Literal := do
  match firstKind (← lexemes) with
  | some .identifier => return .str (← qualifiedName true)
  | some (.keyword k) =>
    if k = .true_ || k = .false_ then literal else return .str (← qualifiedName true)
  | _ => literal

/-- An option `name=value` of a relevance function.  An option with an unknown name is reported and
    dropped. -/
def namedOption (function : Keyword) : Parser σ (Option NamedOption) := do
  let place ← remaining
  match ← peek with
  | none => fail (.expected .namedOption)
  | some name =>
    skip 1
    expectMark .equal
    let value ← optionValue
    match name.kind.keyword?.filter Keyword.isRelevanceOption with
    | some k => return some ⟨k.lowercase, value⟩
    | none =>
      raiseAt place (.unknownFunctionOption name.text function)
      return none

/-- The weight of a field. -/
def weight : Parser σ Decimal := do
  match ← literal with
  | .int n => return .ofInt n
  | .decimal d => return d
  | other => fail (.weightNotANumber other.typeName)

/-- A field of a weighted list, written as a string or as a name, and its weight. -/
def weightedField : Parser σ WeightedField := do
  let field ← match ← string? with
    | some field => pure field
    | none => fieldName
  if ← eatMark .caret then
    return ⟨field, some (← weight)⟩
  return ⟨field, none⟩

/-- A list `[field ^ weight, ...]`. -/
def weightedFields : Parser σ Expr := do
  expectMark .lBracket
  let fields ← list weightedField
  expectMark .rBracket
  return .weighted fields

/-- The arguments of a relevance function while they are being read, the last ones first. -/
structure RelevanceArguments where
  args : List Expr
  options : List NamedOption
  sawOption : Bool

/-- The next argument or option of a relevance function.  Options start only once the required
    arguments are there, so that `match(field = 'x')` is still a comparison, and nothing but options
    follows one. -/
def relevanceArgument (expression : Parser σ Expr) (function : Keyword) (required : Nat)
    (a : RelevanceArguments) : Parser σ RelevanceArguments := do
  if a.args.length ≥ required && startsAssignment (← lexemes) then
    let option ← namedOption function
    return { a with options := option.toList ++ a.options, sawOption := true }
  if a.sawOption then
    fail (.expected .namedOption)
  if a.args.isEmpty && function.isMultiField && (← check (.mark .lBracket)) then
    return { a with args := [← weightedFields] }
  return { a with args := (← expression) :: a.args }

/-- The arguments and options of a relevance function, up to the closing parenthesis. -/
def relevanceArguments (expression : Parser σ Expr) (function : Keyword) :
    Parser σ (List Expr × List NamedOption) := do
  if ← check (.mark .rParen) then
    return ([], [])
  let required := (function.arity?.map (·.min)).getD 2
  let a ← separated (relevanceArgument expression function required) ⟨[], [], false⟩
  return (a.args.reverse, a.options.reverse)

/-- Arguments separated by commas, up to the closing parenthesis. -/
def arguments (expression : Parser σ Expr) : Parser σ (List Expr) := do
  if ← check (.mark .rParen) then
    return []
  list expression

/-- The arguments of `position`: either `sub in text` or a plain list, of which the first binds
    tighter than `in`. -/
def positionArguments (expression additive : Parser σ Expr) : Parser σ (List Expr) := do
  let needle ← additive
  if ← eatKeyword .in_ then
    return [needle, ← expression]
  let args ← behindCommas (fun args => do return (← expression) :: args) [needle]
  return args.reverse

/-- Whether `unit from` comes next. -/
def startsExtractUnit (ts : List Lexeme) : Bool :=
  (match firstKind ts with
    | some (.keyword k) => k.isIntervalUnit
    | _ => false) &&
  secondKind ts = some (.keyword .from_)

/-- The arguments of `extract`: either `unit from time`, where the unit stands for its own name, or
    a plain list. -/
def extractArguments (expression : Parser σ Expr) : Parser σ (List Expr) := do
  match ← lexemes with
  | unit :: more =>
    if startsExtractUnit (unit :: more) then
      skip 1
      expectKeyword .from_
      return [.literal (.str (unit.text.map Char.toLower)), ← expression]
    else arguments expression
  | [] => arguments expression

/-- The arguments of `percentile<rank>(value)`, which is `percentile(value, rank)`. -/
def rankedArguments (expression : Parser σ Expr) : Parser σ (List Expr) := do
  let rank ← plainNumber .percentileRank
  expectMark .greater
  expectMark .lParen
  return [← expression, .literal rank]

/-- The arguments of a call, from the lexeme behind the name up to the closing parenthesis. -/
def callArguments (expression additive : Parser σ Expr) (function : Keyword)
    (family : FunctionFamily) : Parser σ (List Expr × List NamedOption) := do
  if function = .percentile then
    if ← eatMark .less then
      return (← rankedArguments expression, [])
  expectMark .lParen
  if function = .extract then
    return (← extractArguments expression, [])
  else if function = .position then
    return (← positionArguments expression additive, [])
  else if family = .relevance then
    relevanceArguments expression function
  else
    return (← arguments expression, [])

/-- A call of a function, of which the name comes next.  A wrong number of arguments is reported at
    the name. -/
def call (expression additive : Parser σ Expr) (function : Keyword) (family : FunctionFamily) :
    Parser σ Expr := do
  let place ← remaining
  skip 1
  let (args, options) ← callArguments expression additive function family
  expectMark .rParen
  match function.arity? with
  | some arity =>
    unless arity.accepts args.length do
      raiseAt place (.wrongArity function arity args.length)
  | none => pure ()
  return .call function.lowercase family args options

/-- A stretch `interval value unit`, of which `interval` comes next.  The value binds like a sum, so
    that the unit is not taken for a second condition. -/
def interval (additive : Parser σ Expr) : Parser σ Expr := do
  skip 1
  let value ← additive
  match firstKind (← lexemes) with
  | some (.keyword unit) =>
    if unit.isIntervalUnit then
      skip 1
      return .interval value unit
    fail (.expected .intervalUnit)
  | _ => fail (.expected .intervalUnit)

/-- A condition and the value that goes with it. -/
def branch (expression : Parser σ Expr) : Parser σ (Expr × Expr) := do
  let condition ← expression
  expectMark .comma
  return (condition, ← expression)

/-- Whether the word `else` comes next. -/
def startsElse (ts : List Lexeme) : Bool :=
  ts.head?.any fun l => l.kind = .identifier && isElse l.text

/-- A choice `case(condition, value, ... else fallback)`, of which `case` comes next. -/
def case (expression : Parser σ Expr) : Parser σ Expr := do
  skip 1
  expectMark .lParen
  let branches ← list (branch expression)
  let fallback ←
    if startsElse (← lexemes) then do
      skip 1
      pure (some (← expression))
    else pure none
  expectMark .rParen
  return .case branches fallback

/-- The type that the next lexeme stands for. -/
def typeName : Parser σ DataType := do
  match (firstKind (← lexemes)).bind TokenKind.keyword? |>.bind DataType.ofKeyword? with
  | some type =>
    skip 1
    return type
  | none => fail (.expected .typeName)

/-- A conversion `cast(value as type)`, of which `cast` comes next. -/
def cast (expression : Parser σ Expr) : Parser σ Expr := do
  skip 1
  expectMark .lParen
  let value ← expression
  expectKeyword .as_
  let type ← typeName
  expectMark .rParen
  return .cast value type

end Parser

end PipedQuery
