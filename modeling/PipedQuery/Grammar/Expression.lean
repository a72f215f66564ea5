import PipedQuery.Grammar.Call

/-!
# The expression grammar

From loose to tight: `xor`, `or`, `and`, `not`, comparisons, sums, products, signs and primary
expressions.  Operators of one level associate to the left, comparisons do not associate at all,
and two conditions side by side are joined by `and`.

Signs, `not`, parentheses and calls may nest `maxNesting` deep.  `level n` holds the parsers for
expressions in which `n` more levels are allowed, built from those for one level less.
-/

namespace PipedQuery

/-- How deep parentheses, calls and prefix operators may nest in one expression. -/
def maxNesting : Nat := 100

/-- What a primary expression can be, as told by its first two lexemes. -/
inductive PrimaryForm where
  | number
  | string
  | group
  | boolean (value : Bool)
  | date (kind : DateKind)
  | interval
  | case
  | cast
  | call (function : Keyword) (family : FunctionFamily)
  | unknownCall
  | field
  | none
deriving DecidableEq

/-- Whether a lexeme of the kind may follow `interval` as the start of its value. -/
def startsIntervalValue : TokenKind → Bool
  | .integer | .decimal | .quoted .double | .quoted .single | .mark .lParen | .mark .minus
  | .identifier => true
  | _ => false

/-- The form of a primary expression that starts with a keyword. -/
def keywordForm (k : Keyword) (next : Option TokenKind) : PrimaryForm :=
  if k = .true_ then .boolean true
  else if k = .false_ then .boolean false
  else match DateKind.ofKeyword? k, next.any TokenKind.isString with
  | some kind, true => .date kind
  | _, _ =>
    if k = .interval && next.any startsIntervalValue then .interval
    else if k = .case && next = some (.mark .lParen) then .case
    else if k = .cast && next = some (.mark .lParen) then .cast
    else match k.family? with
    | some family =>
      if next = some (.mark .lParen) || (k = .percentile && next = some (.mark .less)) then
        .call k family
      else if k.canNameField then .field
      else .none
    | none => if k.canNameField then .field else .none

/-- The form of a primary expression. -/
def primaryForm (ts : List Lexeme) : PrimaryForm :=
  match firstKind ts with
  | some .integer | some .decimal => .number
  | some (.quoted .double) | some (.quoted .single) => .string
  | some (.mark .lParen) => .group
  | some (.keyword k) => keywordForm k (secondKind ts)
  | some .identifier =>
    if secondKind ts = some (.mark .lParen) then .unknownCall else .field
  | some (.quoted .backtick) | some .datedName => .field
  | _ => .none

/-- Whether the right side of an implied `and` starts here.  Words that go on with the expression or
    end it do not start one, and neither does the `source=` clause of a search. -/
def startsImpliedOperand (ts : List Lexeme) : Bool :=
  match ts with
  | [] => false
  | l :: rest =>
    match l.kind with
    | .identifier => !isElse l.text
    | .integer | .decimal | .quoted _ | .datedName | .mark .lParen => true
    | .keyword .and_ | .keyword .or_ | .keyword .xor_ | .keyword .in_ | .keyword .regexp
    | .keyword .as_ | .keyword .by_ | .keyword .from_ => false
    | .keyword .like => firstKind rest = some (.mark .lParen)
    | .keyword .source | .keyword .index => firstKind rest != some (.mark .equal)
    | .keyword _ => true
    | _ => false

/-- The comparison that comes next.  Before a parenthesis `like` is a function instead. -/
def comparison? (ts : List Lexeme) : Option BinaryOp :=
  match firstKind ts with
  | some (.mark .equal) => some .equal
  | some (.mark .notEqual) => some .notEqual
  | some (.mark .less) => some .less
  | some (.mark .lessEqual) => some .lessEqual
  | some (.mark .greater) => some .greater
  | some (.mark .greaterEqual) => some .greaterEqual
  | some (.keyword .regexp) => some .regexp
  | some (.keyword .like) => if secondKind ts = some (.mark .lParen) then none else some .like
  | _ => none

/-- Whether a comparison or a membership test goes on here. -/
def startsComparison (ts : List Lexeme) : Bool :=
  (comparison? ts).isSome || firstKind ts = some (.keyword .in_)

/-- The operator of a sum that comes next. -/
def additiveOp? : TokenKind → Option BinaryOp
  | .mark .plus => some .add
  | .mark .minus => some .subtract
  | _ => none

/-- The operator of a product that comes next. -/
def multiplicativeOp? : TokenKind → Option BinaryOp
  | .mark .star => some .multiply
  | .mark .slash => some .divide
  | .mark .percent => some .modulo
  | _ => none

namespace Parser

variable {σ : Type} [Input σ]

/-- Passes over the operator that comes next, if `op?` knows its kind. -/
def operator? (op? : TokenKind → Option BinaryOp) : Parser σ (Option BinaryOp) := do
  match (firstKind (← lexemes)).bind op? with
  | some op =>
    skip 1
    return some op
  | none => return none

/-- Passes over an operator that is the given keyword, if it comes next. -/
def keywordOperator? (k : Keyword) (op : BinaryOp) : Parser σ (Option BinaryOp) := do
  if ← eatKeyword k then
    return some op
  return none

/-- The operator `and`, written or implied. -/
def andOperator? : Parser σ (Option BinaryOp) := do
  if ← eatKeyword .and_ then
    return some .and
  if startsImpliedOperand (← lexemes) then
    return some .and
  return none

/-- Operands joined by operators, associating to the left. -/
def chain (operand : Parser σ Expr) (op? : Parser σ (Option BinaryOp)) : Parser σ Expr := do
  let first ← operand
  iterate (fun left => do
    match ← op? with
    | some op => return some (.binary op left (← operand))
    | none => return none) first

/-- A list of expressions in parentheses. -/
def valueList (expression : Parser σ Expr) : Parser σ (List Expr) := do
  expectMark .lParen
  let items ← list expression
  expectMark .rParen
  return items

/-- What follows the left side of a comparison, if anything does. -/
def comparisonTail? (additive expression : Parser σ Expr) (left : Expr) : Parser σ (Option Expr) := do
  if ← eatKeyword .in_ then
    return some (.inList left (← valueList expression))
  match comparison? (← lexemes) with
  | some op =>
    skip 1
    return some (.binary op left (← additive))
  | none => return none

/-- A comparison, a membership test or a sum alone. -/
def comparison (additive expression : Parser σ Expr) : Parser σ Expr := do
  let left ← additive
  match ← comparisonTail? additive expression left with
  | none => return left
  | some e =>
    if startsComparison (← lexemes) then
      fail .chainedComparison
    return e

/-- Any number of `not`, and a comparison.  The parser behind `not` is that of one level less. -/
def negation (deeper comparison : Parser σ Expr) : Parser σ Expr := do
  if ← eatKeyword .not_ then
    return .unary .not (← deeper)
  comparison

/-- Comparisons joined by the three logical operators. -/
def logical (negation : Parser σ Expr) : Parser σ Expr :=
  let conjunction := chain negation andOperator?
  let disjunction := chain conjunction (keywordOperator? .or_ .or)
  chain disjunction (keywordOperator? .xor_ .xor)

end Parser

/-- The parsers of the expression grammar for one number of levels. -/
structure Grammar (σ : Type) where
  expression : Parser σ Expr
  negation : Parser σ Expr
  additive : Parser σ Expr
  unary : Parser σ Expr

/-- The parsers of the expression grammar for the lexemes of a stage. -/
abbrev StageGrammar : Type := Grammar (List Lexeme)

namespace Grammar

open PipedQuery.Parser

section Levels

variable {σ : Type} [Input σ]

/-- The levels above signed operands.  Only the list of a membership test goes back to the top
    without going deeper. -/
def ofUnary (unary deeperNegation : Parser σ Expr) : Grammar σ :=
  let additive := chain (chain unary (operator? multiplicativeOp?)) (operator? additiveOp?)
  let negationWith := fun expression =>
    Parser.negation deeperNegation (comparison additive expression)
  let expression := Parser.fix fun expression => logical (negationWith expression)
  { expression, negation := negationWith expression, additive, unary }

/-- A primary expression, whose parts belong to `deeper`. -/
def primary (deeper : Grammar σ) : Parser σ Expr := do
  let ts ← lexemes
  match ts, primaryForm ts with
  | l :: _, .number => return .literal (← number l)
  | l :: _, .string =>
    skip 1
    return .literal (.str (unquote l.text).value)
  | _, .group =>
    skip 1
    let e ← deeper.expression
    expectMark .rParen
    return e
  | _, .boolean value =>
    skip 1
    return .literal (.bool value)
  | _ :: l :: _, .date kind =>
    skip 2
    return .literal (.date kind (unquote l.text).value)
  | _, .interval => Parser.interval deeper.additive
  | _, .case => Parser.case deeper.expression
  | _, .cast => Parser.cast deeper.expression
  | _, .call function family => Parser.call deeper.expression deeper.additive function family
  | l :: _, .unknownCall => fail (.unknownFunction l.text)
  | _, .field => return .field (← fieldName)
  | _, _ => fail (.expected .expression)

/-- A primary expression with any number of signs, whose parts belong to `deeper`. -/
def signed (deeper : Grammar σ) : Parser σ Expr := do
  if ← eatMark .minus then
    return .unary .negate (← deeper.unary)
  if ← eatMark .plus then
    return .unary .plus (← deeper.unary)
  primary deeper

end Levels

/-- The grammar of expressions with `n` levels left. -/
def level : Nat → StageGrammar
  | 0 => ofUnary (fail .nestedTooDeeply) (fail .nestedTooDeeply)
  | n + 1 =>
    let deeper := level n
    ofUnary (signed deeper) deeper.negation

/-- The grammar of whole expressions. -/
def full : StageGrammar := level maxNesting

end Grammar

end PipedQuery
