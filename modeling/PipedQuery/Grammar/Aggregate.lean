import PipedQuery.Grammar.Stage

/-!
# Stages that aggregate and rank

The commands `stats`, `dedup`, `top` and `rare`.  Each parser starts at the command's keyword.
-/

namespace PipedQuery

namespace Parser

variable {σ : Type} [Input σ]

/-- An aggregation `function as column`.  Without parentheses `count` counts the rows. -/
def aggregation (grammar : Grammar σ) : Parser σ Aggregation := do
  let ts ← lexemes
  match ts with
  | ⟨.keyword k, text⟩ :: _ =>
    if (k = .count || k = .c) && secondKind ts != some (.mark .lParen) then
      skip 1
      return ⟨.call k.lowercase .aggregate [] [], ← alias?⟩
    match k.family? with
    | some .aggregate =>
      let e ← call grammar.expression grammar.additive k .aggregate
      return ⟨e, ← alias?⟩
    | some _ => fail (.notAnAggregation text)
    | none => fail (.expected .aggregation)
  | _ => fail (.expected .aggregation)

/-- The unit of a bucket, if one comes before the closing parenthesis. -/
def bucketUnit? : Parser σ (Option Keyword) := do
  match firstKind (← lexemes) with
  | some (.mark .rParen) => return none
  | some (.keyword k) =>
    if k.isSpanUnit then
      skip 1
      return some k
    fail .unknownSpanUnit
  | _ => fail .unknownSpanUnit

/-- A bucket `span(field, value unit) as column`, of which `span` comes next. -/
def bucket : Parser σ Bucket := do
  skip 1
  expectMark .lParen
  let field ← fieldName
  expectMark .comma
  let value ← plainNumber .spanLength
  let unit ← bucketUnit?
  expectMark .rParen
  return ⟨field, value, unit, ← alias?⟩

/-- Whether a bucket comes next. -/
def startsBucket (ts : List Lexeme) : Bool :=
  firstKind ts = some (.keyword .span) && secondKind ts = some (.mark .lParen)

/-- What is grouped by: a bucket, fields, or a bucket and fields. -/
def grouping : Parser σ (Option Bucket × List String) := do
  unless ← eatKeyword .by_ do
    return (none, [])
  if startsBucket (← lexemes) then
    let span ← bucket
    if ← eatMark .comma then
      return (some span, ← lenientList fieldName)
    return (some span, [])
  return (none, ← lenientList fieldName)

/-- The next option of `stats`, if one comes next. -/
def statsOption? (s : Stats) : Parser σ (Option Stats) := do
  if ← atOption .partitions then
    skip 2
    return some { s with partitions := some (← integer) }
  if ← atOption .allnum then
    skip 2
    return some { s with allNum := some (← boolean) }
  if ← atOption .delim then
    skip 2
    return some { s with delimiter := some (← string) }
  return none

/-- A stage `stats options aggregations by groups`. -/
def stats (grammar : Grammar σ) : Parser σ Command := do
  skip 1
  let s ← iterate statsOption? ⟨none, none, none, [], none, [], none⟩
  need .aggregation
  let aggregations ← lenientList (aggregation grammar)
  let (span, groupBy) ← grouping
  let s := { s with aggregations, span, groupBy }
  if ← atOption .dedupSplitvalues then
    skip 2
    return .stats { s with dedupSplitValues := some (← boolean) }
  return .stats s

/-- Passes over an option `name=value` that the command does not know, and reports it.  Whatever
    lexeme stands for the value goes with it. -/
def skipUnknownOption (command : String) : Parser σ Unit := do
  match ← peek with
  | some name =>
    raiseAt (← remaining) (.unknownCommandOption name.text command)
    skip 2
    unless ← atEnd do
      skip 1
  | none => return ()

/-- The next option of `dedup`, if one comes next. -/
def dedupOption? (d : Dedup) : Parser σ (Option Dedup) := do
  unless ← atAssignment do
    return none
  if ← atOption .keepempty then
    skip 2
    return some { d with keepEmpty := some (← boolean) }
  if ← atOption .consecutive then
    skip 2
    return some { d with consecutive := some (← boolean) }
  if ← atOption .dedupSplitvalues then
    skip 2
    return some { d with splitValues := some (← boolean) }
  if ← atOption .partitions then
    skip 2
    return some { d with partitions := some (← integer) }
  skipUnknownOption "dedup"
  return some d

/-- A stage `dedup count fields options`. -/
def dedup : Parser σ Command := do
  skip 1
  let count ← integer?
  need .dedupField
  if ← atAssignment then
    fail (.missing .dedupField)
  let fields ← lenientList fieldName
  return .dedup (← iterate dedupOption? ⟨count, fields, none, none, none, none⟩)

/-- The body of `top` and `rare`: a count, fields and groups.  The command's name is for the
    message on missing fields. -/
def rank : Parser σ Rank := do
  let name := ((← peek).map fun l => l.text.map Char.toLower).getD ""
  skip 1
  let count ← integer?
  need (.rankField name)
  let fields ← lenientList fieldName
  if ← eatKeyword .by_ then
    return ⟨count, fields, ← lenientList fieldName⟩
  return ⟨count, fields, []⟩

end Parser

end PipedQuery
